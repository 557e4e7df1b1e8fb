import NodeDesk.Log.Record
/-!
# Event — what is logged

Each kind of event has its severity and fields.
-/
namespace NodeDesk
namespace Log

/-- Why a confirmation has no valid token. -/
inductive Rejection where
  | missingToken
  | missingCookie
  | mismatch
  deriving Repr, DecidableEq

def Rejection.reason : Rejection → String
  | .missingToken => "missing token"
  | .missingCookie => "missing cookie"
  | .mismatch => "token mismatch or expired"

/-- What happened. -/
inductive Event where
  /-- A confirmation went through: how many nodes it newly marked, and which were chosen. -/
  | spamConfirmed (flagged : Nat) (ids : List String)
  | tokenRejected (why : Rejection)
  /-- A request was answered. -/
  | requestAnswered (method path : String) (status duration : Nat) (requestId : String)
  | fixtureLoaded (nodes : Nat) (path : String)
  | serverStarted (address : String)
  /-- The program ends with a failure. -/
  | failed (code message : String)
  deriving Repr, DecidableEq

/-- Answers of 500 and more are errors of the desk, those of 400 and more errors of the client. -/
def severityOf (status : Nat) : Severity :=
  if 500 ≤ status then .error else if 400 ≤ status then .warn else .info

def Event.record : Event → Record
  | .spamConfirmed flagged ids =>
    ⟨.info, "SPAM_CONFIRMED", [("flagged", Decimal.text flagged), ("node_ids", String.intercalate "," ids),
      ("selected", Decimal.text ids.length)]⟩
  | .tokenRejected why => ⟨.warn, "CSRF_REJECTED", [("reason", why.reason)]⟩
  | .requestAnswered method path status duration requestId =>
    ⟨severityOf status, "HTTP_REQUEST", [("duration_ms", Decimal.text duration), ("method", method), ("path", path),
      ("request_id", requestId), ("status", Decimal.text status)]⟩
  | .fixtureLoaded nodes path => ⟨.info, "FIXTURE_LOADED", [("nodes", Decimal.text nodes), ("path", path)]⟩
  | .serverStarted address => ⟨.info, "SERVER_START", [("addr", address), ("listing", "/admin/nodes/")]⟩
  | .failed code message => ⟨.fatal, "CLI_FAILED", [("code", code), ("message", message)]⟩

end Log
end NodeDesk
