import NodeDesk.Http.Message
/-!
# Cors — who may read a reply from another page

If any origin is configured, every reply says which request headers it depends on and grants the origin of the request
if that is one of them.  An origin that no header could hold is passed over.  `OPTIONS` asks what is allowed, and is
answered before it reaches any page.
-/
namespace NodeDesk
namespace Http

/-- The origins that are granted. -/
structure Cors where
  origins : List Bytes
  deriving Repr, DecidableEq

namespace Cors

/-- Whether a header may hold a byte. -/
def isLegal (b : UInt8) : Bool := b = 0x09 || (0x20 ≤ b && b != 0x7F)

/-- The configured origins that a header may hold. -/
def legal (origins : List String) : List Bytes :=
  (origins.map fun o => Utf8.encode o.toList).filter fun bs => bs.all isLegal

/-- The origin that would grant every origin, which may not be listed. -/
def wildcard : Bytes := [0x2A]

/-- The origin that a request comes from, if it is granted. -/
def granted? (c : Cors) (r : Request) : Option Bytes := (r.header? "origin").filter c.origins.contains

/-- The headers of every reply to a request. -/
def headers (c : Cors) (r : Request) : List (String × String) :=
  ("vary", "origin, access-control-request-method, access-control-request-headers") ::
    match c.granted? r with
    | none => []
    | some o => [("access-control-allow-origin", String.ofList (Utf8.decodeLossy o))]

/-- The reply to a request for what is allowed. -/
def preflight (c : Cors) (r : Request) : Reply :=
  ⟨200, c.headers r ++ [("access-control-allow-methods", "*"), ("access-control-allow-headers", "*")], ""⟩

/-- A reply with the headers that every reply has. -/
def grant (c : Cors) (r : Request) (reply : Reply) : Reply := { reply with headers := reply.headers ++ c.headers r }

end Cors
end Http
end NodeDesk
