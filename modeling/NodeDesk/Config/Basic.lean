import NodeDesk.Calendar.Style
import NodeDesk.Url.Resolver
/-!
# Config — how the desk is set up

Every setting has a usual value.  A setup is accepted if its pages hold something, its link prefixes end in a slash,
its secret is not empty and its tokens live for some time; the first of these that does not hold is named.
-/
namespace NodeDesk

/-- The setup of a desk. -/
structure Config where
  host : String := "127.0.0.1"
  /-- At most 65535. -/
  serverPort : Nat := 8000
  /-- The origins that may read the answers from other pages. -/
  corsOrigins : List String := []
  perPage : Nat := 100
  /-- Whether titles are shown where a request does not say. -/
  showTitle : Bool := true
  dateStyle : Calendar.DateStyle := .enUs
  links : Url.Resolver := {}
  /-- The secret that tokens are signed with; a random one if there is none. -/
  secret : Option String := none
  /-- How many seconds a token lives. -/
  maxAge : Int := 3600
  /-- The file that holds the nodes to begin with. -/
  fixture : Option String := none
  deriving Repr, DecidableEq

namespace Config

/-- Why a setup is not accepted. -/
inductive Fault where
  | emptyPages
  | badBase (name text : String)
  | emptySecret
  | noLifetime
  deriving Repr, DecidableEq

def Fault.message : Fault → String
  | .emptyPages => "per_page must be > 0"
  | .badBase name text => name ++ " must be non-empty and end with '/': '" ++ text ++ "'"
  | .emptySecret => "csrf_secret must not be empty"
  | .noLifetime => "csrf_max_age_secs must be > 0"

/-- Whether a text ends in a slash. -/
def endsInSlash (s : String) : Bool := s.toList.getLast? == some '/'

def fault? (c : Config) : Option Fault :=
  if c.perPage = 0 then some .emptyPages
  else if ¬ endsInSlash c.links.nodeBase then some (.badBase "node_url_prefix" c.links.nodeBase)
  else if ¬ endsInSlash c.links.userBase then some (.badBase "user_url_prefix" c.links.userBase)
  else if c.secret = some "" then some .emptySecret
  else if c.maxAge ≤ 0 then some .noLifetime
  else none

/-- The address that the desk is to be served at. -/
def address (c : Config) : String := c.host ++ ":" ++ Decimal.text c.serverPort

end Config
end NodeDesk
