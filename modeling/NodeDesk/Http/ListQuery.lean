import NodeDesk.Text.Decimal
import NodeDesk.Url.Form
/-!
# ListQuery — what a request asks of a listing

The page, and whether titles are shown.  Each may be given once; anything else in the query is passed over.
-/
namespace NodeDesk
namespace Http

/-- What a request asks of a listing. -/
structure ListQuery where
  page : Option Nat := none
  showTitle : Option Bool := none
  deriving Repr, DecidableEq

namespace ListQuery

/-- Why a query is not read. -/
inductive Fault where
  | repeated (name : String)
  | page (why : Decimal.Fault)
  | flag
  deriving Repr, DecidableEq

def Fault.message : Fault → String
  | .repeated name => "duplicate field `" ++ name ++ "`"
  | .page why => why.message
  | .flag => "provided string was not `true` or `false`"

def step (q : ListQuery) (pair : String × String) : Except Fault ListQuery :=
  if pair.1 = "page" then
    if q.page.isSome then .error (.repeated "page")
    else match Decimal.read? maxWord pair.2.toList with
      | .ok n => .ok { q with page := some n }
      | .error why => .error (.page why)
  else if pair.1 = "show_title" then
    if q.showTitle.isSome then .error (.repeated "show_title")
    else if pair.2 = "true" then .ok { q with showTitle := some true }
    else if pair.2 = "false" then .ok { q with showTitle := some false }
    else .error .flag
  else .ok q

def ofPairs (pairs : List (String × String)) : Except Fault ListQuery := pairs.foldlM step {}

def read (query : Option (List Char)) : Except Fault ListQuery :=
  ofPairs (Url.Form.decode (Utf8.encode (query.getD [])))

/-- The query of the page that was asked for, with the usual values for what was not said. -/
def text (q : ListQuery) (usualTitle : Bool) : String :=
  "?page=" ++ Decimal.text (q.page.getD 1) ++ "&show_title="
    ++ (if q.showTitle.getD usualTitle then "true" else "false")

end ListQuery
end Http
end NodeDesk
