import NodeDesk.Json.Value
import NodeDesk.Node.Basic
/-!
# Page — one page of a list that is too long for one

Pages are counted from 1.  An empty list still has one page, which is empty.
-/
namespace NodeDesk

/-- Which page of how long a list this is. -/
structure PageStatus where
  number : Nat
  /-- How many items a page holds. -/
  perPage : Nat
  /-- How many items there are in all. -/
  total : Nat
  deriving Repr, DecidableEq

namespace PageStatus

/-- The number of pages: one for an empty list or if a page holds nothing, else the quotient rounded up. -/
def pages (s : PageStatus) : Nat :=
  if s.total = 0 ∨ s.perPage = 0 then 1 else (s.total + s.perPage - 1) / s.perPage

/-- Whether there is a page before this one. -/
def hasPrevious (s : PageStatus) : Bool := 1 < s.number

/-- Whether there is a page after this one. -/
def hasNext (s : PageStatus) : Bool := s.number < s.pages

/-- The number of the page before this one. -/
def previous? (s : PageStatus) : Option Nat := if s.hasPrevious then some (s.number - 1) else none

/-- The number of the page after this one. -/
def next? (s : PageStatus) : Option Nat := if s.hasNext then some (s.number + 1) else none

/-- How many items stand on the pages before this one. -/
def offset (s : PageStatus) : Nat := (s.number - 1) * s.perPage

def toJson (s : PageStatus) : Json.Value :=
  .object [("number", .natural s.number), ("per_page", .natural s.perPage), ("total_count", .natural s.total),
    ("num_pages", .natural s.pages)]

end PageStatus

/-- The nodes of one page. -/
structure Page where
  nodes : List Node
  status : PageStatus
  deriving Repr, DecidableEq

/-- One page that holds all nodes. -/
def Page.single (nodes : List Node) : Page := ⟨nodes, ⟨1, max nodes.length 1, nodes.length⟩⟩

end NodeDesk
