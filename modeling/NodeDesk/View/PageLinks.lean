import NodeDesk.Html.Piece
import NodeDesk.Page
/-!
# PageLinks — the way from one page to the others

Above a listing stand links to the first and previous page, the position, and links to the next and last page; a link
is left out where there is no page to lead to.
-/
namespace NodeDesk
namespace View

open Html (Piece)

/-- Where the links of a listing lead. -/
structure PageLinks where
  /-- What stands before the question mark; nothing for the page that is shown. -/
  base : String := ""
  /-- What every link asks for besides its page. -/
  query : List (String × String) := []
  deriving Repr, DecidableEq

namespace PageLinks

/-- What a link asks for besides its page: each pair as it stands, with an ampersand before it. -/
def more (query : List (String × String)) : List Char :=
  query.flatMap fun q => '&' :: q.1.toList ++ '=' :: q.2.toList

/-- The address of a page. -/
def href (l : PageLinks) (page : Nat) : String :=
  l.base ++ "?page=" ++ Decimal.text page ++ String.ofList (more l.query)

def link (l : PageLinks) (page : Nat) (label style : String) : List Piece :=
  [.markup ("<a class=\"" ++ style ++ "\" href=\""), .text (l.href page), .markup ("\">" ++ label ++ "</a>")]

/-- The links before the position. -/
def backward (l : PageLinks) (s : PageStatus) : List Piece :=
  match s.previous? with
  | none => []
  | some n => l.link 1 "&laquo; first" "first" ++ l.link n "previous" "previous"

/-- The links after the position. -/
def forward (l : PageLinks) (s : PageStatus) : List Piece :=
  match s.next? with
  | none => []
  | some n => l.link n "next" "next" ++ l.link s.pages "last &raquo;" "last"

/-- The links, the position and the number of items. -/
def pieces (l : PageLinks) (s : PageStatus) : List Piece :=
  [.markup "<div class=\"pagination\"><span class=\"step-links\">"] ++ l.backward s
    ++ [.markup "<span class=\"current\">Page ", .text (Decimal.text s.number), .markup " of ",
      .text (Decimal.text s.pages), .markup "</span>"]
    ++ l.forward s
    ++ [.markup "</span><span class=\"count\">", .text (Decimal.text s.total), .markup " total</span></div>"]

end PageLinks
end View
end NodeDesk
