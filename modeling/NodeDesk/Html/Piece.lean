import NodeDesk.Html.Escape
/-!
# Piece — markup and the text between it

A document is a list of pieces: markup that this library fixes, and texts that come from outside and are escaped when
the document is written.  So nothing from outside can become markup.
-/
namespace NodeDesk
namespace Html

/-- A part of a document. -/
inductive Piece where
  /-- Markup as it stands. -/
  | markup (s : String)
  /-- Text of an element, or of a quoted attribute. -/
  | text (s : String)
  deriving Repr, DecidableEq

def Piece.chars : Piece → List Char
  | .markup s => s.toList
  | .text s => escapeChars s.toList

def chars (ps : List Piece) : List Char := ps.flatMap Piece.chars

def render (ps : List Piece) : String := String.ofList (chars ps)

@[simp] theorem chars_nil : chars [] = [] := rfl

@[simp] theorem chars_cons (p : Piece) (ps : List Piece) : chars (p :: ps) = p.chars ++ chars ps := rfl

@[simp] theorem chars_append (ps qs : List Piece) : chars (ps ++ qs) = chars ps ++ chars qs := by
  simp [chars]

/-- A link to `url` that shows `label`. -/
def link (url label : String) : List Piece :=
  [.markup "<a href=\"", .text url, .markup "\">", .text label, .markup "</a>"]

def cell (content : List Piece) : List Piece := .markup "<td>" :: content ++ [.markup "</td>"]

end Html
end NodeDesk
