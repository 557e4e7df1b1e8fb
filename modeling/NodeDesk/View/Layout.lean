import NodeDesk.Html.Piece
/-!
# Layout — what stands around a listing

A document with its title in the head and above the body, and the name of the site beside both.
-/
namespace NodeDesk
namespace View

open Html (Piece)

/-- The name of the site where no other is given. -/
def siteName : String := "Node Admin"

/-- A document around a body. -/
def layout (site title : String) (body : List Piece) : List Piece :=
  [.markup "<!DOCTYPE html>\n<html lang=\"en\">\n<head>\n<meta charset=\"utf-8\">\n<title>", .text title,
    .markup " | ", .text site, .markup "</title>\n</head>\n<body>\n<header><h1>", .text site,
    .markup "</h1></header>\n<main>\n<h2>", .text title, .markup "</h2>\n"]
    ++ body ++ [.markup "\n</main>\n</body>\n</html>\n"]

end View
end NodeDesk
