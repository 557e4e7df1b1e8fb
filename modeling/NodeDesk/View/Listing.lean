import NodeDesk.Calendar.Style
import NodeDesk.Url.Resolver
import NodeDesk.View.PageLinks
import NodeDesk.View.Selection
/-!
# Listing — one page of nodes as a table

A row has a cell for each heading: a checkbox if there is a form, the link to the node, its title if titles are shown,
its parent and root as links, its date in the chosen style, its three status columns as they are held, and a link to
each contributor.
-/
namespace NodeDesk
namespace View

open Html (Piece cell)

/-- How listings are shown. -/
structure Listing where
  links : Url.Resolver := {}
  pages : PageLinks := {}
  dateStyle : Calendar.DateStyle := .enUs
  deriving Repr, DecidableEq

namespace Listing

/-- The link to a node, which shows its id. -/
def nodeLink (v : Listing) (id : String) : List Piece := Html.link (v.links.nodeUrl id) id

/-- The link to a user, which shows their id. -/
def userLink (v : Listing) (u : User) : List Piece := Html.link (v.links.userUrl u.id) u.id

/-- The cell of a parent or root. -/
def reference (v : Listing) (id : Option String) : List Piece :=
  cell (match id with
    | none => [.markup "None"]
    | some id => v.nodeLink id)

/-- The cell of a title, empty if there is none. -/
def titleCell (title : Option String) : List Piece :=
  cell (match title with
    | none => []
    | some t => [.text t])

/-- The links to some users, with commas between them. -/
def userLinks (v : Listing) (us : List User) : List Piece :=
  ((us.map v.userLink).intersperse [.markup ", "]).flatten

def statusCell (s : Status) : List Piece := cell [.text s.shown]

def row (v : Listing) (showTitle selectable : Bool) (n : Node) : List Piece :=
  [.markup "<tr>"] ++ (if selectable then Selection.checkbox n.id else [])
    ++ cell (v.nodeLink n.id)
    ++ (if showTitle then titleCell n.title else [])
    ++ v.reference n.parent ++ v.reference n.root
    ++ cell [.text (v.dateStyle.format n.created)]
    ++ statusCell n.isPublic ++ statusCell n.retraction ++ statusCell n.embargo
    ++ cell (v.userLinks n.contributors)
    ++ [.markup "</tr>\n"]

def headings (showTitle selectable : Bool) : List Piece :=
  (if selectable then Selection.heading else []) ++ [.markup "<th>GUID</th>"]
    ++ (if showTitle then [.markup "<th>Title</th>"] else [])
    ++ [.markup "<th>Parent</th><th>Root</th><th>Date created</th><th>Public</th>",
      .markup "<th>Withdrawn</th><th>Embargo</th><th>Contributors</th>"]

def table (v : Listing) (showTitle selectable : Bool) (nodes : List Node) : List Piece :=
  [.markup "<table class=\"table table-striped\">\n<thead><tr>"] ++ headings showTitle selectable
    ++ [.markup "</tr></thead>\n<tbody>\n"] ++ nodes.flatMap (v.row showTitle selectable)
    ++ [.markup "</tbody>\n</table>\n"]

/-- One page: the way to the others, and the table, inside a form if there is one. -/
def pieces (v : Listing) (page : Page) (showTitle : Bool) (form : Option Selection) : List Piece :=
  [.markup "<div class=\"node-list\">\n"] ++ v.pages.pieces page.status ++ [.markup "\n"]
    ++ (match form with
      | none => []
      | some s => s.opening)
    ++ v.table showTitle form.isSome page.nodes
    ++ (match form with
      | none => []
      | some s => s.closing)
    ++ [.markup "</div>"]

end Listing
end View
end NodeDesk
