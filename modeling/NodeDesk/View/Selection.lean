import NodeDesk.Html.Piece
/-!
# Selection — choosing nodes and confirming the choice

Each row has a checkbox named after its node.  A button opens a dialog that holds the token and the button that
submits the form; a script ties the checkboxes, the buttons and the dialog together.
-/
namespace NodeDesk
namespace View

open Html (Piece)

/-- The field that a confirmation carries its token in. -/
def tokenField : String := "csrfmiddlewaretoken"

/-- A form around the listing. -/
structure Selection where
  /-- Where the form is submitted to. -/
  action : String
  /-- The token that a confirmation is to carry. -/
  token : String
  deriving Repr, DecidableEq

namespace Selection

/-- A form if there is an action to submit it to, with the token if there is one. -/
def of? (action token : Option String) : Option Selection := action.map fun a => ⟨a, token.getD ""⟩

/-- The script that opens and closes the dialog and checks all rows at once. -/
def script : String :=
  String.intercalate "\n"
    ["<script>",
      "document.addEventListener(\"DOMContentLoaded\", function () \x7b",
      "  var source = document.getElementById(\"select-all\");",
      "  if (source) \x7b",
      "    source.addEventListener(\"change\", function () \x7b",
      "      var boxes = document.getElementsByClassName(\"select-node\");",
      "      for (var i = 0; i < boxes.length; i++) \x7b",
      "        boxes[i].checked = source.checked;",
      "      \x7d",
      "    \x7d);",
      "  \x7d",
      "  var dialog = document.getElementById(\"spam-dialog\");",
      "  var open = document.getElementById(\"confirm-spam\");",
      "  var cancel = document.getElementById(\"cancel-spam\");",
      "  if (dialog && open) \x7b",
      "    open.addEventListener(\"click\", function () \x7b dialog.showModal(); \x7d);",
      "  \x7d",
      "  if (dialog && cancel) \x7b",
      "    cancel.addEventListener(\"click\", function () \x7b dialog.close(); \x7d);",
      "  \x7d",
      "\x7d);",
      "</script>"]

/-- What opens the form. -/
def opening (s : Selection) : List Piece :=
  [.markup "<form id=\"spam-form\" method=\"post\" action=\"", .text s.action, .markup "\">\n"]

/-- The heading of the column of checkboxes. -/
def heading : List Piece := [.markup "<th><input type=\"checkbox\" id=\"select-all\"></th>"]

def checkbox (id : String) : List Piece :=
  Html.cell [.markup "<input type=\"checkbox\" class=\"select-node\" name=\"", .text id, .markup "\">"]

/-- The button, the dialog with the token, and what closes the form. -/
def closing (s : Selection) : List Piece :=
  [.markup "<button type=\"button\" id=\"confirm-spam\" class=\"btn btn-danger\">Confirm Spam</button>\n",
    .markup "<dialog id=\"spam-dialog\">\n",
    .markup "<p>Are you sure you want to mark the selected nodes as spam?</p>\n",
    .markup ("<input type=\"hidden\" name=\"" ++ tokenField ++ "\" value=\""), .text s.token, .markup "\">\n",
    .markup "<button type=\"submit\" class=\"btn btn-danger\">Confirm</button>\n",
    .markup "<button type=\"button\" id=\"cancel-spam\" class=\"btn btn-default\">Cancel</button>\n",
    .markup "</dialog>\n", .markup "</form>\n", .markup script, .markup "\n"]

end Selection
end View
end NodeDesk
