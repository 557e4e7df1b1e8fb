import Mathlib.Data.List.Forall2
import NodeDesk.Proofs.Html.Settle
import NodeDesk.View.Layout
import NodeDesk.View.Listing
/-!
# Reading — what a listing says

Each part of a listing says one list of tokens, whatever stands around it, and each text of it is in place.  What a
document says as a whole is put together from its parts (`Listing.reads_pieces`, `reads_layout`).
-/
namespace NodeDesk
namespace View

open Html (Each Piece Token Reads cellTokens escapeChars run)

/-! ## The way to the other pages -/

namespace PageLinks

variable (l : PageLinks) (s : PageStatus)

def linkTokens (page : Nat) (label style : String) : List Token :=
  [.tag "a".toList [("class".toList, style.toList), ("href".toList, escapeChars (l.href page).toList)],
    .text label.toList, .tag "/a".toList []]

def backwardTokens : List Token :=
  match s.previous? with
  | none => []
  | some n => l.linkTokens 1 "&laquo; first" "first" ++ l.linkTokens n "previous" "previous"

def forwardTokens : List Token :=
  match s.next? with
  | none => []
  | some n => l.linkTokens n "next" "next" ++ l.linkTokens s.pages "last &raquo;" "last"

def positionTokens (s : PageStatus) : List Token :=
  [.tag "span".toList [("class".toList, "current".toList)], .text "Page ".toList,
    .text (escapeChars (Decimal.text s.number).toList), .text " of ".toList,
    .text (escapeChars (Decimal.text s.pages).toList), .tag "/span".toList []]

def countTokens (s : PageStatus) : List Token :=
  [.tag "/span".toList [], .tag "span".toList [("class".toList, "count".toList)],
    .text (escapeChars (Decimal.text s.total).toList), .text " total".toList, .tag "/span".toList [],
    .tag "/div".toList []]

def tokens : List Token :=
  [.tag "div".toList [("class".toList, "pagination".toList)], .tag "span".toList [("class".toList, "step-links".toList)]]
    ++ l.backwardTokens s ++ positionTokens s ++ l.forwardTokens s ++ countTokens s

theorem reads_link (page : Nat) {label style : String} (hl : '<' ∉ label.toList) (hs : '"' ∉ style.toList) :
    Reads (l.link page label style) (l.linkTokens page label style) := by
  have hopen : run (.text []) ("<a class=\"" ++ style ++ "\" href=\"").toList =
      ([.text []], .quoted "a".toList [("class".toList, style.toList)] "href".toList []) := by
    have hclass : run (.text []) "<a class=\"".toList = ([.text []], .quoted "a".toList [] "class".toList []) := rfl
    have hstyle : run (.quoted "a".toList [] "class".toList []) style.toList =
        ([], .quoted "a".toList [] "class".toList style.toList) := Html.run_quoted [] hs
    have hhref : run (.quoted "a".toList [] "class".toList style.toList) "\" href=\"".toList =
        ([], .quoted "a".toList [("class".toList, style.toList)] "href".toList []) := rfl
    rw [String.toList_append, String.toList_append]
    exact Html.run_of_append (Html.run_of_append hclass hstyle) hhref
  have hclose : run (.text []) (label.toList ++ "</a>".toList) =
      ([.text label.toList, .tag "/a".toList []], .text []) := by
    have hlabel : run (.text []) label.toList = ([], .text label.toList) := Html.run_text [] hl
    have hend : run (.text label.toList) "</a>".toList = ([.text label.toList, .tag "/a".toList []], .text []) := rfl
    exact Html.run_of_append hlabel hend
  have hm : "\">" ++ label ++ "</a>" = String.ofList ('"' :: '>' :: (label.toList ++ "</a>".toList)) := by
    rw [← String.toList_inj]
    simp
  have hsettle : Html.settle [] [.text label.toList, .tag "/a".toList []] =
      ([.text label.toList, .tag "/a".toList []], []) := rfl
  exact .valued "a".toList [("class".toList, style.toList)] "href".toList String.ofList_toList.symm hm hopen
    (by rw [hclose, hsettle]) (by decide) (l.href page)

theorem reads_backward : Reads (l.backward s) (l.backwardTokens s) := by
  unfold backward backwardTokens
  cases s.previous? with
  | none => exact .nil
  | some n => exact (l.reads_link 1 (by decide) (by decide)).append (l.reads_link n (by decide) (by decide))

theorem reads_forward : Reads (l.forward s) (l.forwardTokens s) := by
  unfold forward forwardTokens
  cases s.next? with
  | none => exact .nil
  | some n => exact (l.reads_link n (by decide) (by decide)).append (l.reads_link s.pages (by decide) (by decide))

theorem reads_pieces : Reads (l.pieces s) (l.tokens s) := by
  have hopen : Reads [.markup "<div class=\"pagination\"><span class=\"step-links\">"]
      [.tag "div".toList [("class".toList, "pagination".toList)],
        .tag "span".toList [("class".toList, "step-links".toList)]] := .fixed rfl (by decide +kernel)
  have hpage : Reads [.markup "<span class=\"current\">Page "]
      [.tag "span".toList [("class".toList, "current".toList)], .text "Page ".toList] := .fixed rfl (by decide +kernel)
  have hof : Reads [.markup " of "] [.text " of ".toList] := .fixed rfl (by decide +kernel)
  have hend : Reads [.markup "</span>"] [.tag "/span".toList []] := .fixed rfl (by decide +kernel)
  have hposition := (((hpage.append (.text (Decimal.text s.number))).append hof).append
    (.text (Decimal.text s.pages))).append hend
  have hcount : Reads [.markup "</span><span class=\"count\">"]
      [.tag "/span".toList [], .tag "span".toList [("class".toList, "count".toList)]] := .fixed rfl (by decide +kernel)
  have htotal : Reads [.markup " total</span></div>"]
      [.text " total".toList, .tag "/span".toList [], .tag "/div".toList []] := .fixed rfl (by decide +kernel)
  exact (((hopen.append (l.reads_backward s)).append hposition).append (l.reads_forward s)).append
    ((hcount.append (.text (Decimal.text s.total))).append htotal)

def names : List String := ["div", "/div", "span", "/span", "a", "/a"]

theorem among_tokens : Each (Token.isAmong names) (l.tokens s) := by
  have hlink : ∀ page label style, Each (Token.isAmong names) (l.linkTokens page label style) := fun _ _ _ => .of_all rfl
  have hback : Each (Token.isAmong names) (l.backwardTokens s) := by
    unfold backwardTokens
    cases s.previous? with
    | none => exact .nil
    | some n => exact (hlink 1 _ _).append (hlink n _ _)
  have hforth : Each (Token.isAmong names) (l.forwardTokens s) := by
    unfold forwardTokens
    cases s.next? with
    | none => exact .nil
    | some n => exact (hlink n _ _).append (hlink s.pages _ _)
  have hopen : Each (Token.isAmong names) [.tag "div".toList [("class".toList, "pagination".toList)],
      .tag "span".toList [("class".toList, "step-links".toList)]] := .of_all rfl
  exact (((hopen.append hback).append (.of_all rfl)).append hforth).append (.of_all rfl)

end PageLinks

/-! ## The form -/

/-- The checkbox of a node. -/
def boxTag (id : String) : Token :=
  .tag "input".toList [("type".toList, "checkbox".toList), ("class".toList, "select-node".toList),
    ("name".toList, escapeChars id.toList)]

/-- The checkbox of the heading, which has no name. -/
def allTag : Token := .tag "input".toList [("type".toList, "checkbox".toList), ("id".toList, "select-all".toList)]

namespace Selection

variable (s : Selection)

def formTag (s : Selection) : Token :=
  .tag "form".toList [("id".toList, "spam-form".toList), ("method".toList, "post".toList),
    ("action".toList, escapeChars s.action.toList)]

def tokenTag (s : Selection) : Token :=
  .tag "input".toList [("type".toList, "hidden".toList), ("name".toList, tokenField.toList),
    ("value".toList, escapeChars s.token.toList)]

def endTag : Token := .tag "/form".toList []

/-- A button that is not submitted. -/
def buttonTokens (id style label : String) : List Token :=
  [.tag "button".toList [("type".toList, "button".toList), ("id".toList, id.toList), ("class".toList, style.toList)],
    .text label.toList, .tag "/button".toList []]

def openingTokens : List Token := [s.formTag, .text ['\n']]

/-- What stands in the dialog before the token. -/
def dialogTokens : List Token :=
  buttonTokens "confirm-spam" "btn btn-danger" "Confirm Spam" ++
    [.text ['\n'], .tag "dialog".toList [("id".toList, "spam-dialog".toList)], .text ['\n'], .tag "p".toList [],
      .text "Are you sure you want to mark the selected nodes as spam?".toList, .tag "/p".toList [], .text ['\n']]

/-- What stands in the dialog behind the token. -/
def submitTokens : List Token :=
  [.text ['\n'], .tag "button".toList [("type".toList, "submit".toList), ("class".toList, "btn btn-danger".toList)],
      .text "Confirm".toList, .tag "/button".toList [], .text ['\n']] ++
    buttonTokens "cancel-spam" "btn btn-default" "Cancel" ++
    [.text ['\n'], .tag "/dialog".toList [], .text ['\n'], endTag, .text ['\n']]

/-- In the script nothing is read. -/
def scriptTokens : List Token := [.tag "script".toList [], .tag "/script".toList [], .text ['\n']]

def closingTokens : List Token := dialogTokens ++ s.tokenTag :: submitTokens ++ scriptTokens

theorem reads_opening : Reads s.opening s.openingTokens :=
  .valued "form".toList [("id".toList, "spam-form".toList), ("method".toList, "post".toList)] "action".toList rfl rfl
    (by decide +kernel) (by decide +kernel) (by decide) s.action

theorem reads_checkbox (id : String) : Reads (Selection.checkbox id) (cellTokens [boxTag id]) :=
  Reads.cell (.valued "input".toList [("type".toList, "checkbox".toList), ("class".toList, "select-node".toList)]
    "name".toList rfl rfl (by decide +kernel) rfl (by decide) id)

theorem ofList_intercalate {sep : String} {sepChars : List Char} {ss : List String} {ls : List (List Char)}
    (hs : sep = String.ofList sepChars) (h : List.Forall₂ (fun s cs => s = String.ofList cs) ss ls) :
    String.intercalate sep ss = String.ofList (sepChars.intercalate ls) := by
  have hmap : ss.map String.toList = ls := by
    induction h with
    | nil => rfl
    | cons h _ ih => rw [List.map_cons, ih, h, String.toList_ofList]
  rw [← String.toList_inj, String.toList_intercalate, hmap, hs, String.toList_ofList, String.toList_ofList]

/-- The script is no markup up to its end, though it compares numbers. -/
theorem reads_script : Reads [.markup script] [.tag "script".toList [], .tag "/script".toList []] := by
  have hlines : ∃ ls, script = String.ofList (['\n'].intercalate ls) ∧
      run (.text []) (['\n'].intercalate ls) =
        ([.text [], .tag "script".toList [], .tag "/script".toList []], .text []) := by
    -- The lines are found while they are matched, so no text is taken apart.
    apply Exists.intro
    apply And.intro
    · apply ofList_intercalate rfl
      repeat' constructor
    · decide +kernel
  obtain ⟨ls, hm, h⟩ := hlines
  exact .fixed hm h

theorem reads_token : Reads [.markup ("<input type=\"hidden\" name=\"" ++ tokenField ++ "\" value=\""), .text s.token,
    .markup "\">\n"] [s.tokenTag, .text ['\n']] := by
  have hopen : run (.text []) ("<input type=\"hidden\" name=\"" ++ tokenField ++ "\" value=\"").toList =
      ([.text []], .quoted "input".toList [("type".toList, "hidden".toList), ("name".toList, tokenField.toList)]
        "value".toList []) := by
    have hname : run (.text []) "<input type=\"hidden\" name=\"".toList =
        ([.text []], .quoted "input".toList [("type".toList, "hidden".toList)] "name".toList []) := rfl
    have hfield : run (.quoted "input".toList [("type".toList, "hidden".toList)] "name".toList []) tokenField.toList =
        ([], .quoted "input".toList [("type".toList, "hidden".toList)] "name".toList tokenField.toList) := rfl
    rw [String.toList_append, String.toList_append]
    exact Html.run_of_append (Html.run_of_append hname hfield) rfl
  exact .valued "input".toList [("type".toList, "hidden".toList), ("name".toList, tokenField.toList)] "value".toList
    String.ofList_toList.symm rfl hopen rfl (by decide) s.token

theorem reads_closing : Reads s.closing s.closingTokens := by
  have hbutton : Reads
      [.markup "<button type=\"button\" id=\"confirm-spam\" class=\"btn btn-danger\">Confirm Spam</button>\n"]
      (buttonTokens "confirm-spam" "btn btn-danger" "Confirm Spam" ++ [.text ['\n']]) := .fixed rfl (by decide +kernel)
  have hdialog : Reads [.markup "<dialog id=\"spam-dialog\">\n"]
      [.tag "dialog".toList [("id".toList, "spam-dialog".toList)], .text ['\n']] := .fixed rfl (by decide +kernel)
  have hquestion : Reads [.markup "<p>Are you sure you want to mark the selected nodes as spam?</p>\n"]
      [.tag "p".toList [], .text "Are you sure you want to mark the selected nodes as spam?".toList,
        .tag "/p".toList [], .text ['\n']] := .fixed rfl (by decide +kernel)
  have hsubmit : Reads [.markup "<button type=\"submit\" class=\"btn btn-danger\">Confirm</button>\n"]
      [.tag "button".toList [("type".toList, "submit".toList), ("class".toList, "btn btn-danger".toList)],
        .text "Confirm".toList, .tag "/button".toList [], .text ['\n']] := .fixed rfl (by decide +kernel)
  have hcancel : Reads
      [.markup "<button type=\"button\" id=\"cancel-spam\" class=\"btn btn-default\">Cancel</button>\n"]
      (buttonTokens "cancel-spam" "btn btn-default" "Cancel" ++ [.text ['\n']]) := .fixed rfl (by decide +kernel)
  have hend : Reads [.markup "</dialog>\n", .markup "</form>\n"]
      [.tag "/dialog".toList [], .text ['\n'], endTag, .text ['\n']] :=
    (@Reads.fixed [.tag "/dialog".toList [], .text ['\n']] _ _ rfl (by decide +kernel)).append
      (.fixed rfl (by decide +kernel))
  have hbreak : Reads [.markup "\n"] [.text ['\n']] := .fixed rfl (by decide +kernel)
  have hbefore := (hbutton.append hdialog).append hquestion
  have hbehind := (hsubmit.append hcancel).append hend
  exact (((hbefore.append s.reads_token).append hbehind).append reads_script).append hbreak

end Selection

/-! ## The table -/

def headingTokens (label : String) : List Token :=
  [.tag "th".toList [], .text label.toList, .tag "/th".toList []]

namespace Listing

variable (v : Listing) (showTitle selectable : Bool)

def referenceTokens (id : Option String) : List Token :=
  cellTokens (match id with
    | none => [.text "None".toList]
    | some id => Html.linkTokens (v.links.nodeUrl id) id)

def titleTokens (title : Option String) : List Token :=
  cellTokens (match title with
    | none => []
    | some t => [.text (escapeChars t.toList)])

def userTokens (us : List User) : List Token :=
  ((us.map fun u => Html.linkTokens (v.links.userUrl u.id) u.id).intersperse [.text ", ".toList]).flatten

def textTokens (t : String) : List Token := cellTokens [.text (escapeChars t.toList)]

/-- What the columns behind the title say. -/
def detailTokens (n : Node) : List Token :=
  v.referenceTokens n.parent ++ v.referenceTokens n.root ++ textTokens (v.dateStyle.format n.created)
    ++ textTokens n.isPublic.shown ++ textTokens n.retraction.shown ++ textTokens n.embargo.shown
    ++ cellTokens (v.userTokens n.contributors)

def rowTokens (n : Node) : List Token :=
  [.tag "tr".toList []] ++ (if selectable then cellTokens [boxTag n.id] else [])
    ++ cellTokens (Html.linkTokens (v.links.nodeUrl n.id) n.id) ++ (if showTitle then titleTokens n.title else [])
    ++ v.detailTokens n ++ [.tag "/tr".toList [], .text ['\n']]

def headTokens : List Token :=
  (if selectable then [.tag "th".toList [], allTag, .tag "/th".toList []] else []) ++ headingTokens "GUID"
    ++ (if showTitle then headingTokens "Title" else [])
    ++ ["Parent", "Root", "Date created", "Public", "Withdrawn", "Embargo", "Contributors"].flatMap headingTokens

def tableTokens (nodes : List Node) : List Token :=
  [.tag "table".toList [("class".toList, "table table-striped".toList)], .text ['\n'], .tag "thead".toList [],
      .tag "tr".toList []] ++ headTokens showTitle selectable
    ++ [.tag "/tr".toList [], .tag "/thead".toList [], .text ['\n'], .tag "tbody".toList [], .text ['\n']]
    ++ nodes.flatMap (v.rowTokens showTitle selectable)
    ++ [.tag "/tbody".toList [], .text ['\n'], .tag "/table".toList [], .text ['\n']]

def tokens (page : Page) (form : Option Selection) : List Token :=
  [.tag "div".toList [("class".toList, "node-list".toList)], .text ['\n']] ++ v.pages.tokens page.status ++ [.text ['\n']]
    ++ (match form with
      | none => []
      | some s => s.openingTokens)
    ++ v.tableTokens showTitle form.isSome page.nodes
    ++ (match form with
      | none => []
      | some s => s.closingTokens)
    ++ [.tag "/div".toList []]

theorem reads_reference (id : Option String) : Reads (v.reference id) (v.referenceTokens id) := by
  have hnone : Reads [.markup "None"] [.text "None".toList] := .fixed rfl (by decide +kernel)
  cases id with
  | none => exact hnone.cell
  | some id => exact (Reads.link (v.links.nodeUrl id) id).cell

theorem reads_titleCell (title : Option String) : Reads (titleCell title) (titleTokens title) := by
  cases title with
  | none => exact Reads.nil.cell
  | some t => exact (Reads.text t).cell

theorem reads_userLinks (us : List User) : Reads (v.userLinks us) (v.userTokens us) := by
  have hcomma : Reads [.markup ", "] [.text ", ".toList] := .fixed rfl (by decide +kernel)
  have hlink : ∀ u : User, Reads (v.userLink u) (Html.linkTokens (v.links.userUrl u.id) u.id) := fun _ => .link _ _
  exact hcomma.intersperse hlink us

theorem reads_row (n : Node) : Reads (v.row showTitle selectable n) (v.rowTokens showTitle selectable n) := by
  have hopen : Reads [.markup "<tr>"] [.tag "tr".toList []] := .fixed rfl (by decide +kernel)
  have hclose : Reads [.markup "</tr>\n"] [.tag "/tr".toList [], .text ['\n']] := .fixed rfl (by decide +kernel)
  have hbox : Reads (if selectable then Selection.checkbox n.id else [])
      (if selectable then cellTokens [boxTag n.id] else []) := by
    cases selectable with
    | false => exact .nil
    | true => exact Selection.reads_checkbox n.id
  have hlink : Reads (Html.cell (v.nodeLink n.id)) (cellTokens (Html.linkTokens (v.links.nodeUrl n.id) n.id)) :=
    (Reads.link _ _).cell
  have htitle : Reads (if showTitle then titleCell n.title else []) (if showTitle then titleTokens n.title else []) := by
    cases showTitle with
    | false => exact .nil
    | true => exact reads_titleCell n.title
  have hdate : Reads (Html.cell [.text (v.dateStyle.format n.created)]) (textTokens (v.dateStyle.format n.created)) :=
    (Reads.text _).cell
  have hstatus : ∀ s, Reads (statusCell s) (textTokens s.shown) := fun s => (Reads.text _).cell
  have hdetail := ((((((v.reads_reference n.parent).append (v.reads_reference n.root)).append hdate).append
    (hstatus n.isPublic)).append (hstatus n.retraction)).append (hstatus n.embargo)).append
    (v.reads_userLinks n.contributors).cell
  have h := ((((hopen.append hbox).append hlink).append htitle).append hdetail).append hclose
  unfold row rowTokens detailTokens
  simpa only [List.append_assoc] using h

theorem reads_headings : Reads (headings showTitle selectable) (headTokens showTitle selectable) := by
  have hall : Reads (if selectable then Selection.heading else [])
      (if selectable then [.tag "th".toList [], allTag, .tag "/th".toList []] else []) := by
    cases selectable with
    | false => exact .nil
    | true => exact .fixed rfl (by decide +kernel)
  have hid : Reads [.markup "<th>GUID</th>"] (headingTokens "GUID") := .fixed rfl (by decide +kernel)
  have htitle : Reads (if showTitle then [.markup "<th>Title</th>"] else [])
      (if showTitle then headingTokens "Title" else []) := by
    cases showTitle with
    | false => exact .nil
    | true => exact .fixed rfl (by decide +kernel)
  have hfirst : Reads [.markup "<th>Parent</th><th>Root</th><th>Date created</th><th>Public</th>"]
      (["Parent", "Root", "Date created", "Public"].flatMap headingTokens) := .fixed rfl (by decide +kernel)
  have hlast : Reads [.markup "<th>Withdrawn</th><th>Embargo</th><th>Contributors</th>"]
      (["Withdrawn", "Embargo", "Contributors"].flatMap headingTokens) := .fixed rfl (by decide +kernel)
  exact ((hall.append hid).append htitle).append (hfirst.append hlast)

theorem reads_table (nodes : List Node) :
    Reads (v.table showTitle selectable nodes) (v.tableTokens showTitle selectable nodes) := by
  have hopen : Reads [.markup "<table class=\"table table-striped\">\n<thead><tr>"]
      [.tag "table".toList [("class".toList, "table table-striped".toList)], .text ['\n'], .tag "thead".toList [],
        .tag "tr".toList []] := .fixed rfl (by decide +kernel)
  have hmid : Reads [.markup "</tr></thead>\n<tbody>\n"]
      [.tag "/tr".toList [], .tag "/thead".toList [], .text ['\n'], .tag "tbody".toList [], .text ['\n']] :=
    .fixed rfl (by decide +kernel)
  have hclose : Reads [.markup "</tbody>\n</table>\n"]
      [.tag "/tbody".toList [], .text ['\n'], .tag "/table".toList [], .text ['\n']] := .fixed rfl (by decide +kernel)
  have hrows := Reads.flatMap (v.reads_row showTitle selectable) nodes
  exact (((hopen.append (reads_headings showTitle selectable)).append hmid).append hrows).append hclose

/-- **What a listing says.** -/
theorem reads_pieces (page : Page) (form : Option Selection) :
    Reads (v.pieces page showTitle form) (v.tokens showTitle page form) := by
  have hopen : Reads [.markup "<div class=\"node-list\">\n"]
      [.tag "div".toList [("class".toList, "node-list".toList)], .text ['\n']] := .fixed rfl (by decide +kernel)
  have hbreak : Reads [.markup "\n"] [.text ['\n']] := .fixed rfl (by decide +kernel)
  have hclose : Reads [.markup "</div>"] [.tag "/div".toList []] := .fixed rfl (by decide +kernel)
  have hlinks := (hopen.append (v.pages.reads_pieces page.status)).append hbreak
  have htable := v.reads_table showTitle form.isSome page.nodes
  cases form with
  | none => exact (((hlinks.append .nil).append htable).append .nil).append hclose
  | some s => exact (((hlinks.append s.reads_opening).append htable).append s.reads_closing).append hclose

/-! ### Its tags -/

def cellNames : List String := ["td", "/td", "a", "/a"]

/-- Whether a token may stand in a row: its tags have no class, as links to other pages have. -/
def isCell (t : Token) : Bool := t.isAmong cellNames && (t.attribute? "class").isNone

theorem isAmong_of_isCell {t : Token} (h : isCell t = true) : t.isAmong cellNames = true := (Bool.and_eq_true_iff.1 h).1

theorem each_cell {ts : List Token} (h : Each isCell ts) : Each isCell (cellTokens ts) := by
  have hopen : Each isCell [.tag "td".toList []] := .of_all rfl
  exact (hopen.append h).append (.of_all rfl)

theorem each_link (url label : String) : Each isCell (Html.linkTokens url label) := .of_all rfl

theorem each_text (t : String) : Each isCell (textTokens t) := .of_all rfl

theorem each_title (title : Option String) : Each isCell (titleTokens title) := by
  cases title <;> exact .of_all rfl

theorem each_reference (id : Option String) : Each isCell (v.referenceTokens id) := by
  cases id with
  | none => exact .of_all rfl
  | some id => exact each_cell (each_link _ _)

theorem each_users (us : List User) : Each isCell (v.userTokens us) := by
  refine Each.intersperse (.of_all rfl) _ fun l hl => ?_
  obtain ⟨u, -, rfl⟩ := List.mem_map.1 hl
  exact each_link _ _

theorem each_detail (n : Node) : Each isCell (v.detailTokens n) := by
  have hlinks := (v.each_reference n.parent).append (v.each_reference n.root)
  have hstatus := ((hlinks.append (each_text (v.dateStyle.format n.created))).append (each_text n.isPublic.shown)).append
    (each_text n.retraction.shown)
  exact (hstatus.append (each_text n.embargo.shown)).append (each_cell (v.each_users n.contributors))

end Listing

/-! ## The whole document -/

def topTokens (site title : String) : List Token :=
  [.tag "!DOCTYPE".toList [("html".toList, [])], .text ['\n'], .tag "html".toList [("lang".toList, "en".toList)],
    .text ['\n'], .tag "head".toList [], .text ['\n'], .tag "meta".toList [("charset".toList, "utf-8".toList)],
    .text ['\n'], .tag "title".toList [], .text (escapeChars title.toList), .text " | ".toList,
    .text (escapeChars site.toList), .tag "/title".toList [], .text ['\n'], .tag "/head".toList [], .text ['\n'],
    .tag "body".toList [], .text ['\n'], .tag "header".toList [], .tag "h1".toList [], .text (escapeChars site.toList),
    .tag "/h1".toList [], .tag "/header".toList [], .text ['\n'], .tag "main".toList [], .text ['\n'],
    .tag "h2".toList [], .text (escapeChars title.toList), .tag "/h2".toList [], .text ['\n']]

def bottomTokens : List Token :=
  [.text ['\n'], .tag "/main".toList [], .text ['\n'], .tag "/body".toList [], .text ['\n'], .tag "/html".toList [],
    .text ['\n']]

/-- **What a document says**, with its body. -/
theorem reads_layout (site title : String) {body : List Piece} {ts : List Token} (h : Reads body ts) :
    Reads (layout site title body) (topTokens site title ++ ts ++ bottomTokens) := by
  have hopen : Reads [.markup "<!DOCTYPE html>\n<html lang=\"en\">\n<head>\n<meta charset=\"utf-8\">\n<title>"]
      [.tag "!DOCTYPE".toList [("html".toList, [])], .text ['\n'], .tag "html".toList [("lang".toList, "en".toList)],
        .text ['\n'], .tag "head".toList [], .text ['\n'], .tag "meta".toList [("charset".toList, "utf-8".toList)],
        .text ['\n'], .tag "title".toList []] := .fixed rfl (by decide +kernel)
  have hbar : Reads [.markup " | "] [.text " | ".toList] := .fixed rfl (by decide +kernel)
  have hbody : Reads [.markup "</title>\n</head>\n<body>\n<header><h1>"]
      [.tag "/title".toList [], .text ['\n'], .tag "/head".toList [], .text ['\n'], .tag "body".toList [], .text ['\n'],
        .tag "header".toList [], .tag "h1".toList []] := .fixed rfl (by decide +kernel)
  have hmain : Reads [.markup "</h1></header>\n<main>\n<h2>"]
      [.tag "/h1".toList [], .tag "/header".toList [], .text ['\n'], .tag "main".toList [], .text ['\n'],
        .tag "h2".toList []] := .fixed rfl (by decide +kernel)
  have hend : Reads [.markup "</h2>\n"] [.tag "/h2".toList [], .text ['\n']] := .fixed rfl (by decide +kernel)
  have hbottom : Reads [.markup "\n</main>\n</body>\n</html>\n"] bottomTokens := .fixed rfl (by decide +kernel)
  have hhead := ((hopen.append (.text title)).append hbar).append (.text site)
  have htop := ((((hhead.append hbody).append (.text site)).append hmain).append (.text title)).append hend
  exact (htop.append h).append hbottom

end View
end NodeDesk
