import NodeDesk.Proofs.Html.Cell
import NodeDesk.View.Listing
/-!
# Table — a listing taken apart into rows and cells

A table is read as text: its head and its body are found by their marks, cut at the ends of their rows, and each row at
its cells (`Table.read?`).  No mark begins in the content of a cell, so the rows and cells are those that were put in,
and each cell shows what its column says of the node (`Listing.table_shows_page`).
-/
namespace NodeDesk
namespace View

open Html (Free Piece Shown cell chars)
open Text (between? insides isClear partsAt)

/-! ## Columns -/

inductive Column where
  | box
  | guid
  | title
  | parent
  | root
  | created
  | isPublic
  | retraction
  | embargo
  | contributors
  deriving Repr, DecidableEq

namespace Listing

variable (v : Listing)

def shownReference : Option String → Shown
  | none => .text "None"
  | some id => .links [⟨v.links.nodeUrl id, id⟩]

def shownUser (u : User) : Html.Link := ⟨v.links.userUrl u.id, u.id⟩

/-- A flag by its word, a text as it is held, and the word for nothing. -/
def shownStatus : Status → Shown
  | .flag true => .text "true"
  | .flag false => .text "false"
  | .named s => .text s
  | .absent => .text "None"

end Listing

namespace Column

def all (showTitle selectable : Bool) : List Column :=
  (if selectable then [box] else []) ++ [guid] ++ (if showTitle then [title] else []) ++
    [parent, root, created, isPublic, retraction, embargo, contributors]

def heading : Column → String
  | box => "<input type=\"checkbox\" id=\"select-all\">"
  | guid => "GUID"
  | title => "Title"
  | parent => "Parent"
  | root => "Root"
  | created => "Date created"
  | isPublic => "Public"
  | retraction => "Withdrawn"
  | embargo => "Embargo"
  | contributors => "Contributors"

variable (v : Listing) (n : Node)

/-- What a column says of a node. -/
def shown : Column → Shown
  | box => .box n.id
  | guid => .links [⟨v.links.nodeUrl n.id, n.id⟩]
  | title => .text (n.title.getD "")
  | parent => v.shownReference n.parent
  | root => v.shownReference n.root
  | created => .text (v.dateStyle.format n.created)
  | isPublic => Listing.shownStatus n.isPublic
  | retraction => Listing.shownStatus n.retraction
  | embargo => Listing.shownStatus n.embargo
  | contributors => .ofLinks (n.contributors.map v.shownUser)

def reference : Option String → List Piece
  | none => [.markup "None"]
  | some id => v.nodeLink id

/-- What stands in the cell of a column. -/
def content : Column → List Piece
  | box => [.markup Html.boxOpening, .text n.id, .markup "\">"]
  | guid => v.nodeLink n.id
  | title => n.title.toList.map .text
  | parent => reference v n.parent
  | root => reference v n.root
  | created => [.text (v.dateStyle.format n.created)]
  | isPublic => [.text n.isPublic.shown]
  | retraction => [.text n.retraction.shown]
  | embargo => [.text n.embargo.shown]
  | contributors => v.userLinks n.contributors

theorem read?_link (url label : String) : Shown.read? (chars (Html.link url label)) = some (.links [⟨url, label⟩]) := by
  have h := Shown.read?_ofLinks [⟨url, label⟩]
  rwa [List.map_singleton, List.intersperse_singleton, List.flatten_singleton] at h

theorem read?_reference (id : Option String) :
    Shown.read? (chars (reference v id)) = some (v.shownReference id) := by
  cases id with
  | none => rfl
  | some id => exact read?_link _ id

theorem read?_status (s : Status) : Shown.read? (chars [.text s.shown]) = some (Listing.shownStatus s) := by
  have hshown : Listing.shownStatus s = .text s.shown := by
    cases s with
    | flag b => cases b <;> rfl
    | named s => rfl
    | absent => rfl
  rw [hshown]
  exact Shown.read?_text s.shown

/-- **A cell shows what its column says of the node.** -/
theorem read?_content (c : Column) : Shown.read? (chars (c.content v n)) = some (c.shown v n) := by
  cases c with
  | box => exact Shown.read?_box n.id
  | guid => exact read?_link _ n.id
  | title =>
    unfold content shown
    cases n.title with
    | none => rfl
    | some t => exact Shown.read?_text t
  | parent => exact read?_reference v n.parent
  | root => exact read?_reference v n.root
  | created => exact Shown.read?_text _
  | isPublic => exact read?_status n.isPublic
  | retraction => exact read?_status n.retraction
  | embargo => exact read?_status n.embargo
  | contributors =>
    have h := Shown.read?_ofLinks (n.contributors.map v.shownUser)
    rw [List.map_map] at h
    exact h

/-- The marks by which a table is taken apart, from within a cell. -/
def marks : List String := ["<td>", "</td>", "</tr>", "</tbody>", "</table>"]

theorem free_link (url label : String) : Free marks (Html.link url label) := .of_all rfl

/-- **No such mark begins in the content of a cell.** -/
theorem free_content (c : Column) : Free marks (c.content v n) := by
  have hreference : ∀ id, Free marks (reference v id) := fun id => by
    cases id with
    | none => exact .of_all rfl
    | some id => exact free_link _ id
  cases c with
  | box => exact .of_all rfl
  | guid => exact free_link _ n.id
  | title =>
    unfold content
    cases n.title with
    | none => exact .nil
    | some t => exact .of_all rfl
  | parent => exact hreference n.parent
  | root => exact hreference n.root
  | contributors =>
    refine Free.intersperse (.of_all rfl) _ fun l hl => ?_
    obtain ⟨u, -, rfl⟩ := List.mem_map.1 hl
    exact free_link _ u.id
  | _ => exact .of_all rfl

end Column

/-! ## Rows and cells -/

def rowOpening : List Char := "<tr>".toList

def rowClosing : List Char := "</tr>".toList

/-- What cells begin and end with, so that none begins in another mark. -/
structure CellMarks where
  opening : List Char
  closing : List Char
  opening_head : opening.head? = some '<'
  closing_ne : closing ≠ []
  opening_closing : isClear opening closing = true
  opening_row : isClear opening rowOpening = true
  row_opening : isClear rowClosing opening = true
  row_closing : isClear rowClosing closing = true

namespace CellMarks

def data : CellMarks := ⟨"<td>".toList, "</td>".toList, rfl, by decide, rfl, rfl, rfl, rfl⟩

def heading : CellMarks := ⟨"<th>".toList, "</th>".toList, rfl, by decide, rfl, rfl, rfl, rfl⟩

variable (m : CellMarks)

/-- The cells of each row of a section, where nothing but space stands behind the last row. -/
def rows? (part : List Char) : Option (List (List (List Char))) :=
  let rows := partsAt rowClosing part
  if (rows.getLast?.getD []).all Char.isWhitespace then some (rows.dropLast.map (insides m.opening m.closing)) else none

def row (cells : List (List Char)) : List Char := rowOpening ++ cells.flatMap fun c => m.opening ++ (c ++ m.closing)

/-- Whether a text may stand in a cell: none of the marks begins in it. -/
def Fits (c : List Char) : Prop :=
  isClear m.opening c = true ∧ isClear m.closing c = true ∧ isClear rowClosing c = true

variable {m}

theorem isClear_row {cells : List (List Char)} (h : ∀ c ∈ cells, m.Fits c) : isClear rowClosing (m.row cells) = true :=
  Text.isClear_append rfl (Text.isClear_flatMap cells fun c hc =>
    Text.isClear_append m.row_opening (Text.isClear_append (h c hc).2.2 m.row_closing))

theorem insides_row {space : List Char} (hs : '<' ∉ space) {cells : List (List Char)} (h : ∀ c ∈ cells, m.Fits c) :
    insides m.opening m.closing (space ++ m.row cells) = cells := by
  have hopening : m.opening ≠ [] := fun e => by
    have hhead := m.opening_head
    rw [e] at hhead
    cases hhead
  have hlead : isClear m.opening (space ++ rowOpening) = true :=
    Text.isClear_append (Text.isClear_of_not_mem m.opening_head hs) m.opening_row
  unfold row
  rw [← List.append_assoc]
  exact Text.insides_flatMap hopening m.closing_ne hlead m.opening_closing cells fun c hc => ⟨(h c hc).1, (h c hc).2.1⟩

/-- **Rows that were written are read back**, cell by cell. -/
theorem rows?_row {space : List Char} (hs : space.all Char.isWhitespace = true) (rows : List (List (List Char)))
    (h : ∀ cells ∈ rows, ∀ c ∈ cells, m.Fits c) :
    m.rows? (space ++ rows.flatMap fun cells => m.row cells ++ (rowClosing ++ space)) = some rows := by
  have hlt : '<' ∉ space := fun hmem => absurd (List.all_eq_true.1 hs _ hmem) (by decide)
  have hlead : isClear rowClosing space = true := Text.isClear_of_not_mem rfl hlt
  have hclear : ∀ b ∈ rows.map m.row, isClear rowClosing b = true := fun b hb => by
    obtain ⟨cells, hcells, rfl⟩ := List.mem_map.1 hb
    exact isClear_row (h cells hcells)
  -- The space behind a row stands before the next one when the text is cut, and the last part is nothing else.
  have hparts := Text.partsAt_ended (by decide) hlead (rows.map m.row) hclear
  have hcells : ∀ cells ∈ rows, insides m.opening m.closing (space ++ m.row cells) = cells := fun cells hc =>
    insides_row hlt (h cells hc)
  rw [List.flatMap_map] at hparts
  unfold rows?
  rw [hparts]
  dsimp only
  rw [List.getLast?_concat, Option.getD_some, if_pos hs, List.dropLast_concat, List.map_map, List.map_map]
  exact congrArg some ((List.map_congr_left hcells).trans (List.map_id rows))

end CellMarks

/-! ## The table -/

/-- A table as it is written: its headings, and its cells row by row. -/
structure Table where
  heads : List (List Char)
  rows : List (List (List Char))
  deriving Repr, DecidableEq

def Table.read? (document : List Char) : Option Table := do
  let head ← between? "<thead>".toList "</thead>".toList document
  let body ← between? "<tbody>".toList "</tbody>".toList document
  let heads ← CellMarks.heading.rows? head
  let rows ← CellMarks.data.rows? body
  return ⟨heads.flatten, rows⟩

namespace Listing

variable (v : Listing) (showTitle selectable : Bool)

def cells (n : Node) : List (List Char) := (Column.all showTitle selectable).map fun c => chars (c.content v n)

def headCells (showTitle selectable : Bool) : List (List Char) :=
  (Column.all showTitle selectable).map fun c => c.heading.toList

def headText (showTitle selectable : Bool) : List Char :=
  CellMarks.heading.row (headCells showTitle selectable) ++ (rowClosing ++ [])

def bodyText (nodes : List Node) : List Char :=
  ['\n'] ++ (nodes.map (v.cells showTitle selectable)).flatMap fun cells =>
    CellMarks.data.row cells ++ (rowClosing ++ ['\n'])

theorem row_eq (n : Node) : v.row showTitle selectable n =
    [.markup "<tr>"] ++ (Column.all showTitle selectable).flatMap (fun c => cell (c.content v n)) ++
      [.markup "</tr>\n"] := by
  have htitle : titleCell n.title = cell (n.title.toList.map .text) := by cases n.title <;> rfl
  have hreference : ∀ id, v.reference id = cell (Column.reference v id) := fun id => by cases id <;> rfl
  unfold row
  rw [htitle, hreference, hreference]
  cases showTitle <;> cases selectable <;>
    simp only [Column.all, Column.content, Selection.checkbox, statusCell, Html.boxOpening, List.flatMap_cons,
      List.flatMap_nil, List.append_assoc, List.cons_append, List.nil_append, List.append_nil, if_true, if_false,
      Bool.false_eq_true]

theorem chars_cell (ps : List Piece) : chars (cell ps) = "<td>".toList ++ (chars ps ++ "</td>".toList) := by
  unfold cell
  simp only [Html.chars_cons, Html.chars_nil, Html.chars_append, Piece.chars, List.append_assoc, List.append_nil]

theorem chars_flatMap {α : Type} (f : α → List Piece) (as : List α) :
    chars (as.flatMap f) = as.flatMap fun a => chars (f a) := List.flatMap_assoc

theorem chars_row (n : Node) : chars (v.row showTitle selectable n) =
    CellMarks.data.row (v.cells showTitle selectable n) ++ (rowClosing ++ ['\n']) := by
  have hcells : chars ((Column.all showTitle selectable).flatMap fun c => cell (c.content v n)) =
      (v.cells showTitle selectable n).flatMap fun c => "<td>".toList ++ (c ++ "</td>".toList) := by
    rw [chars_flatMap, cells, List.flatMap_map]
    exact List.flatMap_congr fun c _ => chars_cell _
  have hopen : chars [.markup "<tr>"] = rowOpening := rfl
  have hclose : chars [.markup "</tr>\n"] = rowClosing ++ ['\n'] := rfl
  rw [row_eq, Html.chars_append, Html.chars_append, hcells, hopen, hclose]
  rfl

theorem chars_rows (nodes : List Node) :
    ['\n'] ++ chars (nodes.flatMap (v.row showTitle selectable)) = v.bodyText showTitle selectable nodes := by
  rw [bodyText, List.flatMap_map, chars_flatMap]
  exact congrArg _ (List.flatMap_congr fun n _ => v.chars_row showTitle selectable n)

theorem chars_headings : chars (headings showTitle selectable) =
    (headCells showTitle selectable).flatMap fun c => "<th>".toList ++ (c ++ "</th>".toList) := by
  have hbox : chars Selection.heading = "<th>".toList ++ (Column.box.heading.toList ++ "</th>".toList) := by
    decide +kernel
  have hguid : chars [.markup "<th>GUID</th>"] =
      "<th>".toList ++ (Column.guid.heading.toList ++ "</th>".toList) := by decide +kernel
  have htitle : chars [.markup "<th>Title</th>"] =
      "<th>".toList ++ (Column.title.heading.toList ++ "</th>".toList) := by decide +kernel
  have hrest : chars [.markup "<th>Parent</th><th>Root</th><th>Date created</th><th>Public</th>",
      .markup "<th>Withdrawn</th><th>Embargo</th><th>Contributors</th>"] =
      [Column.parent, .root, .created, .isPublic, .retraction, .embargo, .contributors].flatMap fun c =>
        "<th>".toList ++ (c.heading.toList ++ "</th>".toList) := by decide +kernel
  unfold headings headCells Column.all
  rw [List.flatMap_map]
  cases showTitle <;> cases selectable <;>
    simp only [Html.chars_append, hbox, hguid, htitle, hrest, List.flatMap_append, List.flatMap_singleton, if_true,
      if_false, Bool.false_eq_true, List.nil_append, List.append_nil]

def tableOpening : List Char := "<table class=\"table table-striped\">\n".toList

/-- A table, with the marks of its sections. -/
theorem chars_table (nodes : List Node) : chars (v.table showTitle selectable nodes) =
    tableOpening ++ ("<thead>".toList ++ (headText showTitle selectable ++
      ("</thead>".toList ++ (['\n'] ++ ("<tbody>".toList ++ (v.bodyText showTitle selectable nodes ++
        ("</tbody>".toList ++ "\n</table>\n".toList))))))) := by
  have hopen : chars [.markup "<table class=\"table table-striped\">\n<thead><tr>"] =
      tableOpening ++ ("<thead>".toList ++ rowOpening) := by decide +kernel
  have hmid : chars [.markup "</tr></thead>\n<tbody>\n"] =
      rowClosing ++ ("</thead>".toList ++ (['\n'] ++ ("<tbody>".toList ++ ['\n']))) := by decide +kernel
  have hclose : chars [.markup "</tbody>\n</table>\n"] = "</tbody>".toList ++ "\n</table>\n".toList := by
    decide +kernel
  have hhead : rowOpening ++ chars (headings showTitle selectable) ++ rowClosing = headText showTitle selectable := by
    rw [chars_headings, headText, List.append_nil]
    rfl
  unfold table
  rw [Html.chars_append, Html.chars_append, Html.chars_append, Html.chars_append, hopen, hmid, hclose, ← hhead,
    ← chars_rows]
  simp only [List.append_assoc]

/-! ### No mark begins elsewhere -/

/-- What stands above the table. -/
def above (page : Page) (form : Option Selection) : List Piece :=
  [.markup "<div class=\"node-list\">\n"] ++ v.pages.pieces page.status ++ [.markup "\n"]
    ++ (match form with
      | none => []
      | some s => s.opening)

theorem exists_below (page : Page) (form : Option Selection) : ∃ below,
    v.pieces page showTitle form = v.above page form ++ (v.table showTitle form.isSome page.nodes ++ below) :=
  ⟨_, by unfold pieces above; simp only [List.append_assoc]; rfl⟩

/-- The marks by which a table is found. -/
def tableMarks : List String := ["<table", "<thead>", "<tbody>"]

theorem free_above (page : Page) (form : Option Selection) : Free tableMarks (v.above page form) := by
  have hback : Free tableMarks (v.pages.backward page.status) := by
    unfold PageLinks.backward
    cases page.status.previous? with
    | none => exact .nil
    | some n => exact .of_all rfl
  have hforth : Free tableMarks (v.pages.forward page.status) := by
    unfold PageLinks.forward
    cases page.status.next? with
    | none => exact .nil
    | some n => exact .of_all rfl
  have hpages : Free tableMarks (v.pages.pieces page.status) :=
    ((((Free.of_all rfl).append hback).append (.of_all rfl)).append hforth).append (.of_all rfl)
  have hlinks : Free tableMarks
      ([.markup "<div class=\"node-list\">\n"] ++ v.pages.pieces page.status ++ [.markup "\n"]) :=
    ((Free.of_all rfl).append hpages).append (.of_all rfl)
  cases form with
  | none => exact hlinks.append .nil
  | some s => exact hlinks.append (.of_all rfl)

/-- The marks that end what rows stand in. -/
def endMarks : List String := ["</tbody>", "</table>"]

theorem free_row (n : Node) : Free endMarks (v.row showTitle selectable n) := by
  have hmarks : endMarks ⊆ Column.marks := by decide
  have hcell : ∀ c : Column, Free endMarks ([.markup "<td>"] ++ c.content v n ++ [.markup "</td>"]) := fun c =>
    ((Free.of_all rfl).append ((Column.free_content v n c).mono hmarks)).append (.of_all rfl)
  rw [row_eq]
  exact ((Free.of_all rfl).append (.flatMap hcell _)).append (.of_all rfl)

theorem isClear_bodyText (nodes : List Node) {k : String} (hk : k ∈ endMarks)
    (hfirst : k.toList.head? = some '<') : isClear k.toList (v.bodyText showTitle selectable nodes) = true := by
  rw [← chars_rows]
  exact Text.isClear_append (Text.isClear_of_not_mem hfirst (by decide))
    ((Free.flatMap (v.free_row showTitle selectable) nodes).isClear_chars hk hfirst)

theorem isClear_headText : ∀ showTitle selectable : Bool,
    ∀ k ∈ ["</thead>", "<tbody>", "</table>"], isClear k.toList (headText showTitle selectable) = true := by
  decide +kernel

theorem fits_cells (n : Node) : ∀ c ∈ v.cells showTitle selectable n, CellMarks.data.Fits c := by
  intro c hc
  obtain ⟨column, -, rfl⟩ := List.mem_map.1 hc
  have hfree := column.free_content v n
  exact ⟨hfree.isClear_chars (k := "<td>") (by decide) rfl, hfree.isClear_chars (k := "</td>") (by decide) rfl,
    hfree.isClear_chars (k := "</tr>") (by decide) rfl⟩

theorem fits_headCells : ∀ c ∈ headCells showTitle selectable, CellMarks.heading.Fits c := by
  intro c hc
  obtain ⟨column, -, rfl⟩ := List.mem_map.1 hc
  cases column <;> exact ⟨rfl, rfl, rfl⟩

theorem between_thead (page : Page) (form : Option Selection) :
    between? "<thead>".toList "</thead>".toList (chars (v.pieces page showTitle form)) =
      some (headText showTitle form.isSome) := by
  obtain ⟨below, hpieces⟩ := v.exists_below showTitle page form
  have habove : isClear "<thead>".toList (chars (v.above page form)) = true :=
    (v.free_above page form).isClear_chars (by decide) rfl
  have hopening : isClear "<thead>".toList tableOpening = true := rfl
  have hhead : isClear "</thead>".toList (headText showTitle form.isSome) = true :=
    isClear_headText showTitle form.isSome "</thead>" (by decide)
  have hfound := Text.between?_append (by decide) (by decide) (Text.isClear_append habove hopening) hhead
  rw [hpieces, Html.chars_append, Html.chars_append, chars_table]
  simp only [List.append_assoc] at hfound ⊢
  exact hfound _

theorem between_tbody (page : Page) (form : Option Selection) :
    between? "<tbody>".toList "</tbody>".toList (chars (v.pieces page showTitle form)) =
      some (v.bodyText showTitle form.isSome page.nodes) := by
  obtain ⟨below, hpieces⟩ := v.exists_below showTitle page form
  have habove : isClear "<tbody>".toList (chars (v.above page form)) = true :=
    (v.free_above page form).isClear_chars (by decide) rfl
  have hopening : isClear "<tbody>".toList (tableOpening ++ "<thead>".toList) = true := rfl
  have hhead : isClear "<tbody>".toList (headText showTitle form.isSome) = true :=
    isClear_headText showTitle form.isSome "<tbody>" (by decide)
  have hbetween : isClear "<tbody>".toList ("</thead>".toList ++ ['\n']) = true := rfl
  have hbody : isClear "</tbody>".toList (v.bodyText showTitle form.isSome page.nodes) = true :=
    v.isClear_bodyText showTitle form.isSome page.nodes (by decide) rfl
  have hbefore := Text.isClear_append (Text.isClear_append (Text.isClear_append habove hopening) hhead) hbetween
  have hfound := Text.between?_append (by decide) (by decide) hbefore hbody
  rw [hpieces, Html.chars_append, Html.chars_append, chars_table]
  simp only [List.append_assoc] at hfound ⊢
  exact hfound _

/-- **A listing is taken apart into the cells that were put in.** -/
theorem read?_pieces (page : Page) (form : Option Selection) :
    Table.read? (chars (v.pieces page showTitle form)) =
      some ⟨headCells showTitle form.isSome, page.nodes.map (v.cells showTitle form.isSome)⟩ := by
  have hhead : CellMarks.heading.rows? (headText showTitle form.isSome) = some [headCells showTitle form.isSome] := by
    have hfits : ∀ cells ∈ [headCells showTitle form.isSome], ∀ c ∈ cells, CellMarks.heading.Fits c := by
      intro cells hcells
      rw [List.mem_singleton.1 hcells]
      exact fits_headCells showTitle form.isSome
    have hrows := CellMarks.rows?_row List.all_nil _ hfits
    rwa [List.nil_append, List.flatMap_singleton] at hrows
  have hbody : CellMarks.data.rows? (v.bodyText showTitle form.isSome page.nodes) =
      some (page.nodes.map (v.cells showTitle form.isSome)) := by
    refine CellMarks.rows?_row rfl _ fun cells hcells => ?_
    obtain ⟨n, -, rfl⟩ := List.mem_map.1 hcells
    exact v.fits_cells showTitle form.isSome n
  unfold Table.read?
  rw [v.between_thead, v.between_tbody]
  simp only [Option.bind_eq_bind, Option.bind_some, hhead, hbody, List.flatten_singleton]
  rfl

/-- **The table shows just the page, row by row.**  Read as text, it has a row for each node, in their order, and each
row has a cell for each heading; a cell shows what its column says of the node, whatever characters that holds.  So the
contributors are read back too, in their order. -/
theorem table_shows_page (page : Page) (form : Option Selection) :
    ∃ t, Table.read? (Html.render (v.pieces page showTitle form)).toList = some t ∧
      t.heads = (Column.all showTitle form.isSome).map (fun c => c.heading.toList) ∧
      t.heads.length = 8 + showTitle.toNat + form.isSome.toNat ∧
      t.rows.length = page.nodes.length ∧
      (∀ row ∈ t.rows, row.length = t.heads.length) ∧
      t.rows.map (fun row => row.map Shown.read?) =
        (page.nodes.map fun n => (Column.all showTitle form.isSome).map fun c => some (c.shown v n)) ∧
      t.rows.map (fun row => (row.getLast?.bind Shown.read?).map Shown.labels) =
        page.nodes.map fun n => some (n.contributors.map User.id) := by
  have hread : Table.read? (Html.render (v.pieces page showTitle form)).toList =
      some ⟨headCells showTitle form.isSome, page.nodes.map (v.cells showTitle form.isSome)⟩ := by
    rw [Html.render, String.toList_ofList, v.read?_pieces]
  refine ⟨_, hread, rfl, ?_, List.length_map _, ?_, ?_, ?_⟩
  · cases showTitle <;> cases form <;> rfl
  · intro row hrow
    obtain ⟨n, -, rfl⟩ := List.mem_map.1 hrow
    exact (List.length_map _).trans (List.length_map _).symm
  · rw [List.map_map]
    refine List.map_congr_left fun n _ => ?_
    show (v.cells showTitle form.isSome n).map Shown.read? = _
    rw [cells, List.map_map]
    exact List.map_congr_left fun c _ => c.read?_content v n
  · rw [List.map_map]
    refine List.map_congr_left fun n _ => ?_
    have hlast : (v.cells showTitle form.isSome n).getLast? = some (chars (Column.contributors.content v n)) := by
      rw [cells, Column.all, List.map_append, List.getLast?_append]
      rfl
    show ((v.cells showTitle form.isSome n).getLast?.bind Shown.read?).map Shown.labels = _
    rw [hlast, Option.bind_some, Column.read?_content, Option.map_some, Column.shown, Shown.labels_ofLinks,
      List.map_map]
    rfl

end Listing

end View
end NodeDesk
