import NodeDesk.Proofs.View.Sheet
/-!
# Grid — the links in the cells of a table

What a browser can follow in a listing is told by the cells of its rows: each holds some addresses.  They are read off
the body of the table (`Grid.read`), and are those that were put in, in their rows and cells (`read_listing`), whatever
characters these and all the rest hold.
-/
namespace NodeDesk
namespace View

open Html (Each Token cellTokens)

/-- What is read in a table: where its body and its rows and cells begin, and its links. -/
inductive Mark where
  | body
  | row
  | cell
  | link (address : String)
  deriving Repr, DecidableEq

/-- The rows of a table, each with its cells and their links. -/
abbrev Grid := List (List (List String))

namespace Grid

def mark? (t : Token) : Option Mark :=
  if t.isNamed "tbody" then some .body
  else if t.isNamed "tr" then some .row
  else if t.isNamed "td" then some .cell
  else if t.isNamed "a" then (t.attribute? "href").map .link
  else none

/-- What is gathered behind a mark: links that stand in no cell yet, cells that stand in no row yet, and rows. -/
structure Gathered where
  links : List String := []
  cells : List (List String) := []
  rows : Grid := []

def Gathered.behind : Mark → Gathered → Gathered
  | .body, g => g
  | .row, g => ⟨[], [], g.cells :: g.rows⟩
  | .cell, g => ⟨[], g.links :: g.cells, g.rows⟩
  | .link address, g => ⟨address :: g.links, g.cells, g.rows⟩

def gather (ms : List Mark) : Gathered := ms.foldr Gathered.behind {}

/-- The rows of the body of the first table of a document. -/
def read (document : String) : Grid :=
  (gather (((Html.tokens document.toList).filterMap mark?).dropWhile (· ≠ .body))).rows

/-! ## Rows and cells -/

def cellMarks (links : List String) : List Mark := .cell :: links.map .link

def rowMarks (cells : List (List String)) : List Mark := .row :: cells.flatMap cellMarks

theorem gather_links (links : List String) {ms : List Mark} {cells : List (List String)} {rows : Grid}
    (h : gather ms = ⟨[], cells, rows⟩) : gather (links.map .link ++ ms) = ⟨links, cells, rows⟩ := by
  induction links with
  | nil => exact h
  | cons l ls ih =>
    show Gathered.behind (.link l) (gather (ls.map .link ++ ms)) = _
    rw [ih]
    rfl

theorem gather_cells (cells : List (List String)) {ms : List Mark} {more : List (List String)} {rows : Grid}
    (h : gather ms = ⟨[], more, rows⟩) : gather (cells.flatMap cellMarks ++ ms) = ⟨[], cells ++ more, rows⟩ := by
  induction cells with
  | nil => exact h
  | cons c cs ih =>
    rw [List.flatMap_cons, List.append_assoc]
    show Gathered.behind .cell (gather (c.map .link ++ (cs.flatMap cellMarks ++ ms))) = _
    rw [gather_links c ih]
    rfl

/-- **Rows are gathered from their marks.** -/
theorem gather_rows (rows : Grid) : gather (rows.flatMap rowMarks) = ⟨[], [], rows⟩ := by
  induction rows with
  | nil => rfl
  | cons cells rows ih =>
    rw [List.flatMap_cons]
    show Gathered.behind .row (gather (cells.flatMap cellMarks ++ rows.flatMap rowMarks)) = _
    rw [gather_cells cells ih, List.append_nil]
    rfl

end Grid

namespace Listing

variable (v : Listing) (showTitle selectable : Bool)

/-- The links in the cells of a row. -/
def addresses (n : Node) : List (List String) :=
  (if selectable then [[]] else []) ++ [[v.links.nodeUrl n.id]] ++ (if showTitle then [[]] else []) ++
    [n.parent.toList.map v.links.nodeUrl, n.root.toList.map v.links.nodeUrl, [], [], [], [],
      n.contributors.map fun u => v.links.userUrl u.id]

theorem marks_cell {ts : List Token} {links : List String} (h : ts.filterMap Grid.mark? = links.map .link) :
    (cellTokens ts).filterMap Grid.mark? = Grid.cellMarks links := by
  have hopen : [Token.tag "td".toList []].filterMap Grid.mark? = [.cell] := rfl
  have hclose : [Token.tag "/td".toList []].filterMap Grid.mark? = [] := rfl
  unfold cellTokens
  rw [← List.singleton_append, List.filterMap_append, List.filterMap_append, hopen, h, hclose, List.append_nil]
  rfl

theorem marks_link (url label : String) :
    (Html.linkTokens url label).filterMap Grid.mark? = [url].map .link := by
  have hlink : (Html.linkTokens url label).filterMap Grid.mark? =
      [.link (String.ofList (Html.unescapeChars (Html.escapeChars url.toList)))] := rfl
  rw [hlink, ofList_unescapeChars]
  rfl

theorem marks_reference (id : Option String) :
    (v.referenceTokens id).filterMap Grid.mark? = Grid.cellMarks (id.toList.map v.links.nodeUrl) := by
  apply marks_cell
  cases id with
  | none => rfl
  | some id => exact marks_link _ _

theorem marks_users (us : List User) :
    (v.userTokens us).filterMap Grid.mark? = (us.map fun u => v.links.userUrl u.id).map .link := by
  have hcomma : [Token.text ", ".toList].filterMap Grid.mark? = [] := rfl
  unfold userTokens
  induction us with
  | nil => rfl
  | cons u us ih =>
    cases us with
    | nil => simp only [List.map_cons, List.map_nil, List.intersperse_singleton, List.flatten_cons, List.flatten_nil,
        List.append_nil, marks_link]
    | cons u' us =>
      simp only [List.map_cons] at ih ⊢
      rw [List.intersperse_cons_cons, List.flatten_cons, List.flatten_cons, List.filterMap_append,
        List.filterMap_append, marks_link, hcomma, ih]
      rfl

theorem marks_text (t : String) : (textTokens t).filterMap Grid.mark? = Grid.cellMarks [] := marks_cell rfl

theorem marks_title (title : Option String) : (titleTokens title).filterMap Grid.mark? = Grid.cellMarks [] := by
  apply marks_cell
  cases title <;> rfl

/-- **The cells of a row hold the links that were put into them.** -/
theorem marks_row (n : Node) :
    (v.rowTokens showTitle selectable n).filterMap Grid.mark? = Grid.rowMarks (v.addresses showTitle selectable n) := by
  have hopen : [Token.tag "tr".toList []].filterMap Grid.mark? = [.row] := rfl
  have hclose : [Token.tag "/tr".toList [], .text ['\n']].filterMap Grid.mark? = [] := rfl
  have hbox : (cellTokens [boxTag n.id]).filterMap Grid.mark? = Grid.cellMarks [] := marks_cell rfl
  have hguid := marks_cell (marks_link (v.links.nodeUrl n.id) n.id)
  have husers := marks_cell (v.marks_users n.contributors)
  have hdetail : (v.detailTokens n).filterMap Grid.mark? =
      Grid.cellMarks (n.parent.toList.map v.links.nodeUrl) ++ Grid.cellMarks (n.root.toList.map v.links.nodeUrl) ++
        Grid.cellMarks [] ++ Grid.cellMarks [] ++ Grid.cellMarks [] ++ Grid.cellMarks [] ++
        Grid.cellMarks (n.contributors.map fun u => v.links.userUrl u.id) := by
    unfold detailTokens
    simp only [List.filterMap_append, marks_reference, marks_text, husers]
  have hcell : (if selectable then cellTokens [boxTag n.id] else []).filterMap Grid.mark? =
      (if selectable then [[]] else []).flatMap Grid.cellMarks := by
    cases selectable with
    | false => rfl
    | true => exact hbox
  have htitle : (if showTitle then titleTokens n.title else []).filterMap Grid.mark? =
      (if showTitle then [[]] else []).flatMap Grid.cellMarks := by
    cases showTitle with
    | false => rfl
    | true => exact marks_title n.title
  unfold rowTokens
  simp only [List.filterMap_append, hopen, hcell, hguid, htitle, hdetail, hclose]
  simp [Grid.rowMarks, addresses]

/-- **The body of a table holds the links of its rows.** -/
theorem marks_table (nodes : List Node) :
    (v.tableTokens showTitle selectable nodes).filterMap Grid.mark? =
      .row :: .body :: (nodes.map (v.addresses showTitle selectable)).flatMap Grid.rowMarks := by
  have hopen : [Token.tag "table".toList [("class".toList, "table table-striped".toList)], .text ['\n'],
      .tag "thead".toList [], .tag "tr".toList []].filterMap Grid.mark? = [.row] := rfl
  have hhead : (headTokens showTitle selectable).filterMap Grid.mark? = [] := by
    cases showTitle <;> cases selectable <;> rfl
  have hbody : [Token.tag "/tr".toList [], .tag "/thead".toList [], .text ['\n'], .tag "tbody".toList [],
      .text ['\n']].filterMap Grid.mark? = [.body] := rfl
  have hclose : [Token.tag "/tbody".toList [], .text ['\n'], .tag "/table".toList [], .text ['\n']].filterMap
      Grid.mark? = [] := rfl
  have hrows : (nodes.flatMap (v.rowTokens showTitle selectable)).filterMap Grid.mark? =
      (nodes.map (v.addresses showTitle selectable)).flatMap Grid.rowMarks := by
    rw [List.filterMap_flatMap, List.flatMap_map]
    exact List.flatMap_congr fun n _ => v.marks_row showTitle selectable n
  unfold tableTokens
  simp only [List.filterMap_append, hopen, hhead, hbody, hrows, hclose, List.append_nil]
  rfl

end Listing

namespace Grid

theorem isNamed_of_mark?_eq_body {t : Token} (h : mark? t = some .body) : t.isNamed "tbody" = true := by
  unfold mark? at h
  split at h
  · assumption
  · split at h
    · cases h
    · split at h
      · cases h
      · split at h
        · obtain ⟨address, -, hlink⟩ := Option.map_eq_some_iff.1 h
          cases hlink
        · cases h

/-- No table has its body where no tag of that name is. -/
theorem not_mem_marks {names : List String} {ts : List Token} (h : Each (Token.isAmong names) ts)
    (hn : "tbody" ∉ names) : .body ∉ ts.filterMap mark? := by
  intro hbody
  obtain ⟨t, ht, hmark⟩ := List.mem_filterMap.1 hbody
  have hname := isNamed_of_mark?_eq_body hmark
  cases t with
  | text raw => cases hname
  | tag name as =>
    obtain ⟨n, hin, rfl⟩ := Token.isAmong_tag_iff.1 (h _ ht)
    exact hn (String.toList_inj.1 (of_decide_eq_true hname) ▸ hin)

theorem read_of_marks {document : String} {before : List Mark} {rows : Grid} (hb : .body ∉ before)
    (h : (Html.tokens document.toList).filterMap mark? = before ++ .body :: rows.flatMap rowMarks) :
    read document = rows := by
  have hbefore : ∀ k ∈ before, decide (k ≠ .body) = true := fun k hk => decide_eq_true fun e => hb (e ▸ hk)
  unfold read
  rw [h, List.dropWhile_append_of_pos hbefore, List.dropWhile_cons_of_neg (by simp)]
  show (Gathered.behind .body (gather (rows.flatMap rowMarks))).rows = rows
  rw [gather_rows]
  rfl

/-- **The links in the cells of a listing are those that were put in.** -/
theorem read_listing (v : Listing) (page : Page) (showTitle : Bool) (form : Option Selection) (site title : String) :
    read (Html.render (layout site title (v.pieces page showTitle form))) =
      page.nodes.map (v.addresses showTitle form.isSome) := by
  have htop : (topTokens site title).filterMap mark? = [] := rfl
  have hbottom : bottomTokens.filterMap mark? = [] := rfl
  have hopen : [Token.tag "div".toList [("class".toList, "node-list".toList)], .text ['\n']].filterMap mark? = [] := rfl
  have hbreak : [Token.text ['\n']].filterMap mark? = [] := rfl
  have hopening : ∀ s : Selection, s.openingTokens.filterMap mark? = [] := fun _ => rfl
  have hclosing : ∀ s : Selection, s.closingTokens.filterMap mark? = [] := fun _ => rfl
  have hclose : [Token.tag "/div".toList []].filterMap mark? = [] := rfl
  have hpages : .body ∉ (v.pages.tokens page.status).filterMap mark? :=
    not_mem_marks (v.pages.among_tokens page.status) (by decide)
  have hbefore : .body ∉ (v.pages.tokens page.status).filterMap mark? ++ [.row] := by simpa using hpages
  refine read_of_marks hbefore ?_
  rw [Html.tokens_of_reads (reads_layout site title (v.reads_pieces showTitle page form)),
    Html.filterMap_settle fun _ => rfl]
  unfold Listing.tokens
  cases form <;>
    simp only [List.filterMap_append, htop, hopen, hbreak, hopening, v.marks_table, hclosing, hclose, hbottom,
      List.nil_append, List.append_nil]
  all_goals simp

end Grid
end View
end NodeDesk
