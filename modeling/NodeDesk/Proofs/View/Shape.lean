import NodeDesk.Proofs.Html.Frame
import NodeDesk.Proofs.View.Reading
/-!
# Shape — what decides the markup of a document

The markup of a document is decided by its shape: how many nodes there are, how many users each of them has, and which
of the parts that may be left out are there (`frame_of_shape`).  All other content is text in its place, so it decides
neither the tags of the document nor the names of their attributes (`markup_of_shape`).
-/
namespace NodeDesk

structure RowShape where
  parent : Bool
  root : Bool
  contributors : Nat
  deriving Repr, DecidableEq

def Node.rowShape (n : Node) : RowShape := ⟨n.parent.isSome, n.root.isSome, n.contributors.length⟩

namespace View

open Html (Each Harmless Piece Token cell frame inPlace outline)

/-- What a document is made from. -/
structure Content where
  listing : Listing
  page : Page
  showTitle : Bool
  /-- Where the form is submitted to, if there is one. -/
  action : Option String
  token : Option String
  site : String
  title : String

/-- What of this decides the markup. -/
structure Shape where
  rows : List RowShape
  showTitle : Bool
  form : Bool
  previous : Bool
  next : Bool
  deriving Repr, DecidableEq

namespace Content

variable (x y : Content)

def pieces : List Piece :=
  layout x.site x.title (x.listing.pieces x.page x.showTitle (Selection.of? x.action x.token))

def document : String := Html.render x.pieces

def shape : Shape :=
  ⟨x.page.nodes.map Node.rowShape, x.showTitle, x.action.isSome, x.page.status.hasPrevious, x.page.status.hasNext⟩

end Content

/-! ## Frames -/

theorem frame_cell (ps : List Piece) : frame (cell ps) = .markup "<td>" :: frame ps ++ [.markup "</td>"] := by
  unfold cell
  rw [List.cons_append, Html.frame_markup, Html.frame_append]
  rfl

theorem PageLinks.frame_pieces (l l' : PageLinks) {s s' : PageStatus} (hp : s.hasPrevious = s'.hasPrevious)
    (hn : s.hasNext = s'.hasNext) : frame (l.pieces s) = frame (l'.pieces s') := by
  have hback : frame (l.backward s) = frame (l'.backward s') := by
    unfold backward PageStatus.previous?
    rw [hp]
    cases s'.hasPrevious <;> rfl
  have hforth : frame (l.forward s) = frame (l'.forward s') := by
    unfold forward PageStatus.next?
    rw [hn]
    cases s'.hasNext <;> rfl
  unfold pieces
  simp only [Html.frame_append, hback, hforth]
  rfl

namespace Listing

variable (v v' : Listing) (showTitle selectable : Bool)

theorem frame_reference {id id' : Option String} (h : id.isSome = id'.isSome) :
    frame (v.reference id) = frame (v'.reference id') := by
  cases id <;> cases id' <;> first | rfl | cases h

theorem frame_titleCell (title : Option String) : frame (titleCell title) = [.markup "<td>", .markup "</td>"] := by
  cases title <;> rfl

theorem frame_userLinks : ∀ {us us' : List User}, us.length = us'.length →
    frame (v.userLinks us) = frame (v'.userLinks us')
  | [], [], _ => rfl
  | [_], [_], _ => rfl
  | u :: w :: us, u' :: w' :: us', h => by
    have ih : frame (v.userLinks (w :: us)) = frame (v'.userLinks (w' :: us')) := frame_userLinks (Nat.succ.inj h)
    have hcons : ∀ (v : Listing) (u w : User) us, frame (v.userLinks (u :: w :: us)) =
        frame (Html.link "" "") ++ .markup ", " :: frame (v.userLinks (w :: us)) := fun v u w us => by
      unfold userLinks
      rw [List.map_cons, List.map_cons, List.intersperse_cons_cons, List.flatten_cons, List.flatten_cons]
      rfl
    rw [hcons, hcons, ih]

/-- **The markup of a row** is decided by the shape of its node. -/
theorem frame_row {n n' : Node} (h : n.rowShape = n'.rowShape) :
    frame (v.row showTitle selectable n) = frame (v'.row showTitle selectable n') := by
  obtain ⟨hparent, hroot, hcontributors⟩ := RowShape.mk.inj h
  have hbox : frame (if selectable then Selection.checkbox n.id else []) =
      frame (if selectable then Selection.checkbox n'.id else []) := by
    cases selectable <;> rfl
  have htitle : frame (if showTitle then titleCell n.title else []) =
      frame (if showTitle then titleCell n'.title else []) := by
    cases showTitle with
    | false => rfl
    | true => exact (frame_titleCell n.title).trans (frame_titleCell n'.title).symm
  have hlink : ∀ (v : Listing) id, frame (cell (v.nodeLink id)) = frame (cell (Html.link "" "")) := fun _ _ => rfl
  have htext : ∀ t, frame (cell [.text t]) = [.markup "<td>", .markup "</td>"] := fun _ => rfl
  have husers : frame (cell (v.userLinks n.contributors)) = frame (cell (v'.userLinks n'.contributors)) := by
    rw [frame_cell, frame_cell, v.frame_userLinks v' hcontributors]
  unfold row statusCell
  simp only [Html.frame_append, hbox, htitle, hlink, v.frame_reference v' hparent, v.frame_reference v' hroot, htext,
    husers]

theorem frame_rows {ns ns' : List Node} (h : ns.map Node.rowShape = ns'.map Node.rowShape) :
    frame (ns.flatMap (v.row showTitle selectable)) = frame (ns'.flatMap (v'.row showTitle selectable)) := by
  induction ns generalizing ns' with
  | nil =>
    obtain rfl := List.map_eq_nil_iff.1 h.symm
    rfl
  | cons n ns ih =>
    obtain ⟨n', ns', rfl, hn, hns⟩ := List.map_eq_cons_iff.1 h.symm
    rw [List.flatMap_cons, List.flatMap_cons, Html.frame_append, Html.frame_append,
      v.frame_row v' showTitle selectable hn.symm, ih hns.symm]

theorem frame_table {ns ns' : List Node} (h : ns.map Node.rowShape = ns'.map Node.rowShape) :
    frame (v.table showTitle selectable ns) = frame (v'.table showTitle selectable ns') := by
  unfold table
  simp only [Html.frame_append, v.frame_rows v' showTitle selectable h]

theorem frame_pieces {page page' : Page} {form form' : Option Selection}
    (hrows : page.nodes.map Node.rowShape = page'.nodes.map Node.rowShape)
    (hprevious : page.status.hasPrevious = page'.status.hasPrevious)
    (hnext : page.status.hasNext = page'.status.hasNext) (hform : form.isSome = form'.isSome) :
    frame (v.pieces page showTitle form) = frame (v'.pieces page' showTitle form') := by
  have hlinks := v.pages.frame_pieces v'.pages hprevious hnext
  have htable := v.frame_table v' showTitle form'.isSome hrows
  unfold pieces
  simp only [Html.frame_append, hlinks, hform, htable]
  cases form <;> cases form' <;> first | rfl | cases hform

end Listing

/-! ## Tags -/

/-- The names of the tags that no form is needed for. -/
def plainNames : List String :=
  ["!DOCTYPE", "html", "/html", "head", "/head", "meta", "title", "/title", "body", "/body", "header", "/header", "h1",
    "/h1", "main", "/main", "h2", "/h2", "table", "/table", "thead", "/thead", "tbody", "/tbody", "tr", "/tr", "th",
    "/th"] ++ PageLinks.names ++ Listing.cellNames

def formNames : List String := ["form", "/form", "input", "dialog", "/dialog", "script", "/script"]

namespace Listing

variable (v : Listing) (showTitle : Bool)

theorem plain_of_isCell (t : Token) (h : isCell t = true) : t.isAmong plainNames = true :=
  Token.isAmong_mono (List.subset_append_right ..) t (isAmong_of_isCell h)

theorem among_row (n : Node) : Each (Token.isAmong plainNames) (v.rowTokens showTitle false n) := by
  have htitle : Each (Token.isAmong plainNames) (if showTitle then titleTokens n.title else []) := by
    cases showTitle with
    | false => exact .nil
    | true => exact (each_title n.title).mono plain_of_isCell
  have hopen : Each (Token.isAmong plainNames) [.tag "tr".toList []] := .of_all rfl
  have hlink : Each (Token.isAmong plainNames) (Html.cellTokens (Html.linkTokens (v.links.nodeUrl n.id) n.id)) :=
    (each_cell (each_link _ _)).mono plain_of_isCell
  have hdetail := (v.each_detail n).mono plain_of_isCell
  exact ((((hopen.append .nil).append hlink).append htitle).append hdetail).append (.of_all rfl)

theorem among_tokens (page : Page) :
    Each (Token.isAmong plainNames) (v.tokens showTitle page none) := by
  have hlinks : Each (Token.isAmong plainNames) (v.pages.tokens page.status) :=
    (v.pages.among_tokens page.status).mono
      (Token.isAmong_mono (List.Subset.trans (List.subset_append_right ..) (List.subset_append_left ..)))
  have hhead : Each (Token.isAmong plainNames) (headTokens showTitle false) := by cases showTitle <;> exact .of_all rfl
  have hopen : Each (Token.isAmong plainNames) [.tag "table".toList [("class".toList, "table table-striped".toList)],
      .text ['\n'], .tag "thead".toList [], .tag "tr".toList []] := .of_all rfl
  have hbody : Each (Token.isAmong plainNames) [.tag "/tr".toList [], .tag "/thead".toList [], .text ['\n'],
      .tag "tbody".toList [], .text ['\n']] := .of_all rfl
  have hrows := Each.flatMap (v.among_row showTitle) page.nodes
  have hend : Each (Token.isAmong plainNames) [.tag "/tbody".toList [], .text ['\n'], .tag "/table".toList [],
      .text ['\n']] := .of_all rfl
  have htable := (((hopen.append hhead).append hbody).append hrows).append hend
  have hdiv : Each (Token.isAmong plainNames) [.tag "div".toList [("class".toList, "node-list".toList)],
      .text ['\n']] := .of_all rfl
  exact (((((hdiv.append hlinks).append (.of_all rfl)).append .nil).append htable).append .nil).append (.of_all rfl)

end Listing

/-! ## The whole document -/

namespace Content

variable {x y : Content}

/-- **The markup of a document is decided by its shape.** -/
theorem frame_of_shape (h : x.shape = y.shape) : frame x.pieces = frame y.pieces := by
  obtain ⟨hrows, htitle, hform, hprevious, hnext⟩ := Shape.mk.inj h
  have hsome : (Selection.of? x.action x.token).isSome = (Selection.of? y.action y.token).isSome := by
    unfold Selection.of?
    rw [Option.isSome_map, Option.isSome_map, hform]
  have hbody := x.listing.frame_pieces y.listing y.showTitle hrows hprevious hnext hsome
  unfold pieces layout
  simp only [Html.frame_append, htitle, hbody]
  rfl

theorem reads (x : Content) : Html.Reads x.pieces
    (topTokens x.site x.title ++ x.listing.tokens x.showTitle x.page (Selection.of? x.action x.token) ++ bottomTokens) :=
  reads_layout x.site x.title (x.listing.reads_pieces x.showTitle x.page (Selection.of? x.action x.token))

/-- **Without an action** there is no tag of a form. -/
theorem not_mem_formNames {x : Content} (h : x.action = none) :
    ∀ tag ∈ outline x.document, tag.1 ∉ formNames.map String.toList := by
  have hreads := x.reads
  rw [h] at hreads
  have htop : Each (Token.isAmong plainNames) (topTokens x.site x.title) := .of_all rfl
  have hbottom : Each (Token.isAmong plainNames) bottomTokens := .of_all rfl
  have hall := (htop.append (x.listing.among_tokens x.showTitle x.page)).append hbottom
  have hdisjoint : ∀ n ∈ plainNames, n.toList ∉ formNames.map String.toList := by decide +kernel
  unfold outline document
  rw [Html.tokens_of_reads hreads, Html.filterMap_settle fun _ => rfl]
  intro tag htag
  obtain ⟨t, ht, hout⟩ := List.mem_filterMap.1 htag
  have hamong := hall t ht
  cases t with
  | text raw => cases hout
  | tag name as =>
    cases hout
    obtain ⟨n, hn, rfl⟩ := Token.isAmong_tag_iff.1 hamong
    exact hdisjoint n hn

/-- **No text from outside becomes markup.**  A document is markup that its shape decides, and texts that hold no marks
and stand in the text of an element or in a quoted value.  So documents of one shape have the same tags with the same
attributes; and without an action the token decides nothing, and there is no form. -/
theorem markup_of_shape (x y : Content) (h : x.shape = y.shape) :
    frame x.pieces = frame y.pieces ∧
    inPlace (.text []) x.pieces = true ∧
    (∀ t, Piece.text t ∈ x.pieces → Harmless (Piece.text t).chars) ∧
    outline x.document = outline y.document ∧
    (x.action = none →
      (∀ token, { x with token := token }.document = x.document) ∧
      ∀ tag ∈ outline x.document, tag.1 ∉ formNames.map String.toList) := by
  have hframe := frame_of_shape h
  have hx := x.reads.placed []
  have hy := y.reads.placed []
  refine ⟨hframe, hx, fun t _ => Html.harmless_escapeChars t.toList, ?_, fun hnone => ⟨fun token => ?_, ?_⟩⟩
  · unfold document
    rw [Html.outline_eq_frame hx, Html.outline_eq_frame hy, hframe]
  · have hform : Selection.of? x.action token = Selection.of? x.action x.token := by rw [hnone]; rfl
    unfold document pieces
    rw [hform]
  · exact not_mem_formNames hnone

/-- A page whose texts all try to end what they stand in has the tags of a page whose texts are plain. -/
theorem markup_of_hostile_texts :
    let content (s : String) : Content :=
      ⟨{ dateStyle := .custom s, links := ⟨s, s⟩, pages := ⟨s, [(s, s)]⟩ },
        .single [{ id := s, title := some s, created := .epoch, contributors := [⟨s⟩] }], true, none, some s, s, s⟩
    let x := content "\"><script>'&"
    let y := content "plain"
    x.shape = y.shape ∧ outline x.document = outline y.document ∧
      ∀ tag ∈ outline x.document, tag.1 ≠ "script".toList := by
  intro content x y
  have hshape : x.shape = y.shape := rfl
  obtain ⟨-, -, -, houtline, hnone⟩ := markup_of_shape x y hshape
  refine ⟨hshape, houtline, fun tag htag hscript => ?_⟩
  have hmem : tag.1 ∈ formNames.map String.toList := by rw [hscript]; decide
  exact (hnone rfl).2 tag htag hmem

end Content
end View
end NodeDesk
