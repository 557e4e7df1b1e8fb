import NodeDesk.Proofs.View.Reading
/-!
# Sheet — the form that a browser finds in a listing

What a browser submits is told by the fields of a form: where it goes, the checkboxes that have a name, and the hidden
fields.  They are read off the document (`Sheet.read?`), and of a listing inside a form they are the action, the ids of
the page in their order, and the token (`read?_listing`), whatever characters these and all the rest hold.
-/
namespace NodeDesk
namespace Html
namespace Token

/-- Whether a token opens or closes a form, or is a field of one. -/
def isField (t : Token) : Bool := t.isNamed "form" || t.isNamed "/form" || t.isNamed "input"

end Token
end Html

namespace View

open Html (Each Token cellTokens)

/-- What a browser finds in a form. -/
structure Sheet where
  action : String
  /-- The names of the checkboxes that have one, in their order. -/
  boxes : List String
  /-- The names and values of the hidden fields, in their order. -/
  hidden : List (String × String)
  deriving Repr, DecidableEq

namespace Sheet

/-- The name of a checkbox. -/
def box? (t : Token) : Option String :=
  if t.attribute? "type" = some "checkbox" then t.attribute? "name" else none

/-- The name and value of a hidden field. -/
def hidden? (t : Token) : Option (String × String) :=
  if t.attribute? "type" = some "hidden" then
    (t.attribute? "name").map fun name => (name, (t.attribute? "value").getD "")
  else none

/-- The first form among some fields, up to its end. -/
def ofFields? (fields : List Token) : Option Sheet :=
  match fields.dropWhile fun t => !t.isNamed "form" with
  | [] => none
  | form :: rest =>
    let inside := rest.takeWhile fun t => !t.isNamed "/form"
    (form.attribute? "action").map fun action => ⟨action, inside.filterMap box?, inside.filterMap hidden?⟩

/-- The first form of a document. -/
def read? (document : String) : Option Sheet := ofFields? ((Html.tokens document.toList).filter Token.isField)

end Sheet

/-! ## Which fields a document holds -/

/-- Tags of other names are no fields. -/
theorem fields_of_among {names : List String} {ts : List Token} (h : Each (Token.isAmong names) ts)
    (hn : names.all (fun n => n ≠ "form" ∧ n ≠ "/form" ∧ n ≠ "input") = true) : ts.filter Token.isField = [] := by
  refine h.filter_eq_nil fun t ht => ?_
  cases t with
  | text raw => rfl
  | tag name as =>
    obtain ⟨n, hin, rfl⟩ := Token.isAmong_tag_iff.1 ht
    obtain ⟨hform, hend, hinput⟩ := of_decide_eq_true (List.all_eq_true.1 hn n hin)
    simp only [Token.isField, Token.isNamed, String.toList_inj, hform, hend, hinput, decide_false, Bool.or_self]

theorem fields_cell (ts : List Token) : (cellTokens ts).filter Token.isField = ts.filter Token.isField := by
  have hopen : [Token.tag "td".toList []].filter Token.isField = [] := rfl
  have hclose : [Token.tag "/td".toList []].filter Token.isField = [] := rfl
  unfold cellTokens
  rw [← List.singleton_append, List.filter_append, List.filter_append, hopen, hclose, List.nil_append, List.append_nil]

namespace Listing

variable (v : Listing) (showTitle : Bool)

/-- **A row holds the checkbox of its node and no other field.** -/
theorem fields_row (n : Node) : (v.rowTokens showTitle true n).filter Token.isField = [boxTag n.id] := by
  have hcell : ∀ {ts}, Each isCell ts → ts.filter Token.isField = [] := fun h =>
    fields_of_among (h.mono fun _ => isAmong_of_isCell) (by decide)
  have htitle : (if showTitle then titleTokens n.title else []).filter Token.isField = [] := by
    cases showTitle with
    | false => rfl
    | true => exact hcell (each_title n.title)
  have hopen : [Token.tag "tr".toList []].filter Token.isField = [] := rfl
  have hclose : [Token.tag "/tr".toList [], .text ['\n']].filter Token.isField = [] := rfl
  have hbox : [boxTag n.id].filter Token.isField = [boxTag n.id] := rfl
  unfold rowTokens
  rw [if_pos rfl]
  simp only [List.filter_append, hopen, fields_cell, hbox, hcell (each_link _ _), htitle, hcell (v.each_detail n),
    hclose, List.nil_append, List.append_nil]

/-- **A table holds the checkbox of its heading, and those of its nodes in their order.** -/
theorem fields_table (nodes : List Node) :
    (v.tableTokens showTitle true nodes).filter Token.isField = allTag :: nodes.map fun n => boxTag n.id := by
  have hhead : (headTokens showTitle true).filter Token.isField = [allTag] := by cases showTitle <;> rfl
  have hrows : (nodes.flatMap (v.rowTokens showTitle true)).filter Token.isField = nodes.map fun n => boxTag n.id := by
    rw [List.filter_flatMap, List.flatMap_congr fun n _ => v.fields_row showTitle n, List.map_eq_flatMap]
  have hclose : [Token.tag "/tbody".toList [], .text ['\n'], .tag "/table".toList [], .text ['\n']].filter Token.isField =
      [] := rfl
  unfold tableTokens
  simp only [List.filter_append, hhead, hrows, hclose, List.append_nil]
  rfl

/-- **A listing inside a form holds** what opens the form, the checkboxes, the token and what closes the form. -/
theorem fields_tokens (page : Page) (s : Selection) :
    (v.tokens showTitle page (some s)).filter Token.isField =
      s.formTag :: allTag :: (page.nodes.map fun n => boxTag n.id) ++ [s.tokenTag, Selection.endTag] := by
  have hlinks := fields_of_among (v.pages.among_tokens page.status) (by decide)
  have hclosing : s.closingTokens.filter Token.isField = [s.tokenTag, Selection.endTag] := rfl
  have hend : [Token.tag "/div".toList []].filter Token.isField = [] := rfl
  unfold tokens
  simp only [List.filter_append, hlinks, Option.isSome_some, v.fields_table, hclosing, hend, List.append_nil]
  rfl

theorem fields_document (page : Page) (s : Selection) (site title : String) :
    (Html.tokens (Html.render (layout site title (v.pieces page showTitle (some s)))).toList).filter Token.isField =
      s.formTag :: allTag :: (page.nodes.map fun n => boxTag n.id) ++ [s.tokenTag, Selection.endTag] := by
  have htop : (topTokens site title).filter Token.isField = [] := rfl
  have hbottom : bottomTokens.filter Token.isField = [] := rfl
  rw [Html.tokens_of_reads (reads_layout site title (v.reads_pieces showTitle page (some s))),
    Html.filter_settle fun _ => rfl]
  simp only [List.filter_append, htop, v.fields_tokens, hbottom, List.nil_append, List.append_nil]

end Listing

/-! ## What the fields say -/

theorem ofList_unescapeChars (s : String) : String.ofList (Html.unescapeChars (Html.escapeChars s.toList)) = s := by
  rw [Html.unescapeChars_escapeChars, String.ofList_toList]

theorem box?_boxTag (id : String) : Sheet.box? (boxTag id) = some id := by
  have htype : (boxTag id).attribute? "type" = some "checkbox" := rfl
  have hname : (boxTag id).attribute? "name" =
      some (String.ofList (Html.unescapeChars (Html.escapeChars id.toList))) := rfl
  rw [Sheet.box?, if_pos htype, hname, ofList_unescapeChars]

theorem hidden?_boxTag (id : String) : Sheet.hidden? (boxTag id) = none := by
  have htype : (boxTag id).attribute? "type" = some "checkbox" := rfl
  rw [Sheet.hidden?, htype, if_neg (by decide)]

theorem box?_tokenTag (s : Selection) : Sheet.box? s.tokenTag = none := by
  have htype : s.tokenTag.attribute? "type" = some "hidden" := rfl
  rw [Sheet.box?, htype, if_neg (by decide)]

theorem hidden?_tokenTag (s : Selection) : Sheet.hidden? s.tokenTag = some (tokenField, s.token) := by
  have htype : s.tokenTag.attribute? "type" = some "hidden" := rfl
  have hname : s.tokenTag.attribute? "name" = some tokenField := rfl
  have hvalue : s.tokenTag.attribute? "value" =
      some (String.ofList (Html.unescapeChars (Html.escapeChars s.token.toList))) := rfl
  rw [Sheet.hidden?, if_pos htype, hname, hvalue, ofList_unescapeChars]
  rfl

/-- **The form of a listing**, read off the document: where it leads, the ids of the page, and the token. -/
theorem Sheet.read?_listing (v : Listing) (page : Page) (showTitle : Bool) (s : Selection) (site title : String) :
    Sheet.read? (Html.render (layout site title (v.pieces page showTitle (some s)))) =
      some ⟨s.action, page.nodes.map Node.id, [(tokenField, s.token)]⟩ := by
  have hfields := v.fields_document showTitle page s site title
  have haction : s.formTag.attribute? "action" =
      some (String.ofList (Html.unescapeChars (Html.escapeChars s.action.toList))) := rfl
  have hinside : ∀ t ∈ allTag :: (page.nodes.map fun n => boxTag n.id) ++ [s.tokenTag],
      (!t.isNamed "/form") = true := fun t ht => by
    rw [List.mem_append, List.mem_cons, List.mem_map, List.mem_singleton] at ht
    rcases ht with (rfl | ⟨n, -, rfl⟩) | rfl <;> rfl
  have hboxes : (allTag :: (page.nodes.map fun n => boxTag n.id) ++ [s.tokenTag]).filterMap Sheet.box? =
      page.nodes.map Node.id := by
    have hall : Sheet.box? allTag = none := rfl
    rw [List.filterMap_append, List.filterMap_cons_none hall, List.filterMap_map, List.filterMap_cons_none
      (box?_tokenTag s), List.filterMap_nil, List.append_nil]
    have hsome : Sheet.box? ∘ (fun n : Node => boxTag n.id) = some ∘ Node.id := funext fun n => box?_boxTag n.id
    rw [hsome, List.filterMap_eq_map]
  have hhidden : (allTag :: (page.nodes.map fun n => boxTag n.id) ++ [s.tokenTag]).filterMap Sheet.hidden? =
      [(tokenField, s.token)] := by
    have hall : Sheet.hidden? allTag = none := rfl
    have hnone : (page.nodes.map fun n => boxTag n.id).filterMap Sheet.hidden? = [] :=
      List.filterMap_eq_nil_iff.2 fun t ht => by
        obtain ⟨n, -, rfl⟩ := List.mem_map.1 ht
        exact hidden?_boxTag n.id
    rw [List.filterMap_append, List.filterMap_cons_none hall, hnone, List.filterMap_cons_some (hidden?_tokenTag s)]
    rfl
  unfold Sheet.read?
  rw [hfields]
  have hsplit : s.formTag :: allTag :: (page.nodes.map fun n => boxTag n.id) ++ [s.tokenTag, Selection.endTag] =
      s.formTag :: ((allTag :: (page.nodes.map fun n => boxTag n.id) ++ [s.tokenTag]) ++ [Selection.endTag]) := by
    simp
  unfold Sheet.ofFields?
  rw [hsplit, List.dropWhile_cons_of_neg (by exact Bool.false_ne_true)]
  dsimp only
  rw [List.takeWhile_append_of_pos hinside, List.takeWhile_cons_of_neg (by decide), List.append_nil, haction,
    ofList_unescapeChars, hboxes, hhidden]
  rfl

end View
end NodeDesk
