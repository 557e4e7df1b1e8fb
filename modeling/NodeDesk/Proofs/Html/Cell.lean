import NodeDesk.Proofs.Html.Reader
import NodeDesk.Proofs.Text.Find
/-!
# Cell — what a cell of a table shows

A cell shows a text, or links with commas between them, or a checkbox.  Which of these it is, is told by its markup
alone (`Shown.read?`), and a text from outside holds none: so an id that reads `None` or `, ` is still the label of its
link.
-/
namespace NodeDesk
namespace Html

open Text (cutAt? isClear partsAt)

/-! ## Pieces in which no mark begins -/

/-- Whether none of some marks of markup begins in a piece.  In a text from outside none does. -/
def Piece.isFree (marks : List String) : Piece → Bool
  | .markup m => marks.all fun k => isClear k.toList m.toList
  | .text _ => true

def Free (marks : List String) (ps : List Piece) : Prop := ∀ p ∈ ps, p.isFree marks = true

namespace Free

variable {marks : List String} {ps qs : List Piece}

theorem of_all (h : ps.all (Piece.isFree marks) = true) : Free marks ps := List.all_eq_true.1 h

theorem nil : Free marks [] := fun _ hp => nomatch hp

theorem append (h : Free marks ps) (h' : Free marks qs) : Free marks (ps ++ qs) := fun p hp =>
  (List.mem_append.1 hp).elim (h p) (h' p)

theorem flatMap {α : Type} {f : α → List Piece} (h : ∀ a, Free marks (f a)) (as : List α) :
    Free marks (as.flatMap f) := fun p hp => by
  obtain ⟨a, -, ha⟩ := List.mem_flatMap.1 hp
  exact h a p ha

theorem intersperse {sep : List Piece} (hs : Free marks sep) :
    ∀ ls : List (List Piece), (∀ l ∈ ls, Free marks l) → Free marks (ls.intersperse sep).flatten
  | [], _ => nil
  | [l], h => (h l List.mem_cons_self).append nil
  | l :: l' :: ls, h => by
    have ih := hs.intersperse (l' :: ls) fun x hx => h x (List.mem_cons_of_mem l hx)
    rw [List.intersperse_cons_cons, List.flatten_cons, List.flatten_cons]
    exact (h l List.mem_cons_self).append (hs.append ih)

theorem mono {marks' : List String} (h : Free marks ps) (hs : marks' ⊆ marks) : Free marks' ps := fun p hp => by
  have hfree := h p hp
  cases p with
  | markup m => exact List.all_eq_true.2 fun k hk => List.all_eq_true.1 hfree k (hs hk)
  | text t => rfl

/-- **No mark begins in what such pieces are written as.** -/
theorem isClear_chars (h : Free marks ps) {k : String} (hk : k ∈ marks) (hfirst : k.toList.head? = some '<') :
    isClear k.toList (chars ps) = true := by
  refine Text.isClear_flatMap ps fun p hp => ?_
  cases p with
  | markup m => exact List.all_eq_true.1 (h _ hp) k hk
  | text t => exact Text.isClear_of_not_mem hfirst (not_mem_escapeChars t.toList).1

end Free

/-! ## What is shown -/

structure Link where
  address : String
  label : String
  deriving Repr, DecidableEq

/-- The text that is meant where this is written. -/
def plain (raw : List Char) : String := String.ofList (unescapeChars raw)

theorem plain_escapeChars (s : String) : plain (escapeChars s.toList) = s := by
  rw [plain, unescapeChars_escapeChars, String.ofList_toList]

/-- A link without what closes it, behind a separator. -/
def Link.read? (separator raw : List Char) : Option Link := do
  let (before, behind) ← cutAt? "<a href=\"".toList raw
  let (address, label) ← cutAt? "\">".toList behind
  if before = separator then some ⟨plain address, plain label⟩ else none

/-- Links with commas between them, and nothing before or behind them. -/
def links? (raw : List Char) : Option (List Link) :=
  let parts := partsAt "</a>".toList raw
  if parts.getLast? = some [] then
    match parts.dropLast with
    | [] => none
    | p :: ps => do return (← Link.read? [] p) :: (← ps.mapM (Link.read? ", ".toList))
  else none

/-- What opens the checkbox of a row, up to its name. -/
def boxOpening : String := "<input type=\"checkbox\" class=\"select-node\" name=\""

def box? (raw : List Char) : Option String := do
  let (before, behind) ← cutAt? boxOpening.toList raw
  let (name, rest) ← cutAt? "\">".toList behind
  if before = [] ∧ rest = [] then some (plain name) else none

inductive Shown where
  | text (s : String)
  | links (ls : List Link)
  | box (name : String)
  deriving Repr, DecidableEq

namespace Shown

def read? (raw : List Char) : Option Shown :=
  if '<' ∈ raw then (links? raw).map .links <|> (box? raw).map .box else some (.text (plain raw))

/-- Links, or nothing where there is none. -/
def ofLinks : List Link → Shown
  | [] => .text ""
  | l :: ls => .links (l :: ls)

def labels : Shown → List String
  | .links ls => ls.map Link.label
  | _ => []

theorem labels_ofLinks (ls : List Link) : (ofLinks ls).labels = ls.map Link.label := by
  cases ls <;> rfl

/-! ## What is read back -/

theorem read?_text (s : String) : read? (chars [.text s]) = some (.text s) := by
  have hraw : chars [.text s] = escapeChars s.toList := List.append_nil _
  rw [hraw, read?, if_neg (not_mem_escapeChars s.toList).1, plain_escapeChars]

end Shown

def Link.body (l : Link) : List Char :=
  "<a href=\"".toList ++ (escapeChars l.address.toList ++ ("\">".toList ++ escapeChars l.label.toList))

theorem chars_link (l : Link) : chars (link l.address l.label) = l.body ++ "</a>".toList := by
  unfold link Link.body
  simp only [chars_cons, chars_nil, Piece.chars, List.append_assoc, List.append_nil]

theorem isClear_body (l : Link) : isClear "</a>".toList l.body = true := by
  have hopen : isClear "</a>".toList "<a href=\"".toList = true := rfl
  have hend : isClear "</a>".toList "\">".toList = true := rfl
  have htext : ∀ s : String, isClear "</a>".toList (escapeChars s.toList) = true := fun s =>
    Text.isClear_of_not_mem rfl (not_mem_escapeChars s.toList).1
  exact Text.isClear_append hopen (Text.isClear_append (htext _) (Text.isClear_append hend (htext _)))

theorem Link.read?_body {separator : List Char} (h : '<' ∉ separator) (l : Link) :
    Link.read? separator (separator ++ l.body) = some l := by
  have hbefore : isClear "<a href=\"".toList separator = true := Text.isClear_of_not_mem rfl h
  have haddress : isClear "\">".toList (escapeChars l.address.toList) = true :=
    Text.isClear_of_not_mem rfl (not_mem_escapeChars l.address.toList).2
  unfold Link.read? Link.body
  rw [Text.cutAt?_append (by decide) hbefore, Option.bind_eq_bind, Option.bind_some]
  dsimp only
  rw [Text.cutAt?_append (by decide) haddress, Option.bind_some]
  rw [if_pos rfl, plain_escapeChars, plain_escapeChars]

theorem mapM_map_some {α β : Type} {f : β → Option α} {g : α → β} (h : ∀ a, f (g a) = some a) (as : List α) :
    (as.map g).mapM f = some as := by
  induction as with
  | nil => rfl
  | cons a as ih => rw [List.map_cons, List.mapM_cons, h, ih]; rfl

/-- Links with commas between them are the first, and the others each behind a comma. -/
theorem chars_links (l : Link) (ls : List Link) :
    chars (((l :: ls).map fun l => link l.address l.label).intersperse [.markup ", "]).flatten =
      (l.body :: ls.map fun l => ", ".toList ++ l.body).flatMap (· ++ ("</a>".toList ++ [])) := by
  induction ls generalizing l with
  | nil => simp [chars_link]
  | cons l' ls ih =>
    -- A comma stands behind a link here and before the next one there, so the first link has to be any.
    have hcomma : chars [.markup ", "] = ", ".toList := List.append_nil _
    simp only [List.map_cons] at ih ⊢
    rw [List.intersperse_cons_cons, List.flatten_cons, List.flatten_cons, chars_append,
      chars_append, ih l', chars_link, hcomma]
    simp

/-- **Links are read back**, each with its address and its label. -/
theorem links?_chars (l : Link) (ls : List Link) :
    links? (chars (((l :: ls).map fun l => link l.address l.label).intersperse [.markup ", "]).flatten) =
      some (l :: ls) := by
  have hbodies : ∀ b ∈ l.body :: ls.map (fun l => ", ".toList ++ l.body), isClear "</a>".toList b = true := by
    intro b hb
    rcases List.mem_cons.1 hb with rfl | hb
    · exact isClear_body l
    · obtain ⟨l', -, rfl⟩ := List.mem_map.1 hb
      exact Text.isClear_append rfl (isClear_body l')
  have hparts := @Text.partsAt_ended _ _ "</a>".toList (by decide) [] rfl _ hbodies
  simp only [List.nil_append, List.map_id'] at hparts
  have hfirst : Link.read? [] l.body = some l := Link.read?_body (List.not_mem_nil) l
  have hrest : (ls.map fun l => ", ".toList ++ l.body).mapM (Link.read? ", ".toList) = some ls :=
    mapM_map_some (Link.read?_body (by decide)) ls
  unfold links?
  rw [chars_links, hparts]
  dsimp only
  rw [List.getLast?_concat, if_pos rfl, List.dropLast_concat]
  dsimp only
  rw [hfirst, hrest]
  rfl

/-! ### Checkboxes -/

theorem box?_chars (name : String) : box? (chars [.markup boxOpening, .text name, .markup "\">"]) = some name := by
  have hraw : chars [.markup boxOpening, .text name, .markup "\">"] =
      [] ++ (boxOpening.toList ++ (escapeChars name.toList ++ ("\">".toList ++ []))) := by
    simp only [chars_cons, chars_nil, Piece.chars, List.append_nil, List.nil_append]
  have hname : isClear "\">".toList (escapeChars name.toList) = true :=
    Text.isClear_of_not_mem rfl (not_mem_escapeChars name.toList).2
  unfold box?
  rw [hraw, Text.cutAt?_append (by decide) rfl, Option.bind_eq_bind, Option.bind_some]
  dsimp only
  rw [Text.cutAt?_append (by decide) hname, Option.bind_some]
  rw [if_pos ⟨rfl, rfl⟩, plain_escapeChars]

/-- A checkbox is no list of links, as nothing in it closes one. -/
theorem links?_box (name : String) : links? (chars [.markup boxOpening, .text name, .markup "\">"]) = none := by
  have hclear : isClear "</a>".toList (chars [.markup boxOpening, .text name, .markup "\">"]) = true :=
    (Free.of_all rfl).isClear_chars (List.mem_singleton_self "</a>") rfl
  have hlast : [chars [.markup boxOpening, .text name, .markup "\">"]].getLast? ≠ some [] := by
    rw [List.getLast?_singleton]
    exact nofun
  unfold links?
  rw [Text.partsAt_of_isClear hclear]
  exact if_neg hlast

namespace Shown

theorem read?_ofLinks (ls : List Link) :
    read? (chars ((ls.map fun l => link l.address l.label).intersperse [.markup ", "]).flatten) =
      some (ofLinks ls) := by
  cases ls with
  | nil => rfl
  | cons l ls =>
    have hmem : '<' ∈ chars (((l :: ls).map fun l => link l.address l.label).intersperse [.markup ", "]).flatten := by
      rw [chars_links, List.flatMap_cons]
      exact List.mem_append_left _ (List.mem_append_left _ (List.mem_append_left _ (by decide)))
    rw [read?, if_pos hmem, links?_chars]
    rfl

theorem read?_box (name : String) :
    read? (chars [.markup boxOpening, .text name, .markup "\">"]) = some (.box name) := by
  have hmem : '<' ∈ chars [.markup boxOpening, .text name, .markup "\">"] :=
    List.mem_append_left _ (by decide)
  rw [read?, if_pos hmem, links?_box, box?_chars]
  rfl

end Shown

end Html
end NodeDesk
