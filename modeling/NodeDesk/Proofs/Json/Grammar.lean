import Mathlib.Data.List.DropRight
import NodeDesk.Json.Value
import NodeDesk.Proofs.Json.Numeral
import NodeDesk.Proofs.Json.Quoted
/-!
# Grammar — the texts of a document

A value is a word, a number, a string, or a list or an object of values, with spaces wherever they may stand (`IsValue`).
The grammar is said without any reader; what is written of a list or an object is its text without spaces
(`write_list`, `write_object`).
-/
namespace NodeDesk
namespace Json

/-! ## Spaces -/

/-- What may stand between the parts of a document. -/
def Spaces (cs : List Char) : Prop := ∀ c ∈ cs, isSpace c = true

instance (cs : List Char) : Decidable (Spaces cs) := decidable_of_iff (cs.all isSpace = true) List.all_eq_true

theorem spaces_nil : Spaces [] := fun _ h => nomatch h

theorem skipSpace_append {s : List Char} (h : Spaces s) (cs : List Char) : skipSpace (s ++ cs) = skipSpace cs :=
  List.dropWhile_append_of_pos h

theorem skipSpace_cons {c : Char} (h : isSpace c = false) (r : List Char) : skipSpace (c :: r) = c :: r :=
  List.dropWhile_cons_of_neg (by simp [h])

theorem skipSpace_skipSpace (cs : List Char) : skipSpace (skipSpace cs) = skipSpace cs :=
  List.dropWhile_idempotent isSpace cs

theorem isSpace_of_isDigit {c : Char} (h : c.isDigit = true) : isSpace c = false := by
  cases hspace : isSpace c with
  | false => rfl
  | true =>
    simp only [isSpace, Bool.or_eq_true, beq_iff_eq] at hspace
    rcases hspace with ((rfl | rfl) | rfl) | rfl <;> cases h

/-- What may follow a value: the end of the text, a space, or the mark that ends an item or a member. -/
def Follows (rest : List Char) : Prop := ∀ c ∈ rest.head?, isSpace c = true ∨ c = ',' ∨ c = ']' ∨ c = '}'

theorem follows_nil : Follows [] := fun _ h => nomatch h

theorem follows_comma (rest : List Char) : Follows (',' :: rest) := by simp [Follows]

theorem follows_bracket (rest : List Char) : Follows (']' :: rest) := by simp [Follows]

theorem follows_brace (rest : List Char) : Follows ('}' :: rest) := by simp [Follows]

theorem follows_append {s rest : List Char} (hs : Spaces s) (h : Follows rest) : Follows (s ++ rest) := by
  cases s with
  | nil => exact h
  | cons c s =>
    intro x hx
    cases hx
    exact .inl (hs c List.mem_cons_self)

/-- No number goes on with what may follow it. -/
theorem ends_of_follows {rest : List Char} (h : Follows rest) : Numeral.Ends rest := by
  intro c hc
  rcases h c hc with h | rfl | rfl | rfl
  · simp only [isSpace, Bool.or_eq_true, beq_iff_eq] at h
    rcases h with ((rfl | rfl) | rfl) | rfl <;> decide
  · decide
  · decide
  · decide

/-! ## Texts -/

/-- A text that a value can begin with: at its first character it is no space, and no end of a list. -/
def Opens (cs : List Char) : Prop := ∃ c r, cs = c :: r ∧ isSpace c = false ∧ c ≠ ']'

theorem Opens.skipSpace_append {cs : List Char} (h : Opens cs) (rest : List Char) : skipSpace (cs ++ rest) = cs ++ rest := by
  obtain ⟨c, r, rfl, hspace, -⟩ := h
  exact skipSpace_cons hspace _

/-- A text with spaces around it. -/
structure Padded where
  before : List Char
  body : List Char
  after : List Char
  spaces_before : Spaces before
  spaces_after : Spaces after

namespace Padded

def chars (p : Padded) : List Char := p.before ++ (p.body ++ p.after)

/-- A text without spaces around it. -/
def bare (body : List Char) : Padded := ⟨[], body, [], spaces_nil, spaces_nil⟩

@[simp] theorem chars_bare (body : List Char) : (bare body).chars = body := by simp [chars, bare]

end Padded

/-- A member of an object: a key between quotes, a colon, and a value, with spaces around each of them. -/
structure Member where
  before : List Char
  /-- What stands between the quotes. -/
  key : List Char
  gap : List Char
  value : Padded
  spaces_before : Spaces before
  spaces_gap : Spaces gap

namespace Member

/-- What stands after the key, up to the end of the value. -/
def told (m : Member) : List Char := m.gap ++ ':' :: (m.value.before ++ m.value.body)

/-- What stands after the opening quote of the key, up to the end of the value. -/
def body (m : Member) : List Char := m.key ++ '"' :: m.told

def chars (m : Member) : List Char := m.before ++ '"' :: (m.body ++ m.value.after)

/-- A member without spaces. -/
def bare (key value : List Char) : Member := ⟨[], key, [], .bare value, spaces_nil, spaces_nil⟩

@[simp] theorem chars_bare (key value : List Char) : (bare key value).chars = '"' :: (key ++ '"' :: ':' :: value) := by
  simp [chars, body, told, bare, Padded.bare]

end Member

/-- A text between quotes. -/
def quotes (cs : List Char) : List Char := '"' :: (cs ++ ['"'])

/-- Items between brackets; without any there may still be spaces. -/
def brackets (blank : List Char) (ps : List Padded) : List Char :=
  '[' :: (blank ++ ([','].intercalate (ps.map Padded.chars) ++ [']']))

/-- Members between braces. -/
def braces (blank : List Char) (ms : List Member) : List Char :=
  '{' :: (blank ++ ([','].intercalate (ms.map Member.chars) ++ ['}']))

theorem intercalate_comma (x : List Char) (xs : List (List Char)) :
    [','].intercalate (x :: xs) = x ++ xs.flatMap (',' :: ·) := by
  induction xs generalizing x with
  | nil => simp
  | cons y ys ih => rw [List.intercalate_cons_cons, ih, List.flatMap_cons, List.append_assoc, List.singleton_append,
      List.cons_append]

theorem length_le_flatMap {α : Type} (f : α → List Char) (as : List α) :
    as.length ≤ (as.flatMap fun a => ',' :: f a).length := by
  induction as with
  | nil => exact Nat.le_refl 0
  | cons a as ih =>
    rw [List.flatMap_cons, List.length_append, List.length_cons, List.length_cons]
    omega

theorem length_le_intercalate {cs : List Char} {texts : List (List Char)} (h : cs ∈ texts) :
    cs.length ≤ ([','].intercalate texts).length := by
  obtain ⟨x, xs, rfl⟩ := List.exists_cons_of_ne_nil (List.ne_nil_of_mem h)
  rw [intercalate_comma, List.length_append]
  rcases List.mem_cons.1 h with rfl | h
  · omega
  · have hle := (List.sublist_flatten_of_mem (List.mem_map_of_mem (f := (',' :: ·)) h)).length_le
    rw [List.length_cons, ← List.flatMap_def] at hle
    omega

/-! ## What is left of a list or an object -/

/-- What stands after an item, to the end of the list. -/
def restItems (ps : List Padded) (rest : List Char) : List Char := ps.flatMap (fun p => ',' :: p.chars) ++ ']' :: rest

theorem restItems_cons (p : Padded) (ps : List Padded) (rest : List Char) :
    restItems (p :: ps) rest = ',' :: (p.before ++ (p.body ++ (p.after ++ restItems ps rest))) := by
  simp [restItems, Padded.chars]

theorem follows_restItems (ps : List Padded) (rest : List Char) : Follows (restItems ps rest) := by
  cases ps with
  | nil => exact follows_bracket rest
  | cons p ps => exact follows_comma _

theorem skipSpace_restItems (ps : List Padded) (rest : List Char) : skipSpace (restItems ps rest) = restItems ps rest := by
  cases ps with
  | nil => exact skipSpace_cons (by decide) _
  | cons p ps => rw [restItems_cons, skipSpace_cons (by decide)]

theorem length_restItems (ps : List Padded) (rest : List Char) : ps.length < (restItems ps rest).length := by
  have hle := length_le_flatMap Padded.chars ps
  rw [restItems, List.length_append, List.length_cons]
  omega

theorem length_lt_brackets {blank : List Char} {ps : List Padded} {p : Padded} (h : p ∈ ps) :
    p.body.length < (brackets blank ps).length := by
  have hle := length_le_intercalate (List.mem_map_of_mem (f := Padded.chars) h)
  simp only [Padded.chars, brackets, List.length_append, List.length_cons] at hle ⊢
  omega

theorem brackets_append (blank : List Char) (ps : List Padded) (rest : List Char) :
    brackets blank ps ++ rest = '[' :: (blank ++ ([','].intercalate (ps.map Padded.chars) ++ ']' :: rest)) := by
  simp [brackets]

theorem skipSpace_items {p : Padded} (h : Opens p.body) (ps : List Padded) (rest : List Char) :
    skipSpace ([','].intercalate ((p :: ps).map Padded.chars) ++ ']' :: rest)
      = p.body ++ (p.after ++ restItems ps rest) := by
  rw [List.map_cons, intercalate_comma, Padded.chars, List.append_assoc, List.append_assoc,
    skipSpace_append p.spaces_before, List.append_assoc, h.skipSpace_append, List.flatMap_map]
  simp [restItems]

/-- What stands after a member, to the end of the object. -/
def restMembers (ms : List Member) (rest : List Char) : List Char := ms.flatMap (fun m => ',' :: m.chars) ++ '}' :: rest

theorem restMembers_cons (m : Member) (ms : List Member) (rest : List Char) :
    restMembers (m :: ms) rest = ',' :: (m.before ++ '"' :: (m.body ++ (m.value.after ++ restMembers ms rest))) := by
  simp [restMembers, Member.chars]

theorem follows_restMembers (ms : List Member) (rest : List Char) : Follows (restMembers ms rest) := by
  cases ms with
  | nil => exact follows_brace rest
  | cons m ms => exact follows_comma _

theorem skipSpace_restMembers (ms : List Member) (rest : List Char) :
    skipSpace (restMembers ms rest) = restMembers ms rest := by
  cases ms with
  | nil => exact skipSpace_cons (by decide) _
  | cons m ms => rw [restMembers_cons, skipSpace_cons (by decide)]

theorem length_restMembers (ms : List Member) (rest : List Char) : ms.length < (restMembers ms rest).length := by
  have hle := length_le_flatMap Member.chars ms
  rw [restMembers, List.length_append, List.length_cons]
  omega

theorem length_lt_braces {blank : List Char} {ms : List Member} {m : Member} (h : m ∈ ms) :
    m.value.body.length < (braces blank ms).length := by
  have hle := length_le_intercalate (List.mem_map_of_mem (f := Member.chars) h)
  simp only [Member.chars, Member.body, Member.told, braces, List.length_append, List.length_cons] at hle ⊢
  omega

theorem braces_append (blank : List Char) (ms : List Member) (rest : List Char) :
    braces blank ms ++ rest = '{' :: (blank ++ ([','].intercalate (ms.map Member.chars) ++ '}' :: rest)) := by
  simp [braces]

theorem skipSpace_member (m : Member) (r : List Char) :
    skipSpace (m.before ++ '"' :: r) = '"' :: r :=
  (skipSpace_append m.spaces_before _).trans (skipSpace_cons (by decide) r)

theorem skipSpace_members (m : Member) (ms : List Member) (rest : List Char) :
    skipSpace ([','].intercalate ((m :: ms).map Member.chars) ++ '}' :: rest)
      = '"' :: (m.body ++ (m.value.after ++ restMembers ms rest)) := by
  rw [List.map_cons, intercalate_comma, Member.chars, List.append_assoc, List.append_assoc, List.cons_append,
    skipSpace_member, List.flatMap_map]
  simp [restMembers]

/-! ## What is written -/

theorem write_string (s : String) : Quoted.write s = quotes (s.toList.flatMap Quoted.writeChar) := rfl

theorem writeItems_cons (v : Value) {vs : List Value} (h : vs ≠ []) :
    Value.writeItems (v :: vs) = v.write ++ ',' :: Value.writeItems vs := by
  obtain ⟨w, vs, rfl⟩ := List.exists_cons_of_ne_nil h
  rw [Value.writeItems]
  exact List.cons_ne_nil w vs

theorem writeMembers_cons (key : String) (v : Value) {ms : List (String × Value)} (h : ms ≠ []) :
    Value.writeMembers ((key, v) :: ms) = Quoted.write key ++ ':' :: v.write ++ ',' :: Value.writeMembers ms := by
  obtain ⟨m, ms, rfl⟩ := List.exists_cons_of_ne_nil h
  rw [Value.writeMembers]
  exact List.cons_ne_nil m ms

/-- The items of a list are joined by commas. -/
theorem writeItems_eq (vs : List Value) : Value.writeItems vs = [','].intercalate (vs.map Value.write) := by
  induction vs with
  | nil => rfl
  | cons v vs ih =>
    by_cases h : vs = []
    · subst h
      simp [Value.writeItems]
    · have hmap : vs.map Value.write ≠ [] := fun hn => h (List.map_eq_nil_iff.1 hn)
      rw [writeItems_cons v h, ih, List.map_cons, List.intercalate_cons_of_ne_nil hmap]
      simp

/-- A member as it is written. -/
def Member.written (m : String × Value) : Member := .bare (m.1.toList.flatMap Quoted.writeChar) m.2.write

theorem Member.says_key (m : String × Value) : Quoted.Says (written m).key m.1 := Quoted.says_written m.1

theorem Member.chars_written (m : String × Value) : (written m).chars = Quoted.write m.1 ++ ':' :: m.2.write := by
  simp [written, Quoted.write]

theorem writeMembers_eq (ms : List (String × Value)) :
    Value.writeMembers ms = [','].intercalate ((ms.map Member.written).map Member.chars) := by
  induction ms with
  | nil => rfl
  | cons m ms ih =>
    by_cases h : ms = []
    · subst h
      simp [Value.writeMembers, Member.chars_written]
    · have hmap : (ms.map Member.written).map Member.chars ≠ [] := fun hn =>
        h (List.map_eq_nil_iff.1 (List.map_eq_nil_iff.1 hn))
      rw [writeMembers_cons m.1 m.2 h, ih, List.map_cons, List.map_cons, List.intercalate_cons_of_ne_nil hmap,
        Member.chars_written]
      simp

theorem write_list (vs : List Value) : (Value.list vs).write = brackets [] (vs.map fun v => .bare v.write) := by
  have hchars : (vs.map fun v => Padded.bare v.write).map Padded.chars = vs.map Value.write := by
    rw [List.map_map]
    exact List.map_congr_left fun v _ => Padded.chars_bare v.write
  rw [Value.write, writeItems_eq, brackets, hchars]
  rfl

theorem write_object (ms : List (String × Value)) : (Value.object ms).write = braces [] (ms.map Member.written) := by
  rw [Value.write, writeMembers_eq, braces]
  rfl

/-! ## Values -/

/-- **The texts of values.** -/
inductive IsValue : List Char → Prop
  | null : IsValue ['n', 'u', 'l', 'l']
  | yes : IsValue ['t', 'r', 'u', 'e']
  | no : IsValue ['f', 'a', 'l', 's', 'e']
  | number {cs : List Char} (h : Numeral.IsText cs) : IsValue cs
  | negative {cs : List Char} (h : Numeral.IsText cs) : IsValue ('-' :: cs)
  | string {cs : List Char} {us : List Quoted.Item} (h : Quoted.Spells cs us) : IsValue (quotes cs)
  | list {blank : List Char} {ps : List Padded} (spaces : Spaces blank) (items : ∀ p ∈ ps, IsValue p.body) :
      IsValue (brackets blank ps)
  | object {blank : List Char} {ms : List Member} (spaces : Spaces blank)
      (keys : ∀ m ∈ ms, ∃ us, Quoted.Spells m.key us) (values : ∀ m ∈ ms, IsValue m.value.body) :
      IsValue (braces blank ms)

/-- **A value begins with no space and ends no list.** -/
theorem opens_of_isValue {cs : List Char} (h : IsValue cs) : Opens cs := by
  cases h with
  | null => exact ⟨_, _, rfl, by decide, by decide⟩
  | yes => exact ⟨_, _, rfl, by decide, by decide⟩
  | no => exact ⟨_, _, rfl, by decide, by decide⟩
  | number h =>
    obtain ⟨d, ds, rfl, hd⟩ := h.exists_digit
    refine ⟨d, ds, rfl, isSpace_of_isDigit hd, ?_⟩
    rintro rfl
    cases hd
  | negative h => exact ⟨_, _, rfl, by decide, by decide⟩
  | string h => exact ⟨_, _, rfl, by decide, by decide⟩
  | list spaces items => exact ⟨_, _, rfl, by decide, by decide⟩
  | object spaces keys values => exact ⟨_, _, rfl, by decide, by decide⟩

end Json
end NodeDesk
