import Mathlib.Data.List.Forall2
import NodeDesk.Json.Record
import NodeDesk.Proofs.Json.Grammar
/-!
# Reads — values come back from their texts

A reader reads a text as a value if it yields the value and leaves what follows, whatever that is as long as it may
follow a value (`Reads`).  The relation goes through lists, whose items it holds of one by one (`reads_brackets`), and
through the members of an object, which are entered one after the other (`Enters`); a record is read from an object
whose members enter its fields (`Shape.reads_braces`), and if it was written, these fill its fields in order (`Fills`).
-/
namespace NodeDesk
namespace Json

/-- **A reader reads a text as a value**, whatever may follow. -/
def Reads {α : Type} (r : Reader α) (cs : List Char) (a : α) : Prop :=
  ∀ rest, Follows rest → r (cs ++ rest) = .ok (a, rest)

theorem opens_object (ms : List (String × Value)) : Opens (Value.object ms).write := by
  rw [Value.write]
  exact ⟨'{', _, rfl, by decide, by decide⟩

variable {α β σ : Type}

theorem Reads.map {r : Reader α} {cs : List Char} {a : α} (h : Reads r cs a) (f : α → β) :
    Reads (fun cs => (r cs).map fun p => (f p.1, p.2)) cs (f a) := by
  intro rest hrest
  simp only [h rest hrest]
  rfl

/-- A reader that passes over the spaces before a value. -/
def SkipsSpace (r : Reader α) : Prop := ∀ cs, r (skipSpace cs) = r cs

theorem SkipsSpace.map {r : Reader α} (h : SkipsSpace r) (f : α → β) :
    SkipsSpace fun cs => (r cs).map fun p => (f p.1, p.2) := by
  intro cs
  simp only [h cs]

theorem SkipsSpace.reads {r : Reader α} (h : SkipsSpace r) {before cs : List Char} {a : α} (hs : Spaces before)
    (hread : Reads r cs a) : Reads r (before ++ cs) a := by
  intro rest hrest
  rw [← h, List.append_assoc, skipSpace_append hs, h]
  exact hread rest hrest

/-- **A document that is one value is read as it**, spaces around it or none. -/
theorem document_of_padded {r : Reader α} {p : Padded} {a : α} (hskip : SkipsSpace r) (h : Reads r p.body a) :
    document r p.chars = .ok a := by
  have hread := hskip.reads p.spaces_before h p.after (by simpa using follows_append p.spaces_after follows_nil)
  have hrest := skipSpace_append p.spaces_after []
  rw [List.append_nil] at hrest
  unfold document Padded.chars
  rw [← List.append_assoc, hread]
  dsimp only
  rw [hrest]
  rfl

theorem document_of_reads {r : Reader α} {cs : List Char} {a : α} (h : Reads r cs a) : document r cs = .ok a := by
  have hread := h [] follows_nil
  rw [List.append_nil] at hread
  unfold document
  rw [hread]
  rfl

/-! ## Plain values -/

theorem quotes_append (cs rest : List Char) : quotes cs ++ rest = '"' :: (cs ++ '"' :: rest) := by
  simp [quotes]

theorem skipsSpace_stringAs (expected : String) : SkipsSpace (stringAs expected) := by
  intro cs
  unfold stringAs
  rw [skipSpace_skipSpace]

theorem reads_quotes (expected : String) {cs : List Char} {s : String} (h : Quoted.Says cs s) :
    Reads (stringAs expected) (quotes cs) s := by
  intro rest _
  unfold stringAs
  rw [quotes_append, skipSpace_cons (by decide)]
  exact (if_pos rfl).trans (Quoted.read_spelling h rest)

theorem reads_stringAs (expected s : String) : Reads (stringAs expected) (Quoted.write s) s :=
  reads_quotes expected (Quoted.says_written s)

theorem reads_string (s : String) : Reads string (Quoted.write s) s := reads_stringAs _ s

theorem skipsSpace_boolean : SkipsSpace boolean := by
  intro cs
  unfold boolean
  rw [skipSpace_skipSpace]

theorem reads_boolean (b : Bool) : Reads boolean (Value.boolean b).write b := by
  intro rest _
  cases b <;> rfl

theorem skipsSpace_integer (low high : Int) (expected : String) : SkipsSpace (integer low high expected) := by
  intro cs
  unfold integer
  rw [skipSpace_skipSpace]

theorem digits_opens (n : Nat) : ∃ d ds, Decimal.digits n = d :: ds ∧ d.isDigit = true ∧ isSpace d = false := by
  obtain ⟨d, ds, hds⟩ := List.exists_cons_of_ne_nil (Decimal.digits_ne_nil n)
  have hd : d.isDigit = true := Decimal.isDigit_of_mem_digits (hds ▸ List.mem_cons_self)
  exact ⟨d, ds, hds, hd, isSpace_of_isDigit hd⟩

/-- **An integer is read from its digits**, between bounds that a word can hold. -/
theorem reads_integer {low high i : Int} (hlow : -(maxSigned : Int) - 1 ≤ low) (hhigh : high ≤ maxWord)
    (h : low ≤ i ∧ i ≤ high) (expected : String) : Reads (integer low high expected) (Decimal.signed i) i := by
  intro rest hrest
  have hends := ends_of_follows hrest
  unfold integer Decimal.signed
  by_cases hi : i < 0
  · have hread := Numeral.read_negative hends (n := i.natAbs) (by omega) (by omega)
    rw [show -(i.natAbs : Int) = i by omega] at hread
    rw [if_pos hi, List.cons_append, skipSpace_cons (by decide)]
    dsimp only
    rw [if_pos rfl, hread]
    exact if_pos h
  · have hread := Numeral.read_digits hends (n := i.natAbs) (by omega)
    obtain ⟨d, ds, hds, hdigit, hspace⟩ := digits_opens i.natAbs
    rw [show (i.natAbs : Int) = i by omega] at hread
    rw [if_neg hi]
    rw [hds, List.cons_append] at hread ⊢
    have hminus : d ≠ '-' := by
      rintro rfl
      cases hdigit
    rw [skipSpace_cons hspace]
    dsimp only
    rw [if_neg hminus, if_pos hdigit, hread]
    exact if_pos h

theorem skipsSpace_natural (high : Nat) (expected : String) : SkipsSpace (natural high expected) :=
  (skipsSpace_integer 0 high expected).map Int.toNat

theorem reads_natural {high n : Nat} (hhigh : high ≤ maxWord) (h : n ≤ high) (expected : String) :
    Reads (natural high expected) (Decimal.digits n) n := by
  have hbounds : (0 : Int) ≤ n ∧ (n : Int) ≤ high := by omega
  exact (reads_integer (by decide) (by omega) hbounds expected).map Int.toNat

theorem skipsSpace_optional (r : Reader α) : SkipsSpace (optional r) := by
  intro cs
  unfold optional
  rw [skipSpace_skipSpace]

theorem reads_none (r : Reader α) : Reads (optional r) Value.null.write none := fun _ _ => rfl

theorem reads_some {r : Reader α} {c : Char} {cs : List Char} {a : α} (hn : c ≠ 'n') (hspace : isSpace c = false)
    (h : Reads r (c :: cs) a) : Reads (optional r) (c :: cs) (some a) := by
  intro rest hrest
  have hread := h rest hrest
  rw [List.cons_append] at hread ⊢
  unfold optional
  rw [skipSpace_cons hspace]
  dsimp only
  rw [if_neg hn, hread]
  rfl

theorem reads_optional_string (s : Option String) : Reads (optional string) (Value.optional s).write s := by
  cases s with
  | none => exact reads_none string
  | some s => exact reads_some (by decide) (by decide) (reads_string s)

namespace Value

theorem read_eq (room : Nat) : ∃ inner, read room = readWith objectOf inner := by
  cases room with
  | zero => exact ⟨none, rfl⟩
  | succ room => exact ⟨some (readObjectsBy objectOf room), rfl⟩

theorem reads_null (room : Nat) : Reads (read room) null.write null := by
  obtain ⟨inner, h⟩ := read_eq room
  intro rest _
  rw [h]
  rfl

theorem reads_boolean (room : Nat) (b : Bool) : Reads (read room) (boolean b).write (boolean b) := by
  obtain ⟨inner, h⟩ := read_eq room
  intro rest _
  rw [h]
  cases b <;> rfl

theorem reads_string (room : Nat) (s : String) : Reads (read room) (string s).write (string s) := by
  obtain ⟨inner, h⟩ := read_eq room
  intro rest _
  rw [h]
  show readWith objectOf inner (Quoted.write s ++ rest) = _
  unfold readWith
  rw [write_string, quotes_append, skipSpace_cons (by decide)]
  dsimp only
  rw [if_neg (by decide), if_neg (by decide), if_neg (by decide), if_neg (by decide), if_neg (by decide), if_pos rfl,
    Quoted.read_written]
  rfl

end Value

/-! ## Lists -/

section

variable {element : Reader α} {cs r r' rest : List Char} {fuel : Nat}

theorem items_of_end {a : α} (h : element cs = .ok (a, r)) (hend : skipSpace r = ']' :: rest) :
    items element (fuel + 1) cs = .ok ([a], rest) := by
  rw [items, h]
  simp only [bind, Except.bind, hend, if_true]

theorem items_of_comma {a : α} {c : Char} (h : element cs = .ok (a, r)) (hcomma : skipSpace r = ',' :: r')
    (hnext : skipSpace r' = c :: rest) (hend : c ≠ ']') :
    items element (fuel + 1) cs = (items element fuel (c :: rest)).map fun p => (a :: p.1, p.2) := by
  rw [items, h]
  simp only [bind, Except.bind, hcomma, hnext]
  rw [if_neg (by decide)]
  simp only [if_true, if_neg hend]

/-- An item is read from its text, with which an item can begin. -/
def ReadsItem (element : Reader α) (p : Padded) (a : α) : Prop := Opens p.body ∧ Reads element p.body a

/-- The induction is on the items that are left; each of them is a round. -/
theorem items_from {ps : List Padded} {as : List α} (hps : List.Forall₂ (ReadsItem element) ps as) {p : Padded} {a : α}
    (hp : ReadsItem element p a) (hfuel : ps.length < fuel) (rest : List Char) :
    items element fuel (p.body ++ (p.after ++ restItems ps rest)) = .ok (a :: as, rest) := by
  induction hps generalizing p a fuel with
  | nil =>
    obtain ⟨fuel, rfl⟩ := Nat.exists_eq_succ_of_ne_zero (Nat.ne_zero_of_lt hfuel)
    exact items_of_end (hp.2 _ (follows_append p.spaces_after (follows_restItems [] rest)))
      ((skipSpace_append p.spaces_after _).trans (skipSpace_restItems [] rest))
  | @cons q b qs bs hq hqs ih =>
    obtain ⟨fuel, rfl⟩ := Nat.exists_eq_succ_of_ne_zero (Nat.ne_zero_of_lt hfuel)
    have hread := hp.2 _ (follows_append p.spaces_after (follows_restItems (q :: qs) rest))
    have hmore := ih hq (Nat.lt_of_succ_lt_succ hfuel)
    obtain ⟨c, r, hbody, hspace, hend⟩ := hq.1
    have hcomma := (skipSpace_append p.spaces_after _).trans (skipSpace_restItems (q :: qs) rest)
    rw [restItems_cons] at hread hcomma
    have hnext := (skipSpace_append q.spaces_before _).trans (hq.1.skipSpace_append (q.after ++ restItems qs rest))
    rw [hbody] at hread hcomma hnext hmore
    rw [restItems_cons, hbody, items_of_comma hread hcomma hnext hend]
    exact congrArg (Except.map fun p => (a :: p.1, p.2)) hmore

theorem skipsSpace_list (element : Reader α) : SkipsSpace (list element) := by
  intro cs
  unfold list
  rw [skipSpace_skipSpace]

/-- **A list is read from its text**, if each item is read from its own. -/
theorem reads_brackets {blank : List Char} (hblank : Spaces blank) {ps : List Padded} {as : List α}
    (h : List.Forall₂ (ReadsItem element) ps as) : Reads (list element) (brackets blank ps) as := by
  intro rest _
  rw [brackets_append]
  unfold list
  rw [skipSpace_cons (by decide)]
  dsimp only
  rw [if_pos rfl]
  unfold listBody
  rw [skipSpace_append hblank]
  cases h with
  | nil => rfl
  | @cons p a ps as hp hps =>
    have hfuel : ps.length < (p.body ++ (p.after ++ restItems ps rest)).length := by
      have hlength := length_restItems ps rest
      rw [List.length_append, List.length_append]
      omega
    have hitems := items_from hps hp hfuel rest
    obtain ⟨c, r, hbody, hspace, hend⟩ := hp.1
    rw [skipSpace_items hp.1]
    rw [hbody, List.cons_append] at hitems ⊢
    dsimp only
    rw [if_neg hend]
    exact hitems

theorem reads_list {vs : List Value} {as : List α}
    (h : List.Forall₂ (fun v a => Opens v.write ∧ Reads element v.write a) vs as) :
    Reads (list element) (Value.list vs).write as := by
  rw [write_list]
  exact reads_brackets spaces_nil (List.forall₂_map_left_iff.2 h)

end

/-! ## Objects -/

/-- **Entering members one after the other** leads from one state to another. -/
inductive Enters (entry : String → σ → Reader σ) : σ → List Member → σ → Prop where
  | nil (s : σ) : Enters entry s [] s
  | cons {s s' s'' : σ} {name : String} {m : Member} {ms : List Member} (called : Quoted.Says m.key name)
      (first : Reads (entry name s) m.told s') (more : Enters entry s' ms s'') : Enters entry s (m :: ms) s''

section

variable {entry : String → σ → Reader σ} {s s' : σ} {key : String} {cs r r' r'' rest : List Char} {fuel : Nat}

theorem members_of_end (hkey : Quoted.read cs = .ok (key, r)) (h : entry key s r = .ok (s', r'))
    (hend : skipSpace r' = '}' :: rest) : members entry (fuel + 1) s cs = .ok (s', rest) := by
  rw [members, hkey]
  simp only [bind, Except.bind, h, hend, if_true]

theorem members_of_comma (hkey : Quoted.read cs = .ok (key, r)) (h : entry key s r = .ok (s', r'))
    (hcomma : skipSpace r' = ',' :: r'') (hnext : skipSpace r'' = '"' :: rest) :
    members entry (fuel + 1) s cs = members entry fuel s' rest := by
  rw [members, hkey]
  simp only [bind, Except.bind, h, hcomma, hnext]
  rw [if_neg (by decide)]
  simp only [if_true]

/-- The members are entered from after the opening quote of the first. -/
theorem members_from {m : Member} {ms : List Member} (h : Enters entry s (m :: ms) s') (hfuel : ms.length < fuel)
    (rest : List Char) :
    members entry fuel s (m.body ++ (m.value.after ++ restMembers ms rest)) = .ok (s', rest) := by
  induction ms generalizing m s fuel with
  | nil =>
    obtain ⟨fuel, rfl⟩ := Nat.exists_eq_succ_of_ne_zero (Nat.ne_zero_of_lt hfuel)
    cases h with
    | cons called first more =>
      cases more
      rw [Member.body, List.append_assoc, List.cons_append]
      exact members_of_end (Quoted.read_spelling called _)
        (first _ (follows_append m.value.spaces_after (follows_restMembers [] rest)))
        ((skipSpace_append m.value.spaces_after _).trans (skipSpace_restMembers [] rest))
  | cons n ms ih =>
    obtain ⟨fuel, rfl⟩ := Nat.exists_eq_succ_of_ne_zero (Nat.ne_zero_of_lt hfuel)
    cases h with
    | cons called first more =>
      have hread := first _ (follows_append m.value.spaces_after (follows_restMembers (n :: ms) rest))
      have hcomma := (skipSpace_append m.value.spaces_after _).trans (skipSpace_restMembers (n :: ms) rest)
      rw [restMembers_cons] at hcomma hread
      rw [Member.body, List.append_assoc, List.cons_append, restMembers_cons,
        members_of_comma (Quoted.read_spelling called _) hread hcomma (skipSpace_member n _)]
      exact ih more (Nat.lt_of_succ_lt_succ hfuel)

/-- **An object is read from its text**, after its opening brace. -/
theorem objectBody_braces {blank : List Char} (hblank : Spaces blank) {ms : List Member} (h : Enters entry s ms s')
    (rest : List Char) :
    objectBody entry s (blank ++ ([','].intercalate (ms.map Member.chars) ++ '}' :: rest)) = .ok (s', rest) := by
  unfold objectBody
  rw [skipSpace_append hblank]
  cases ms with
  | nil =>
    cases h
    rfl
  | cons m ms =>
    have hlength := length_restMembers ms rest
    rw [skipSpace_members]
    dsimp only
    rw [if_neg (by decide), if_pos rfl]
    refine members_from h ?_ rest
    rw [List.length_append, List.length_append]
    omega

end

/-- A value is read with a colon before it. -/
theorem colon_append {gap : List Char} (h : Spaces gap) (r : List Char) : colon (gap ++ ':' :: r) = .ok r := by
  unfold colon
  rw [skipSpace_append h, skipSpace_cons (by decide)]
  rfl

namespace Value

def enterMember (inner : Reader Value) (key : String) (ms : List (String × Value)) : Reader (List (String × Value)) :=
  fun cs => do
    let r ← colon cs
    (inner r).map fun p => ((key, p.1) :: ms, p.2)

theorem objectOf_eq (inner : Reader Value) (cs : List Char) :
    objectOf inner cs = (objectBody (enterMember inner) [] cs).map fun p => (object p.1.reverse, p.2) := rfl

theorem enters_members {inner : Reader Value} {ms : List (String × Value)} (h : ∀ m ∈ ms, Reads inner m.2.write m.2)
    (before : List (String × Value)) :
    Enters (enterMember inner) before (ms.map Member.written) (ms.reverse ++ before) := by
  induction ms generalizing before with
  | nil => exact .nil before
  | cons m ms ih =>
    rw [List.reverse_cons, List.append_assoc, List.map_cons]
    refine .cons (Member.says_key m) (fun rest hrest => ?_)
      (ih (fun m' hm' => h m' (List.mem_cons_of_mem m hm')) (m :: before))
    show (inner (m.2.write ++ rest)).map _ = _
    rw [h m List.mem_cons_self rest hrest]
    rfl

/-- **An object is read from its text**, with all of its members in their order, if each value is read from its own. -/
theorem reads_object {room : Nat} {ms : List (String × Value)} (h : ∀ m ∈ ms, Reads (read room) m.2.write m.2) :
    Reads (read (room + 1)) (object ms).write (object ms) := by
  intro rest _
  have hread : read (room + 1) = readWith objectOf (some (read room)) := rfl
  have henters := enters_members h []
  rw [List.append_nil] at henters
  rw [hread, write_object, braces_append]
  unfold readWith
  rw [skipSpace_cons (by decide)]
  dsimp only
  rw [if_neg (by decide), if_neg (by decide), if_neg (by decide), if_neg (by decide), if_neg (by decide),
    if_neg (by decide), if_neg (by decide), if_pos rfl, objectOf_eq, objectBody_braces spaces_nil henters]
  show Except.ok (object ms.reverse.reverse, rest) = _
  rw [List.reverse_reverse]

end Value

/-! ## Records -/

theorem reads_field {read : Reader α} {cs : List Char} {a : α} (h : Reads read cs a) (name : String) (required : Bool)
    (put : α → σ → σ) (s : σ) : Reads ((field name required read put).read s) cs (put a s) :=
  h.map fun a => put a s

namespace Shape

variable {shape : Shape σ} {given : List String} {s s' : σ} {gap cs : List Char}

/-- **A field is entered once**, under its own name. -/
theorem reads_entry {name : String} {f : Field σ} (hfind : shape.fields.find? (·.name == name) = some f)
    (hnew : name ∉ given) (hgap : Spaces gap) (h : Reads (f.read s) cs s') :
    Reads (shape.entry name (given, s)) (gap ++ ':' :: cs) (name :: given, s') := by
  intro rest hrest
  unfold entry
  rw [hfind, List.append_assoc, List.cons_append]
  simp only [List.contains_eq_mem, hnew, decide_false, Bool.false_eq_true, if_false, colon_append hgap, bind,
    Except.bind, h rest hrest]

/-- **A member that is no field is passed over.** -/
theorem reads_entry_unknown {name : String} (hfind : shape.fields.find? (·.name == name) = none) (hgap : Spaces gap)
    (h : ∀ rest, Follows rest → Skip.value (cs ++ rest) = .ok rest) (s : List String × σ) :
    Reads (shape.entry name s) (gap ++ ':' :: cs) s := by
  intro rest hrest
  unfold entry
  rw [hfind, List.append_assoc, List.cons_append]
  simp only [colon_append hgap, bind, Except.bind, h rest hrest]

theorem skipsSpace_read (shape : Shape σ) : SkipsSpace shape.read := by
  intro cs
  unfold read
  rw [skipSpace_skipSpace]

/-- **A record is read from an object that gives what is required.** -/
theorem reads_braces {blank : List Char} (hblank : Spaces blank) {ms : List Member}
    (h : Enters shape.entry ([], shape.blank) ms (given, s)) (hall : ∀ f ∈ shape.fields, f.required = true → f.name ∈ given) :
    Reads shape.read (braces blank ms) s := by
  have hrequired : shape.fields.find? (fun f => f.required && !given.contains f.name) = none :=
    List.find?_eq_none.2 fun f hf => by simpa using hall f hf
  intro rest _
  rw [braces_append]
  unfold read
  rw [skipSpace_cons (by decide)]
  dsimp only
  rw [if_pos rfl]
  unfold ofObject
  rw [objectBody_braces hblank h]
  simp only [bind, Except.bind, hrequired]

end Shape

/-- **Values that fill fields in their order** lead from one record to another. -/
inductive Fills : List (Field σ) → σ → List Value → σ → Prop where
  | nil (s : σ) : Fills [] s [] s
  | cons {f : Field σ} {fs : List (Field σ)} {s s' s'' : σ} {v : Value} {vs : List Value}
      (first : Reads (f.read s) v.write s') (more : Fills fs s' vs s'') : Fills (f :: fs) s (v :: vs) s''

namespace Shape

variable {shape : Shape σ}

theorem find?_field {before fs : List (Field σ)} {f : Field σ} (h : f.name ∉ before.map Field.name) :
    (before ++ f :: fs).find? (·.name == f.name) = some f := by
  have hbefore : before.find? (·.name == f.name) = none := List.find?_eq_none.2 fun g hg he =>
    h (List.mem_map.2 ⟨g, hg, by simpa using he⟩)
  rw [List.find?_append, hbefore, Option.none_or, List.find?_cons_of_pos (by simp)]

/-- The induction is on the fields that are left; `given` holds the names of those before. -/
theorem enters_of_fills {fs : List (Field σ)} {s s' : σ} {vs : List Value} (h : Fills fs s vs s')
    {before : List (Field σ)} (hfields : shape.fields = before ++ fs) (hnames : (shape.fields.map Field.name).Nodup)
    {given : List String} (hgiven : ∀ name, name ∈ given ↔ name ∈ before.map Field.name) :
    ∃ given', (∀ f ∈ shape.fields, f.name ∈ given') ∧
      Enters shape.entry (given, s) (((fs.map Field.name).zip vs).map Member.written) (given', s') := by
  induction h generalizing before given with
  | nil s =>
    refine ⟨given, fun f hf => (hgiven f.name).2 (List.mem_map_of_mem ?_), .nil _⟩
    rwa [hfields, List.append_nil] at hf
  | @cons f fs s s₁ s' v vs first more ih =>
    have hnew : f.name ∉ before.map Field.name := fun hf => by
      rw [hfields, List.map_append, List.map_cons] at hnames
      exact (List.nodup_append.1 hnames).2.2 _ hf _ List.mem_cons_self rfl
    have hfind : shape.fields.find? (·.name == f.name) = some f := by
      rw [hfields, find?_field hnew]
    have hmore : shape.fields = (before ++ [f]) ++ fs := by simpa using hfields
    have hnow : ∀ name, name ∈ f.name :: given ↔ name ∈ (before ++ [f]).map Field.name := by simp [hgiven, or_comm]
    obtain ⟨given', hall, henters⟩ := ih hmore hnow
    exact ⟨given', hall, .cons (Member.says_key (f.name, v))
      (reads_entry hfind (fun hf => hnew ((hgiven _).1 hf)) spaces_nil first) henters⟩

/-- **A record is read from an object that gives all of its fields in their order.** -/
theorem reads_record {s : σ} {vs : List Value} (h : Fills shape.fields shape.blank vs s)
    (hnames : (shape.fields.map Field.name).Nodup) :
    Reads shape.read (Value.object ((shape.fields.map Field.name).zip vs)).write s := by
  have hnone : ∀ name, name ∈ ([] : List String) ↔ name ∈ ([] : List (Field σ)).map Field.name := by simp
  obtain ⟨given, hall, henters⟩ := enters_of_fills h rfl hnames hnone
  rw [write_object]
  exact reads_braces spaces_nil henters fun f hf _ => hall f hf

end Shape

end Json
end NodeDesk
