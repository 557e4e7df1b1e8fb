import NodeDesk.Json.Record
import NodeDesk.Proofs.Except
/-!
# Keeps — what holds of all that is read

A reader yields only values with a property (`Yields`), whatever the document is.  Then the items of a list that it reads
have the property (`Yields.list`), and what holds of a blank record and is kept by each field holds of every record that
is read (`Shape.yields_read`), be it from an object or from a list of its fields.
-/
namespace NodeDesk
namespace Json

variable {α σ : Type} {r : Reader α} {P : α → Prop} {a : α} {cs : List Char}

/-- **Every value that a reader yields has a property.** -/
def Yields (r : Reader α) (P : α → Prop) : Prop := ∀ cs a rest, r cs = .ok (a, rest) → P a

theorem Yields.document (h : Yields r P) (hok : document r cs = .ok a) : P a := by
  unfold Json.document at hok
  split at hok
  · cases hok
  · split at hok
    · cases hok
      exact h _ _ _ ‹_›
    · cases hok

/-! ## Lists -/

theorem Yields.items (h : Yields r P) (fuel : Nat) : Yields (items r fuel) fun as => ∀ a ∈ as, P a := by
  induction fuel with
  | zero => exact fun _ _ _ hok => nomatch hok
  | succ fuel ih =>
    intro cs as rest hok
    unfold Json.items at hok
    obtain ⟨⟨a, r'⟩, ha, hok⟩ := bind_eq_ok_iff.1 hok
    dsimp only at hok
    split at hok
    · cases hok
    split at hok
    · cases hok
      exact List.forall_mem_singleton.2 (h _ _ _ ha)
    split at hok
    · split at hok
      · cases hok
      split at hok
      · cases hok
      · obtain ⟨⟨as, rest'⟩, has, hok⟩ := map_eq_ok_iff.1 hok
        cases hok
        exact List.forall_mem_cons.2 ⟨h _ _ _ ha, ih _ _ _ has⟩
    · cases hok

/-- **The items of a list have what all values of their reader have.** -/
theorem Yields.list (h : Yields r P) : Yields (list r) fun as => ∀ a ∈ as, P a := by
  intro cs as rest hok
  unfold Json.list at hok
  split at hok
  · cases hok
  split at hok
  · unfold listBody at hok
    split at hok
    · cases hok
    split at hok
    · cases hok
      exact List.forall_mem_nil _
    · exact h.items _ _ _ _ hok
  · cases hok

/-! ## Records -/

variable {P : σ → Prop} {f : Field σ} {fs : List (Field σ)}

/-- A field that leaves a record with a property when it finds one. -/
def Field.Keeps (f : Field σ) (P : σ → Prop) : Prop := ∀ s, P s → Yields (f.read s) P

theorem keeps_field {Q : α → Prop} {put : α → σ → σ} (hr : Yields r Q) (h : ∀ a s, Q a → P s → P (put a s))
    (name : String) (required : Bool) : (field name required r put).Keeps P := by
  intro s hs cs t rest hok
  obtain ⟨⟨a, rest'⟩, ha, hok⟩ := map_eq_ok_iff.1 hok
  cases hok
  exact h a s (hr _ _ _ ha) hs

theorem yields_members {entry : String → σ → Reader σ} (h : ∀ key s, P s → Yields (entry key s) P) (fuel : Nat) {s : σ}
    (hs : P s) : Yields (members entry fuel s) P := by
  induction fuel generalizing s with
  | zero => exact fun _ _ _ hok => nomatch hok
  | succ fuel ih =>
    intro cs t rest hok
    unfold members at hok
    obtain ⟨⟨key, r₁⟩, -, hok⟩ := bind_eq_ok_iff.1 hok
    obtain ⟨⟨s', r₂⟩, hs', hok⟩ := bind_eq_ok_iff.1 hok
    have hkept : P s' := h key s hs _ _ _ hs'
    dsimp only at hok
    split at hok
    · cases hok
    split at hok
    · cases hok
      exact hkept
    split at hok
    · split at hok
      · cases hok
      split at hok
      · exact ih hkept _ _ _ hok
      · split at hok <;> cases hok
    · cases hok

theorem yields_objectBody {entry : String → σ → Reader σ} (h : ∀ key s, P s → Yields (entry key s) P) {s : σ}
    (hs : P s) : Yields (objectBody entry s) P := by
  intro cs t rest hok
  unfold objectBody at hok
  split at hok
  · cases hok
  split at hok
  · cases hok
    exact hs
  split at hok
  · exact yields_members h _ hs _ _ _ hok
  · cases hok

namespace Shape

variable {shape : Shape σ}

theorem yields_entry (h : ∀ f ∈ shape.fields, f.Keeps P) (key : String) (s : List String × σ) (hs : P s.2) :
    Yields (shape.entry key s) fun s => P s.2 := by
  intro cs t rest hok
  unfold entry at hok
  split at hok
  · obtain ⟨_, -, hok⟩ := bind_eq_ok_iff.1 hok
    obtain ⟨_, -, hok⟩ := bind_eq_ok_iff.1 hok
    cases hok
    exact hs
  · rename_i f hf
    split at hok
    · cases hok
    obtain ⟨_, -, hok⟩ := bind_eq_ok_iff.1 hok
    obtain ⟨⟨v, r⟩, hv, hok⟩ := bind_eq_ok_iff.1 hok
    cases hok
    exact h f (List.mem_of_find?_eq_some hf) _ hs _ _ _ hv

theorem yields_ofItems (h : ∀ f ∈ fs, f.Keeps P) (i : Nat) {s : σ} (hs : P s) : Yields (shape.ofItems fs i s) P := by
  induction fs generalizing i s with
  | nil =>
    intro cs t rest hok
    obtain ⟨_, -, hok⟩ := map_eq_ok_iff.1 hok
    cases hok
    exact hs
  | cons f fs ih =>
    intro cs t rest hok
    unfold ofItems at hok
    obtain ⟨next, -, hok⟩ := bind_eq_ok_iff.1 hok
    obtain ⟨hf, hfs⟩ := List.forall_mem_cons.1 h
    cases next with
    | some r =>
      obtain ⟨⟨s', r'⟩, hs', hok⟩ := bind_eq_ok_iff.1 hok
      exact ih hfs _ (hf s hs _ _ _ hs') _ _ _ hok
    | none =>
      dsimp only at hok
      split at hok
      · cases hok
      · obtain ⟨_, -, hok⟩ := map_eq_ok_iff.1 hok
        cases hok
        exact hs

/-- **What holds of a blank record and is kept by each field holds of every record that is read.** -/
theorem yields_read (hblank : P shape.blank) (h : ∀ f ∈ shape.fields, f.Keeps P) : Yields shape.read P := by
  intro cs t rest hok
  unfold read at hok
  split at hok
  · cases hok
  split at hok
  · unfold ofObject at hok
    obtain ⟨⟨⟨given, s⟩, r⟩, hs, hok⟩ := bind_eq_ok_iff.1 hok
    have hkept : P s := yields_objectBody (P := fun s => P s.2) (yields_entry h) hblank _ _ _ hs
    dsimp only at hok
    split at hok
    · cases hok
    · cases hok
      exact hkept
  split at hok
  · exact yields_ofItems h _ hblank _ _ _ hok
  · cases hok

end Shape
end Json
end NodeDesk
