import Mathlib.Data.Bool.AllAny
import NodeDesk.Http.ListQuery
import NodeDesk.Proofs.Text.Decimal
import NodeDesk.Proofs.Url.Form
import NodeDesk.Proofs.Url.Target
/-!
# ListQuery — a listing comes back from its address

The query of a page that was asked for, with what was not said filled in, is read as just that (`read_asked`), and
behind any short path it is an address that can be requested (`read?_address`).
-/
namespace NodeDesk
namespace Http
namespace ListQuery

/-- The query for a page, with or without titles. -/
def asked (number : Nat) (title : Bool) : List Char :=
  Url.Form.encode [("page", Decimal.text number), ("show_title", if title then "true" else "false")]

/-! ## What is written -/

theorem encodeSide_text (n : Nat) : Url.Form.encodeSide (Decimal.text n) = Decimal.digits n := by
  have hone : ∀ c ∈ Decimal.digits n, Url.Form.encodeChar c = [c] := fun c hc => by
    have hd := Decimal.isDigit_of_mem_digits hc
    simp [Url.Form.encodeChar, Char.isAlphanum, hd]
  unfold Url.Form.encodeSide
  rw [Decimal.toList_text, List.flatMap_def, List.map_congr_left hone, ← List.flatMap_def, List.flatMap_singleton']

theorem asked_eq (number : Nat) (title : Bool) :
    asked number title = "page=".toList ++ Decimal.digits number ++ "&show_title=".toList
      ++ (if title then "true" else "false").toList := by
  unfold asked Url.Form.encode Url.Form.encodePair
  simp only [List.map_cons, List.map_nil, List.intersperse_cons_cons, List.intersperse_singleton, List.flatten_cons,
    List.flatten_nil, List.append_nil, encodeSide_text]
  have hpage : Url.Form.encodeSide "page" = "page".toList := by decide
  have hshow : Url.Form.encodeSide "show_title" = "show_title".toList := by decide
  have hflag : Url.Form.encodeSide (if title then "true" else "false") =
      (if title then "true" else "false").toList := by
    cases title <;> decide
  rw [hpage, hshow, hflag]
  simp

/-- The address of a page of the listing at a path. -/
def address (path : String) (number : Nat) (title : Bool) : String :=
  path ++ ("?page=" ++ Decimal.text number ++ "&show_title=" ++ (if title then "true" else "false"))

theorem append_text (q : ListQuery) (usualTitle : Bool) (path : String) :
    path ++ q.text usualTitle = address path (q.page.getD 1) (q.showTitle.getD usualTitle) := rfl

theorem toList_address (path : String) (number : Nat) (title : Bool) :
    (address path number title).toList = path.toList ++ '?' :: asked number title := by
  unfold address
  rw [asked_eq]
  simp only [String.toList_append, Decimal.toList_text]
  rfl

/-! ## What is read -/

/-- **The query for a page is read as what it asks for.** -/
theorem read_asked {number : Nat} (h : number ≤ maxWord) (title : Bool) :
    read (some (asked number title)) = .ok ⟨some number, some title⟩ := by
  have hn : Decimal.read? maxWord (Decimal.digits number) = .ok number := Decimal.read?_digits h
  have hpage : step {} ("page", Decimal.text number) = .ok ⟨some number, none⟩ := by
    simp [step, hn]
  have hshow : step ⟨some number, none⟩ ("show_title", if title then "true" else "false") =
      .ok ⟨some number, some title⟩ := by
    cases title <;> rfl
  unfold read ofPairs asked
  rw [Option.getD_some, Url.Form.decode_encode, List.foldlM_cons, hpage]
  show (List.foldlM step ⟨some number, none⟩ _ : Except Fault ListQuery) = _
  rw [List.foldlM_cons, hshow]
  rfl

theorem page_step {q q' : ListQuery} {p : String × String} (hq : ∀ n ∈ q.page, n ≤ maxWord)
    (h : step q p = .ok q') : ∀ n ∈ q'.page, n ≤ maxWord := by
  unfold step at h
  split at h
  · split at h
    · cases h
    · split at h
      · rename_i hr
        cases h
        intro n hn
        cases hn
        exact Decimal.read?_le hr
      · cases h
  · repeat' split at h
    all_goals cases h
    all_goals exact hq

theorem page_read {query : Option (List Char)} {q : ListQuery} (h : read query = .ok q) : q.page.getD 1 ≤ maxWord := by
  have hfold : ∀ (ps : List (String × String)) (q₀ : ListQuery), (∀ n ∈ q₀.page, n ≤ maxWord) →
      ps.foldlM step q₀ = .ok q → ∀ n ∈ q.page, n ≤ maxWord := by
    intro ps
    induction ps with
    | nil => intro q₀ h₀ h; cases h; exact h₀
    | cons p ps ih =>
      intro q₀ h₀ h
      rw [List.foldlM_cons] at h
      cases hs : step q₀ p with
      | error f => rw [hs] at h; cases h
      | ok q₁ =>
        rw [hs] at h
        exact ih q₁ (page_step h₀ hs) h
  have hall := hfold _ {} (fun _ hn => nomatch hn) h
  cases hp : q.page with
  | none => exact show 1 ≤ maxWord by decide
  | some n => exact hall n hp

/-! ## The address -/

theorem mem_asked {number : Nat} {title : Bool} {c : Char} (h : c ∈ asked number title) :
    Url.Target.isQueryChar c = true ∧ c.toNat < 0x80 := by
  rw [asked_eq] at h
  simp only [List.mem_append, or_assoc] at h
  have hconst : ∀ l : List Char, (l.all fun c => Url.Target.isQueryChar c = true ∧ c.toNat < 0x80) = true → c ∈ l →
      Url.Target.isQueryChar c = true ∧ c.toNat < 0x80 := fun l hl hc => List.all_iff_forall_prop.1 hl c hc
  rcases h with h | h | h | h
  · exact hconst _ (by decide) h
  · have hd := Utf8.toNat_of_isAlphanum (show c.isAlphanum = true by
      simp [Char.isAlphanum, Decimal.isDigit_of_mem_digits h])
    refine ⟨?_, by omega⟩
    simp only [Url.Target.isQueryChar, Bool.or_eq_true, Bool.and_eq_true, decide_eq_true_eq, beq_iff_eq]
    omega
  · exact hconst _ (by decide) h
  · cases title
    · exact hconst _ (by decide) h
    · exact hconst _ (by decide) h

theorem length_asked {number : Nat} (h : number ≤ maxWord) (title : Bool) : (asked number title).length ≤ 42 := by
  have hd : (Decimal.digits number).length ≤ 20 :=
    Decimal.length_digits_le (by omega) (Nat.lt_of_le_of_lt h (by decide))
  rw [asked_eq]
  cases title <;> simp <;> omega

/-- **The address of a page can be requested**: behind a short path it is read as this path and the query. -/
theorem read?_address {path : String} {number : Nat} (h : number ≤ maxWord) (title : Bool)
    (hroot : path.toList.head? = some '/') (hchars : ∀ c ∈ path.toList, Url.Target.isPathChar c = true ∧ c.toNat < 0x80)
    (hshort : path.toList.length ≤ 1000) :
    Url.Target.read? (address path number title).toList = some ⟨path.toList, some (asked number title)⟩ := by
  have hlegal : (⟨path.toList, some (asked number title)⟩ : Url.Target).isLegal = true :=
    Url.Target.isLegal_iff.2 ⟨hroot, fun c hc => (hchars c hc).1, fun c hc => (mem_asked hc).1⟩
  rw [toList_address]
  refine Url.Target.read?_text hlegal ?_
  show Utf8.size (path.toList ++ '?' :: asked number title) ≤ _
  have hascii : ∀ c ∈ path.toList ++ '?' :: asked number title, c.toNat < 0x80 := fun c hc => by
    rcases List.mem_append.1 hc with hc | hc
    · exact (hchars c hc).2
    · rcases List.mem_cons.1 hc with rfl | hc
      · decide
      · exact (mem_asked hc).2
  have hlen := length_asked h title
  unfold Utf8.size
  rw [Utf8.encode_of_lt hascii, List.length_map, List.length_append, List.length_cons]
  have : Url.Target.maxSize = 65534 := rfl
  omega

end ListQuery
end Http
end NodeDesk
