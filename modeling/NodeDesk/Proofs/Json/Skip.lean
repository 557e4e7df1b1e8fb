import NodeDesk.Proofs.Json.Reads
/-!
# Skip — every value can be passed over

Who passes over a value leaves what follows it, whatever kind of value it is and however deep it nests
(`value_of_isValue`).  The induction is on the text of the value; the depth that is left exceeds its length.
-/
namespace NodeDesk
namespace Json
namespace Skip

/-- **A text is passed over**, whatever may follow it. -/
def Passes (element : List Char → Except Fault (List Char)) (cs : List Char) : Prop :=
  ∀ rest, Follows rest → element (cs ++ rest) = .ok rest

variable {element : List Char → Except Fault (List Char)} {cs r rest blank : List Char} {fuel depth : Nat}

theorem Passes.skipSpace (hskip : ∀ cs, element (skipSpace cs) = element cs) {before : List Char} (hs : Spaces before)
    (h : Passes element cs) (hrest : Follows rest) : element (before ++ (cs ++ rest)) = .ok rest := by
  rw [← hskip, skipSpace_append hs, hskip, h rest hrest]

/-! ## Lists -/

theorem items_of_end (h : element cs = .ok r) (hend : skipSpace r = ']' :: rest) :
    items element (fuel + 1) cs = .ok rest := by
  rw [items, h]
  simp only [bind, Except.bind, hend, if_true]

theorem items_of_comma {r' : List Char} (h : element cs = .ok r) (hcomma : skipSpace r = ',' :: r') :
    items element (fuel + 1) cs = items element fuel r' := by
  rw [items, h]
  simp only [bind, Except.bind, hcomma]
  rw [if_neg (by decide)]
  simp only [if_true]

/-- The induction is on the items that are left; each of them is a round. -/
theorem items_from (hskip : ∀ cs, element (skipSpace cs) = element cs) {ps : List Padded}
    (hps : ∀ p ∈ ps, Passes element p.body) (p : Padded) (h : element cs = .ok (p.after ++ restItems ps rest))
    (hfuel : ps.length < fuel) : items element fuel cs = .ok rest := by
  induction ps generalizing p cs fuel with
  | nil =>
    obtain ⟨fuel, rfl⟩ := Nat.exists_eq_succ_of_ne_zero (Nat.ne_zero_of_lt hfuel)
    exact items_of_end h ((skipSpace_append p.spaces_after _).trans (skipSpace_restItems [] rest))
  | cons q qs ih =>
    obtain ⟨fuel, rfl⟩ := Nat.exists_eq_succ_of_ne_zero (Nat.ne_zero_of_lt hfuel)
    have hcomma := (skipSpace_append p.spaces_after _).trans (skipSpace_restItems (q :: qs) rest)
    have hq := (hps q List.mem_cons_self).skipSpace hskip q.spaces_before
      (follows_append q.spaces_after (follows_restItems qs rest))
    rw [items_of_comma h (hcomma.trans (restItems_cons q qs rest))]
    exact ih (fun p hp => hps p (List.mem_cons_of_mem q hp)) q hq (Nat.lt_of_succ_lt_succ hfuel)

/-- **A list is passed over** after its opening bracket, if each item is. -/
theorem list_items (hskip : ∀ cs, element (skipSpace cs) = element cs) (hblank : Spaces blank) {ps : List Padded}
    (hopens : ∀ p ∈ ps, Opens p.body) (hps : ∀ p ∈ ps, Passes element p.body) (rest : List Char) :
    list element (blank ++ ([','].intercalate (ps.map Padded.chars) ++ ']' :: rest)) = .ok rest := by
  unfold list
  rw [skipSpace_append hblank]
  cases ps with
  | nil => rfl
  | cons p ps =>
    have hp := hps p List.mem_cons_self _ (follows_append p.spaces_after (follows_restItems ps rest))
    have hfuel : ps.length < (p.body ++ (p.after ++ restItems ps rest)).length := by
      have hlength := length_restItems ps rest
      rw [List.length_append, List.length_append]
      omega
    have hitems := items_from hskip (fun q hq => hps q (List.mem_cons_of_mem p hq)) p hp hfuel
    have hopen := hopens p List.mem_cons_self
    rw [skipSpace_items hopen]
    obtain ⟨c, r, hbody, -, hend⟩ := hopen
    rw [hbody, List.cons_append] at hitems ⊢
    dsimp only
    rw [if_neg hend]
    exact hitems

/-! ## Objects -/

/-- The key of a member is passed over, then its colon, then its value. -/
theorem passed_member (hskip : ∀ cs, element (skipSpace cs) = element cs) {m : Member}
    (hkey : ∃ us, Quoted.Spells m.key us) (hvalue : Passes element m.value.body) (hr : Follows r) :
    ∃ r₁ r₂, Quoted.skip (m.body ++ (m.value.after ++ r)) = .ok r₁ ∧ colon r₁ = .ok r₂ ∧
      element r₂ = .ok (m.value.after ++ r) := by
  obtain ⟨us, hus⟩ := hkey
  refine ⟨m.told ++ (m.value.after ++ r), m.value.before ++ (m.value.body ++ (m.value.after ++ r)), ?_, ?_, ?_⟩
  · rw [Member.body, List.append_assoc, List.cons_append]
    exact Quoted.skip_of_spells hus _
  · rw [Member.told, List.append_assoc, List.cons_append, List.append_assoc]
    exact colon_append m.spaces_gap _
  · exact hvalue.skipSpace hskip m.value.spaces_before (follows_append m.value.spaces_after hr)

theorem members_of_end {r₁ r₂ r₃ : List Char} (hcs : skipSpace cs = '"' :: r) (hkey : Quoted.skip r = .ok r₁)
    (hcolon : colon r₁ = .ok r₂) (hvalue : element r₂ = .ok r₃) (hend : skipSpace r₃ = '}' :: rest) :
    members element (fuel + 1) cs = .ok rest := by
  rw [members, hcs]
  simp only [if_true, bind, Except.bind, hkey, hcolon, hvalue, hend]

theorem members_of_comma {r₁ r₂ r₃ r₄ : List Char} (hcs : skipSpace cs = '"' :: r) (hkey : Quoted.skip r = .ok r₁)
    (hcolon : colon r₁ = .ok r₂) (hvalue : element r₂ = .ok r₃) (hcomma : skipSpace r₃ = ',' :: r₄) :
    members element (fuel + 1) cs = members element fuel r₄ := by
  rw [members, hcs]
  simp only [if_true, bind, Except.bind, hkey, hcolon, hvalue, hcomma]
  rw [if_neg (by decide)]

/-- The induction is on the members that are left; each of them is a round. -/
theorem members_from (hskip : ∀ cs, element (skipSpace cs) = element cs) {m : Member} {ms : List Member}
    (hkeys : ∀ n ∈ m :: ms, ∃ us, Quoted.Spells n.key us) (hvalues : ∀ n ∈ m :: ms, Passes element n.value.body)
    (hfuel : ms.length < fuel) (hcs : skipSpace cs = '"' :: (m.body ++ (m.value.after ++ restMembers ms rest))) :
    members element fuel cs = .ok rest := by
  induction ms generalizing m cs fuel with
  | nil =>
    obtain ⟨fuel, rfl⟩ := Nat.exists_eq_succ_of_ne_zero (Nat.ne_zero_of_lt hfuel)
    obtain ⟨r₁, r₂, hkey, hcolon, hvalue⟩ := passed_member hskip (hkeys m List.mem_cons_self)
      (hvalues m List.mem_cons_self) (follows_restMembers [] rest)
    exact members_of_end hcs hkey hcolon hvalue
      ((skipSpace_append m.value.spaces_after _).trans (skipSpace_restMembers [] rest))
  | cons n ms ih =>
    obtain ⟨fuel, rfl⟩ := Nat.exists_eq_succ_of_ne_zero (Nat.ne_zero_of_lt hfuel)
    obtain ⟨r₁, r₂, hkey, hcolon, hvalue⟩ := passed_member hskip (hkeys m List.mem_cons_self)
      (hvalues m List.mem_cons_self) (follows_restMembers (n :: ms) rest)
    have hcomma := (skipSpace_append m.value.spaces_after _).trans (skipSpace_restMembers (n :: ms) rest)
    rw [members_of_comma hcs hkey hcolon hvalue (hcomma.trans (restMembers_cons n ms rest))]
    exact ih (fun x hx => hkeys x (List.mem_cons_of_mem m hx)) (fun x hx => hvalues x (List.mem_cons_of_mem m hx))
      (Nat.lt_of_succ_lt_succ hfuel) (skipSpace_member n _)

/-- **An object is passed over** after its opening brace, if each value is. -/
theorem object_members (hskip : ∀ cs, element (skipSpace cs) = element cs) (hblank : Spaces blank) {ms : List Member}
    (hkeys : ∀ m ∈ ms, ∃ us, Quoted.Spells m.key us) (hvalues : ∀ m ∈ ms, Passes element m.value.body)
    (rest : List Char) :
    object element (blank ++ ([','].intercalate (ms.map Member.chars) ++ '}' :: rest)) = .ok rest := by
  unfold object
  rw [skipSpace_append hblank]
  cases ms with
  | nil => rfl
  | cons m ms =>
    have hlength := length_restMembers ms rest
    rw [skipSpace_members]
    dsimp only
    rw [if_neg (by decide)]
    refine members_from hskip hkeys hvalues ?_ (skipSpace_cons (by decide) _)
    rw [List.length_append, List.length_append]
    omega

/-! ## Values -/

theorem valueWithin_skipSpace (depth : Nat) (cs : List Char) :
    valueWithin depth (skipSpace cs) = valueWithin depth cs := by
  cases depth with
  | zero => rfl
  | succ depth =>
    unfold valueWithin
    rw [skipSpace_skipSpace]

theorem valueWithin_digits {c : Char} (h : c.isDigit = true) (r : List Char) :
    valueWithin (depth + 1) (c :: r) = Numeral.skip (c :: r) := by
  have hne : ∀ x : Char, x.isDigit = false → c ≠ x := by
    rintro x hx rfl
    rw [h] at hx
    cases hx
  unfold valueWithin
  rw [skipSpace_cons (isSpace_of_isDigit h)]
  dsimp only
  rw [if_neg (hne 'n' rfl), if_neg (hne 't' rfl), if_neg (hne 'f' rfl), if_neg (hne '-' rfl), if_pos h]

/-- **Every value is passed over**, if the depth that is left exceeds its length. -/
theorem passes_of_isValue (h : IsValue cs) (hdepth : cs.length < depth) : Passes (valueWithin depth) cs := by
  induction h generalizing depth with
  | null =>
    obtain ⟨depth, rfl⟩ := Nat.exists_eq_succ_of_ne_zero (Nat.ne_zero_of_lt hdepth)
    exact fun _ _ => rfl
  | yes =>
    obtain ⟨depth, rfl⟩ := Nat.exists_eq_succ_of_ne_zero (Nat.ne_zero_of_lt hdepth)
    exact fun _ _ => rfl
  | no =>
    obtain ⟨depth, rfl⟩ := Nat.exists_eq_succ_of_ne_zero (Nat.ne_zero_of_lt hdepth)
    exact fun _ _ => rfl
  | number h =>
    obtain ⟨depth, rfl⟩ := Nat.exists_eq_succ_of_ne_zero (Nat.ne_zero_of_lt hdepth)
    intro rest hrest
    obtain ⟨d, ds, rfl, hd⟩ := h.exists_digit
    exact (valueWithin_digits hd (ds ++ rest)).trans (Numeral.skip_of_isText h (ends_of_follows hrest))
  | negative h =>
    obtain ⟨depth, rfl⟩ := Nat.exists_eq_succ_of_ne_zero (Nat.ne_zero_of_lt hdepth)
    exact fun rest hrest => Numeral.skip_of_isText h (ends_of_follows hrest)
  | string h =>
    obtain ⟨depth, rfl⟩ := Nat.exists_eq_succ_of_ne_zero (Nat.ne_zero_of_lt hdepth)
    intro rest _
    rw [quotes_append]
    exact Quoted.skip_of_spells h rest
  | @list blank ps spaces items ih =>
    obtain ⟨depth, rfl⟩ := Nat.exists_eq_succ_of_ne_zero (Nat.ne_zero_of_lt hdepth)
    intro rest _
    have hps : ∀ p ∈ ps, Passes (valueWithin depth) p.body := fun p hp =>
      ih p hp (Nat.lt_of_lt_of_le (length_lt_brackets hp) (Nat.le_of_lt_succ hdepth))
    rw [brackets_append]
    exact list_items (valueWithin_skipSpace depth) spaces (fun p hp => opens_of_isValue (items p hp)) hps rest
  | @object blank ms spaces keys values ih =>
    obtain ⟨depth, rfl⟩ := Nat.exists_eq_succ_of_ne_zero (Nat.ne_zero_of_lt hdepth)
    intro rest _
    have hms : ∀ m ∈ ms, Passes (valueWithin depth) m.value.body := fun m hm =>
      ih m hm (Nat.lt_of_lt_of_le (length_lt_braces hm) (Nat.le_of_lt_succ hdepth))
    rw [braces_append]
    exact object_members (valueWithin_skipSpace depth) spaces keys hms rest

/-- **Any value is passed over**, spaces before it or none. -/
theorem value_of_isValue {before : List Char} (hs : Spaces before) (h : IsValue cs) : Passes value (before ++ cs) := by
  intro rest hrest
  have hdepth : cs.length < (before ++ cs ++ rest).length + 1 := by
    rw [List.length_append, List.length_append]
    omega
  rw [List.append_assoc] at hdepth ⊢
  exact (passes_of_isValue h hdepth).skipSpace (valueWithin_skipSpace _) hs hrest

end Skip
end Json
end NodeDesk
