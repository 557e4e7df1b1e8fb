import NodeDesk.Proofs.Json.Reads
/-!
# Kinds — texts of a value whose kind is asked for

What the texts of a string are, of something or nothing, and of a list (`IsString`, `IsOptional`, `IsList`), and that
each of these is read from every text of its own.  One of several alternatives is read from its name, or from an
object of one member (`reads_choice_name`, `reads_choice_member`).
-/
namespace NodeDesk
namespace Json

variable {α : Type} {cs blank : List Char}

/-! ## Strings, options and lists -/

/-- **The texts of a string.** -/
inductive IsString : List Char → String → Prop
  | quotes {cs : List Char} {s : String} (spelled : Quoted.Says cs s) : IsString (quotes cs) s

/-- **The texts of something or nothing.** -/
inductive IsOptional (R : List Char → α → Prop) : List Char → Option α → Prop
  | null : IsOptional R ['n', 'u', 'l', 'l'] none
  | value {cs : List Char} {a : α} (h : R cs a) : IsOptional R cs (some a)

/-- **The texts of a list.** -/
inductive IsList (R : List Char → α → Prop) : List Char → List α → Prop
  | brackets {blank : List Char} {ps : List Padded} {as : List α} (spaces : Spaces blank)
      (items : List.Forall₂ (fun p a => R p.body a) ps as) : IsList R (brackets blank ps) as

theorem isString_written (s : String) : IsString (Quoted.write s) s := .quotes (Quoted.says_written s)

theorem isOptional_written (s : Option String) : IsOptional IsString (Value.optional s).write s := by
  cases s with
  | none => exact .null
  | some s => exact .value (isString_written s)

theorem isList_written (ss : List String) : IsList IsString (Value.list (ss.map .string)).write ss := by
  rw [write_list, List.map_map]
  exact .brackets spaces_nil (List.forall₂_map_left_iff.2 (List.forall₂_same.2 fun s _ => isString_written s))

theorem IsString.opens {s : String} (h : IsString cs s) : Opens cs := by
  cases h with
  | quotes spelled => exact ⟨'"', _, rfl, by decide, by decide⟩

theorem IsString.reads {s : String} (h : IsString cs s) (expected : String) : Reads (stringAs expected) cs s := by
  cases h with
  | quotes spelled => exact reads_quotes expected spelled

theorem IsOptional.reads {s : Option String} (h : IsOptional IsString cs s) (expected : String) :
    Reads (optional (stringAs expected)) cs s := by
  cases h with
  | null => exact reads_none _
  | value h =>
    cases h with
    | quotes spelled => exact reads_some (by decide) (by decide) (reads_quotes expected spelled)

theorem IsList.reads {ss : List String} (h : IsList IsString cs ss) : Reads (list string) cs ss := by
  cases h with
  | brackets spaces items => exact reads_brackets spaces (items.imp fun _ _ hs => ⟨hs.opens, hs.reads _⟩)

/-! ## Alternatives -/

variable {alternatives : List (Alternative α)} {alternative : Alternative α} {name : String} {a : α}

theorem skipsSpace_choice (alternatives : List (Alternative α)) : SkipsSpace (choice alternatives) := by
  intro cs
  unfold choice
  rw [skipSpace_skipSpace]

theorem find_alternative (h : alternatives.find? (·.name == name) = some alternative) :
    Alternative.find alternatives name = .ok alternative := by
  unfold Alternative.find
  rw [h]

/-- **A name is read as what it is the name of.** -/
theorem reads_choice_name (h : alternatives.find? (·.name == name) = some (.bare name a)) (hname : IsString cs name) :
    Reads (choice alternatives) cs a := by
  cases hname with
  | quotes spelled =>
    intro rest _
    unfold choice
    rw [quotes_append, skipSpace_cons (by decide)]
    simp only [if_true, Quoted.read_spelling spelled, bind, Except.bind, find_alternative h]

/-- **An object of one member is read as what its key is the name of**, with its content. -/
theorem reads_choice_member (h : alternatives.find? (·.name == name) = some alternative) (hblank : Spaces blank)
    {m : Member} (hname : Quoted.Says m.key name)
    (hcontent : Reads alternative.content (m.value.before ++ m.value.body) a) :
    Reads (choice alternatives) (braces blank [m]) a := by
  intro rest _
  have hend := (skipSpace_append m.value.spaces_after _).trans (skipSpace_restMembers [] rest)
  have hkey : choiceName (blank ++ ([','].intercalate ([m].map Member.chars) ++ '}' :: rest))
      = .ok (name, m.told ++ (m.value.after ++ restMembers [] rest)) := by
    unfold choiceName
    rw [skipSpace_append hblank, skipSpace_members, Member.body, List.append_assoc, List.cons_append]
    exact (if_pos rfl).trans (Quoted.read_spelling hname _)
  have hcolon : colon (m.told ++ (m.value.after ++ restMembers [] rest))
      = .ok (m.value.before ++ m.value.body ++ (m.value.after ++ restMembers [] rest)) := by
    rw [Member.told, List.append_assoc, List.cons_append]
    exact colon_append m.spaces_gap _
  have hread := hcontent _ (follows_append m.value.spaces_after (follows_restMembers [] rest))
  rw [braces_append]
  unfold choice
  rw [skipSpace_cons (by decide)]
  dsimp only
  rw [if_neg (by decide), if_pos rfl, hkey]
  simp only [bind, Except.bind, find_alternative h, hcolon, hread, hend]
  exact if_pos rfl

theorem reads_bare (name : String) (a : α) {before : List Char} (hs : Spaces before) :
    Reads (Alternative.bare name a).content (before ++ ['n', 'u', 'l', 'l']) a := by
  intro rest _
  unfold Alternative.content
  dsimp only
  rw [List.append_assoc, skipSpace_append hs]
  rfl

end Json
end NodeDesk
