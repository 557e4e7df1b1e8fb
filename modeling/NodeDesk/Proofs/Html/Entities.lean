import Mathlib.Logic.Function.Basic
import NodeDesk.Proofs.Html.Frame
/-!
# Entities — escaped texts are the harmless ones

Escaped text is harmless.  The other way round a harmless text begins with an escaped character, and what is left of it
is harmless again (`Harmless.exists_escapeChar`): it begins with an entity, or with a character that means nothing in
markup.  So the escaped texts are just the harmless ones (`harmless_iff`), and each of them is the escape of one text,
whatever it is put behind (`escapeOnto_faithful`).
-/
namespace NodeDesk
namespace Html

theorem entities_eq : entities = ['&', '<', '>', '"', '\''].map escapeChar := by decide

theorem escapeChar_of_ne {c : Char} (hamp : c ≠ '&') (h : c ≠ '<' ∧ c ≠ '>' ∧ c ≠ '"' ∧ c ≠ '\'') :
    escapeChar c = [c] := by
  unfold escapeChar
  split
  · exact absurd rfl hamp
  · exact absurd rfl h.1
  · exact absurd rfl h.2.1
  · exact absurd rfl h.2.2.1
  · exact absurd rfl h.2.2.2
  · rfl

theorem escapeChar_ne_nil (c : Char) : escapeChar c ≠ [] := by
  rcases escapeChar_entity c with ⟨h, -⟩ | ⟨e, -, h⟩
  · rw [h]
    exact List.cons_ne_nil c []
  · rw [h]
    exact List.cons_ne_nil '&' e

namespace Harmless

variable {cs pre : List Char}

theorem of_append (h : Harmless (pre ++ cs)) : Harmless cs where
  marks c hc := h.marks c (List.mem_append_right pre hc)
  ampersands before behind hs := h.ampersands (pre ++ before) behind (by rw [hs, List.append_assoc])

/-- **A harmless text begins with an escaped character.** -/
theorem exists_escapeChar {x : Char} (h : Harmless (x :: cs)) :
    ∃ c r, x :: cs = escapeChar c ++ r ∧ Harmless r := by
  by_cases hamp : x = '&'
  · subst hamp
    obtain ⟨e, he, hprefix⟩ := h.ampersands [] cs rfl
    obtain ⟨r, hr⟩ := List.isPrefixOf_iff_prefix.1 hprefix
    rw [entities_eq] at he
    obtain ⟨c, -, rfl⟩ := List.mem_map.1 he
    rw [← hr] at h ⊢
    exact ⟨c, r, rfl, h.of_append⟩
  · have hx : escapeChar x = [x] := escapeChar_of_ne hamp (h.marks x List.mem_cons_self)
    exact ⟨x, cs, by rw [hx]; rfl, @of_append cs [x] h⟩

theorem exists_escapeChars : ∀ {cs : List Char}, Harmless cs → ∃ t, escapeChars t = cs
  | [], _ => ⟨[], rfl⟩
  | x :: cs, h => by
    obtain ⟨c, r, hr, hrest⟩ := h.exists_escapeChar
    have hpos : 0 < (escapeChar c).length := List.length_pos_iff.2 (escapeChar_ne_nil c)
    have hless : r.length ≤ cs.length := by
      have hlen := congrArg List.length hr
      rw [List.length_append, List.length_cons] at hlen
      omega
    obtain ⟨t, rfl⟩ := hrest.exists_escapeChars
    exact ⟨c :: t, hr.symm⟩
  termination_by cs => cs.length

end Harmless

/-- **The harmless texts are the escaped ones.** -/
theorem harmless_iff {cs : List Char} : Harmless cs ↔ ∃ t, escapeChars t = cs := by
  constructor
  · exact Harmless.exists_escapeChars
  · rintro ⟨t, rfl⟩
    exact harmless_escapeChars t

/-! ## Buffers -/

theorem unescape_escape (s : String) : unescape (escape s) = s := by
  rw [unescape, toList_escape, unescapeChars_escapeChars, String.ofList_toList]

theorem escape_append (s t : String) : escape (s ++ t) = escape s ++ escape t := by
  rw [← String.toList_inj]
  simp

/-- **A text is told by its escape.** -/
theorem escape_inj {s t : String} (h : escape s = escape t) : s = t := by
  rw [← unescape_escape s, h, unescape_escape]

theorem harmless_toList_iff {e : String} : Harmless e.toList ↔ ∃ s, escape s = e := by
  rw [harmless_iff]
  constructor
  · rintro ⟨t, ht⟩
    exact ⟨String.ofList t, by rw [← String.toList_inj, toList_escape, String.toList_ofList, ht]⟩
  · rintro ⟨s, rfl⟩
    exact ⟨s.toList, (toList_escape s).symm⟩

/-- **Escaping onto a buffer loses nothing.**  It puts the same text behind every buffer, which is harmless and is read
back as what was escaped; a text is put on part by part; the texts that can stand there are all that are harmless; and
different texts leave different buffers. -/
theorem escapeOnto_faithful :
    (∀ s : String, ∃ e : String, (∀ b, escapeOnto b s = b ++ e) ∧ Harmless e.toList ∧ unescape e = s) ∧
    (∀ b s t : String, escapeOnto b (s ++ t) = escapeOnto (escapeOnto b s) t) ∧
    (∀ e : String, Harmless e.toList ↔ ∃ s, ∀ b, escapeOnto b s = b ++ e) ∧
    ∀ b : String, Function.Injective (escapeOnto b) := by
  have hputs : ∀ s e : String, (∀ b, escapeOnto b s = b ++ e) ↔ escape s = e := fun s e =>
    ⟨fun h => (String.append_right_inj "").1 (h ""), fun h b => h ▸ rfl⟩
  refine ⟨fun s => ⟨escape s, fun b => rfl, harmless_toList_iff.2 ⟨s, rfl⟩, unescape_escape s⟩, fun b s t => ?_,
    fun e => ?_, fun b s t h => escape_inj ((String.append_right_inj b).1 h)⟩
  · unfold escapeOnto
    rw [escape_append, String.append_assoc]
  · rw [harmless_toList_iff]
    exact exists_congr fun s => (hputs s e).symm

/-- An escaped text can be escaped once more, and one pass takes back one escape. -/
example : escape (escape "<") = "&amp;lt;" ∧ unescape "&amp;lt;" = "&lt;" := by decide

end Html
end NodeDesk
