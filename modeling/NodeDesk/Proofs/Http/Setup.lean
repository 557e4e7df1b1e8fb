import NodeDesk.Http.Desk
import NodeDesk.Proofs.Text.Utf8
/-!
# Setup — which desk a setup makes

A setup makes a desk unless it lists the star that stands for every origin (`exists_ofConfig_iff`): no other text of an
origin is written as the wildcard, and an origin that no header may hold is passed over.  The origins are all that a
desk with them has more than one without (`ofConfig?_sameOrigin`).
-/
namespace NodeDesk
namespace Http
namespace Cors

theorem wildcard_eq : wildcard = Utf8.encode "*".toList := by decide

/-- **The origins that are granted** are those of the setup that a header may hold. -/
theorem mem_legal_iff {origins : List String} {bs : Bytes} :
    bs ∈ legal origins ↔ ∃ o ∈ origins, Utf8.encode o.toList = bs ∧ bs.all isLegal = true := by
  unfold legal
  rw [List.mem_filter, List.mem_map]
  constructor
  · rintro ⟨⟨o, ho, he⟩, hl⟩
    exact ⟨o, ho, he, hl⟩
  · rintro ⟨o, ho, he, hl⟩
    exact ⟨⟨o, ho, he⟩, hl⟩

theorem wildcard_mem_legal_iff {origins : List String} : wildcard ∈ legal origins ↔ "*" ∈ origins := by
  rw [mem_legal_iff]
  constructor
  · rintro ⟨o, ho, he, -⟩
    rw [wildcard_eq] at he
    rwa [← String.toList_inj.1 (Utf8.encode_inj he)]
  · intro h
    exact ⟨"*", h, wildcard_eq.symm, by decide⟩

end Cors

namespace Desk

variable {c : Config} {fallback : Bytes} {d : Desk}

theorem ofConfig?_eq : ofConfig? c fallback =
    if "*" ∈ c.corsOrigins then none
    else some ⟨{ links := c.links, dateStyle := c.dateStyle }, guardOf c fallback, c.perPage, c.showTitle,
      corsOf c⟩ := by
  unfold ofConfig?
  by_cases h : "*" ∈ c.corsOrigins
  · rw [if_pos h, if_pos (List.contains_iff_mem.2 (Cors.wildcard_mem_legal_iff.2 h))]
  · rw [if_neg h, if_neg fun hw => h (Cors.wildcard_mem_legal_iff.1 (List.contains_iff_mem.1 hw))]

/-- **When a setup makes a desk**: unless it lists the star. -/
theorem exists_ofConfig_iff : (∃ d, ofConfig? c fallback = some d) ↔ "*" ∉ c.corsOrigins := by
  rw [ofConfig?_eq]
  by_cases h : "*" ∈ c.corsOrigins
  · rw [if_pos h]
    exact iff_of_false (fun ⟨_, hd⟩ => nomatch hd) (not_not_intro h)
  · rw [if_neg h]
    exact iff_of_true ⟨_, rfl⟩ h

theorem cors_of_ofConfig? (h : ofConfig? c fallback = some d) : d.cors = corsOf c := by
  rw [ofConfig?_eq] at h
  split at h
  · cases h
  · cases h
    rfl

/-- **The same setup without origins** makes the same desk but for them. -/
theorem ofConfig?_sameOrigin (h : ofConfig? c fallback = some d) :
    ofConfig? { c with corsOrigins := [] } fallback = some { d with cors := none } := by
  rw [ofConfig?_eq] at h
  split at h
  · cases h
  · cases h
    rfl

end Desk
end Http
end NodeDesk
