import NodeDesk.Proofs.Url.Percent
import NodeDesk.Proofs.Url.Target
import NodeDesk.Url.Resolver
/-!
# Resolver — a link is an address of its own

The address of an id is the prefix, one segment and a slash, which a server reads as it stands unless it is too long
(`read?_prefixed`).  Different ids have different addresses (`nodeUrl_inj`, `userUrl_inj`).
-/
namespace NodeDesk
namespace Url

open Target (isPathChar maxSize)

theorem isPathChar_of_mem_encode {c : Char} {s : String} (h : c ∈ (Percent.encode s).toList) : isPathChar c = true := by
  rcases Percent.mem_encode h with rfl | h
  · decide
  · have hn := Percent.toNat_of_isUnreserved h
    simp only [isPathChar, Bool.or_eq_true, Bool.and_eq_true, beq_iff_eq, decide_eq_true_eq]
    omega

theorem slash_not_mem_encode (s : String) : '/' ∉ (Percent.encode s).toList := fun h => by
  rcases Percent.mem_encode h with h | h
  · cases h
  · exact absurd h (by decide)

/-- An id behind a prefix, as a path. -/
def prefixed (base : List Char) (id : String) : List Char := base ++ (Percent.encode id).toList ++ ['/']

/-- **The address of an id is read as its path**, if it is not too long. -/
theorem read?_prefixed {base : List Char} (hroot : base.head? = some '/') (hbase : ∀ c ∈ base, isPathChar c = true)
    {id : String} (hs : Utf8.size (prefixed base id) ≤ maxSize) :
    Target.read? (prefixed base id) = some ⟨prefixed base id, none⟩ := by
  have hhead : (prefixed base id).head? = some '/' := by
    obtain ⟨r, rfl⟩ := List.head?_eq_some_iff.1 hroot
    rfl
  have hchars : ∀ c ∈ prefixed base id, isPathChar c = true := fun c hc => by
    simp only [prefixed, List.mem_append, List.mem_singleton] at hc
    rcases hc with (hc | hc) | rfl
    · exact hbase c hc
    · exact isPathChar_of_mem_encode hc
    · decide
  have hlegal : (⟨prefixed base id, none⟩ : Target).isLegal = true :=
    Target.isLegal_iff.2 ⟨hhead, hchars, fun _ hc => absurd hc List.not_mem_nil⟩
  exact Target.read?_text hlegal hs

namespace Resolver

variable (r : Resolver) {id id' : String}

theorem toList_nodeUrl (id : String) : (r.nodeUrl id).toList = prefixed r.nodeBase.toList id := by
  simp [nodeUrl, prefixed]

theorem toList_userUrl (id : String) : (r.userUrl id).toList = prefixed r.userBase.toList id := by
  simp [userUrl, prefixed]

theorem prefixed_inj {base : List Char} (h : prefixed base id = prefixed base id') : id = id' := by
  unfold prefixed at h
  rw [List.append_cancel_right_eq, List.append_cancel_left_eq, String.toList_inj] at h
  exact Percent.encode_inj h

/-- **Different nodes have different addresses.** -/
theorem nodeUrl_inj (h : r.nodeUrl id = r.nodeUrl id') : id = id' := by
  rw [← String.toList_inj, toList_nodeUrl, toList_nodeUrl] at h
  exact prefixed_inj h

theorem userUrl_inj (h : r.userUrl id = r.userUrl id') : id = id' := by
  rw [← String.toList_inj, toList_userUrl, toList_userUrl] at h
  exact prefixed_inj h

end Resolver
end Url
end NodeDesk
