import Mathlib.Data.Bool.AllAny
import NodeDesk.Proofs.Token.Guard
import NodeDesk.Token.Cookie
/-!
# Cookie — a token comes back from its cookie

A browser keeps what stands before the first semicolon of the header that sets a cookie, and sends just this back.
The token that was handed out is read from it (`sent_header`, `token?_pair`), since none of its characters ends a
cookie or is blank.
-/
namespace NodeDesk

namespace Text

theorem dropWhile_of_none {α : Type} {p : α → Bool} {as : List α} (h : ∀ a ∈ as, p a = false) :
    as.dropWhile p = as := by
  cases as with
  | nil => rfl
  | cons a as => exact List.dropWhile_cons_of_neg (by rw [h a List.mem_cons_self]; decide)

theorem dropEnds_of_none {α : Type} {p : α → Bool} {as : List α} (h : ∀ a ∈ as, p a = false) :
    ((as.dropWhile p).reverse.dropWhile p).reverse = as := by
  rw [dropWhile_of_none h, dropWhile_of_none fun a ha => h a (List.mem_reverse.1 ha), List.reverse_reverse]

theorem trim_of_not_blank {cs : List Char} (h : ∀ c ∈ cs, isBlank c = false) : trim cs = cs := dropEnds_of_none h

end Text

namespace Token
namespace Cookie

/-- What a browser sends back of the header that sets a cookie. -/
def sent (header : String) : String := String.ofList (header.toList.takeWhile (· != ';'))

/-- **The characters of cookies that hold tokens**: none is blank, ends a cookie or is more than a byte. -/
def IsLetter (c : Char) : Prop := c.isAlphanum = true ∨ c = '-' ∨ c = '_' ∨ c = '.' ∨ c = '='

theorem IsLetter.spec {c : Char} (h : IsLetter c) :
    Text.isBlank c = false ∧ (c != ';') = true ∧ 0x20 ≤ c.toNat ∧ c.toNat < 0x7F := by
  rcases h with h | rfl | rfl | rfl | rfl
  · have hn := Utf8.toNat_of_isAlphanum h
    have hne : c ≠ ';' := by
      rintro rfl
      exact absurd h (by decide)
    refine ⟨?_, by simpa using hne, by omega, by omega⟩
    simp only [Text.isBlank, Bool.or_eq_false_iff, Bool.and_eq_false_iff, decide_eq_false_iff_not, beq_eq_false_iff_ne]
    omega
  all_goals decide

theorem isLetter_of_mem_issue {g : Guard} {now : Calendar.Instant} {nonce : Bytes} {c : Char}
    (h : c ∈ (g.issue now nonce).toList) : IsLetter c := by
  rw [Guard.issue, String.toList_ofList] at h
  exact (g.mem_issueChars now nonce h).imp id fun h => h.imp id fun h => h.imp id .inl

variable (g : Guard) {token : String} (path : String)

theorem isLetter_of_mem_pair (h : ∀ c ∈ token.toList, IsLetter c) :
    ∀ c ∈ ("csrftoken=" ++ token).toList, IsLetter c := by
  have hname : ∀ c ∈ "csrftoken=".toList, IsLetter c := by
    unfold IsLetter
    exact List.all_iff_forall_prop.1 (by decide)
  intro c hc
  rw [String.toList_append] at hc
  exact (List.mem_append.1 hc).elim (hname c) (h c)

/-- What is sent back is the name of the cookie and the token. -/
theorem sent_header (h : ∀ c ∈ token.toList, IsLetter c) :
    sent (header g token path) = "csrftoken=" ++ token := by
  have hsplit : ∃ r, (header g token path).toList = ("csrftoken=" ++ token).toList ++ ';' :: r := by
    refine ⟨" Path=".toList ++ (path.toList ++ ("; Max-Age=".toList ++ (Decimal.signed g.maxAge
      ++ "; HttpOnly; SameSite=Strict".toList))), ?_⟩
    unfold header name
    simp only [String.toList_append, String.toList_ofList, Decimal.toList_signedText, List.append_assoc]
    rfl
  obtain ⟨r, hr⟩ := hsplit
  have hpair : ∀ c ∈ ("csrftoken=" ++ token).toList, (c != ';') = true := fun c hc =>
    (isLetter_of_mem_pair h c hc).spec.2.1
  unfold sent
  rw [hr, List.takeWhile_append_of_pos hpair, List.takeWhile_cons_of_neg (by decide), List.append_nil,
    String.ofList_toList]

/-- **The token is read from what is sent back.** -/
theorem token?_pair (h : ∀ c ∈ token.toList, IsLetter c) : token? ("csrftoken=" ++ token) = some token := by
  have hletters := isLetter_of_mem_pair h
  have hend : ';' ∉ ("csrftoken=" ++ token).toList := fun hc => absurd (hletters _ hc).spec.2.1 (by decide)
  have hpair : pair? ("csrftoken=" ++ token).toList = some (name, token.toList) := by
    unfold pair?
    have hname : '=' ∉ name := by decide
    rw [Text.trim_of_not_blank fun c hc => (hletters c hc).spec.1, String.toList_append]
    exact Text.cut?_append hname
  unfold token? pairs
  rw [Text.parts_of_not_mem hend, List.filterMap_cons_some hpair, List.filterMap_nil,
    List.find?_cons_of_pos (by simp), Option.map_some, String.ofList_toList]

end Cookie
end Token
end NodeDesk
