import NodeDesk.Proofs.Token.Cookie
/-!
# Jar — a token is found among any cookies

A browser writes its cookies with semicolons between them, and other programs put in blanks, or parts that are no
cookies.  All of it is read back as the cookies that were written (`pairs_jar`), so the token is the value of the first
cookie that has its very name, and there is none if no cookie has it (`token_of_jar`).
-/
namespace NodeDesk

namespace Text

/-- **A text without blanks around it.** -/
def Trimmed (cs : List Char) : Prop :=
  (∀ c ∈ cs.head?, isBlank c = false) ∧ ∀ c ∈ cs.getLast?, isBlank c = false

theorem trimmed_iff {cs : List Char} :
    (cs.head?.all (!isBlank ·) = true ∧ cs.getLast?.all (!isBlank ·) = true) ↔ Trimmed cs := by
  simp [Trimmed, Option.all_eq_true]

instance (cs : List Char) : Decidable (Trimmed cs) := decidable_of_iff _ trimmed_iff

theorem dropWhile_padded {α : Type} {p : α → Bool} {before as r : List α} (hb : ∀ a ∈ before, p a = true)
    (hne : as ≠ []) (h : ∀ a ∈ as.head?, p a = false) : (before ++ (as ++ r)).dropWhile p = as ++ r := by
  obtain ⟨a, as, rfl⟩ := List.exists_cons_of_ne_nil hne
  have ha : ¬ p a = true := by simp [h a rfl]
  rw [List.dropWhile_append_of_pos hb, List.cons_append, List.dropWhile_cons_of_neg ha]

/-- **Blanks around a text are trimmed away**, and no others. -/
theorem trim_padded {before cs after : List Char} (hb : ∀ c ∈ before, isBlank c = true)
    (ha : ∀ c ∈ after, isBlank c = true) (hne : cs ≠ []) (h : Trimmed cs) : trim (before ++ (cs ++ after)) = cs := by
  have hreverse : cs.reverse ≠ [] := by simpa using hne
  have hlast : ∀ c ∈ cs.reverse.head?, isBlank c = false := by
    rw [List.head?_reverse]
    exact h.2
  have hafter : ∀ c ∈ after.reverse, isBlank c = true := fun c hc => ha c (List.mem_reverse.1 hc)
  have hend := dropWhile_padded (r := []) hafter hreverse hlast
  rw [List.append_nil, ← List.reverse_append] at hend
  unfold trim trimStart trimEnd
  rw [dropWhile_padded hb hne h.1, hend, List.reverse_reverse]

theorem mem_of_mem_trim {cs : List Char} {c : Char} (h : c ∈ trim cs) : c ∈ cs := by
  have hstart := (List.dropWhile_sublist isBlank).subset (List.mem_reverse.1 h)
  exact (List.dropWhile_sublist isBlank).subset (List.mem_reverse.1 hstart)

end Text

namespace Token
namespace Cookie

/-- **What stands between two semicolons** of a header: a cookie with blanks around it, or a text that is none. -/
inductive Part where
  | cookie (before name value after : List Char)
  | stray (text : List Char)
  deriving Repr, DecidableEq

namespace Part

def chars : Part → List Char
  | .cookie before name value after => before ++ (name ++ '=' :: value ++ after)
  | .stray text => text

def cookie? : Part → Option (List Char × List Char)
  | .cookie _ name value _ => some (name, value)
  | .stray _ => none

/-- Names hold no equals sign, values may; neither holds a semicolon or has blanks around it.  What is no cookie holds
no equals sign. -/
def Sound : Part → Prop
  | .cookie before name value after =>
    (∀ c ∈ before ++ after, Text.isBlank c = true) ∧ ('=' ∉ name ∧ ';' ∉ name ∧ Text.Trimmed name) ∧
      ';' ∉ value ∧ Text.Trimmed value
  | .stray text => ';' ∉ text ∧ '=' ∉ text

instance : (p : Part) → Decidable p.Sound
  | .cookie before name value after =>
    have : Decidable (∀ c ∈ before ++ after, Text.isBlank c = true) := decidable_of_iff _ List.all_eq_true
    inferInstanceAs (Decidable ((∀ c ∈ before ++ after, Text.isBlank c = true) ∧
      ('=' ∉ name ∧ ';' ∉ name ∧ Text.Trimmed name) ∧ ';' ∉ value ∧ Text.Trimmed value))
  | .stray text => inferInstanceAs (Decidable (';' ∉ text ∧ '=' ∉ text))

end Part

def jar (parts : List (List Char)) : String := String.ofList ([';'].intercalate parts)

def cookies (parts : List Part) : List (List Char × List Char) := parts.filterMap Part.cookie?

variable {p : Part} {parts : List Part}

theorem semicolon_not_mem_blanks {blanks : List Char} (h : ∀ c ∈ blanks, Text.isBlank c = true) : ';' ∉ blanks :=
  fun hc => absurd (h ';' hc) (by decide)

theorem Part.semicolon_not_mem_chars (h : p.Sound) : ';' ∉ p.chars := by
  cases p with
  | stray text => exact h.1
  | cookie before name value after =>
    obtain ⟨hblank, ⟨-, hname, -⟩, hvalue, -⟩ := h
    have hends := semicolon_not_mem_blanks hblank
    simp only [List.mem_append, not_or] at hends
    simp [chars, hends, hname, hvalue]

/-- **A part is read as the cookie that it is**, if it is one. -/
theorem Part.pair?_chars (h : p.Sound) : pair? p.chars = p.cookie? := by
  unfold pair?
  cases p with
  | stray text =>
    exact Text.cut?_of_not_mem fun hc => h.2 (Text.mem_of_mem_trim hc)
  | cookie before name value after =>
    obtain ⟨hblank, ⟨hequals, -, hname⟩, -, hvalue⟩ := h
    have htrimmed : Text.Trimmed (name ++ '=' :: value) := by
      constructor
      · cases name with
        | nil => simp; decide
        | cons c name => exact hname.1
      · cases value with
        | nil => simp; decide
        | cons c value =>
          rw [List.getLast?_append, List.getLast?_cons_cons]
          simpa using hvalue.2
    have hbefore : ∀ c ∈ before, Text.isBlank c = true := fun c hc => hblank c (List.mem_append_left _ hc)
    have hafter : ∀ c ∈ after, Text.isBlank c = true := fun c hc => hblank c (List.mem_append_right _ hc)
    show Text.cut? '=' (Text.trim (before ++ (name ++ '=' :: value ++ after))) = some (name, value)
    rw [Text.trim_padded hbefore hafter (by simp) htrimmed, Text.cut?_append hequals]

theorem pairs_jar (h : ∀ p ∈ parts, p.Sound) : pairs (jar (parts.map Part.chars)).toList = cookies parts := by
  unfold pairs jar cookies
  rw [String.toList_ofList]
  by_cases hne : parts = []
  · subst hne
    rfl
  · have hmarks : ∀ cs ∈ parts.map Part.chars, ';' ∉ cs := fun cs hcs => by
      obtain ⟨p, hp, rfl⟩ := List.mem_map.1 hcs
      exact Part.semicolon_not_mem_chars (h p hp)
    rw [Text.parts_intercalate (by simpa using hne) hmarks, List.filterMap_map]
    exact List.filterMap_congr fun p hp => Part.pair?_chars (h p hp)

theorem token?_jar_eq_some_iff (h : ∀ p ∈ parts, p.Sound) {token : String} :
    token? (jar (parts.map Part.chars)) = some token ↔
      ∃ before after, cookies parts = before ++ (name, token.toList) :: after ∧ ∀ c ∈ before, c.1 ≠ name := by
  unfold token?
  rw [pairs_jar h, Option.map_eq_some_iff]
  constructor
  · rintro ⟨⟨n, value⟩, hfind, rfl⟩
    obtain ⟨hn, before, after, heq, hbefore⟩ := List.find?_eq_some_iff_append.1 hfind
    obtain rfl : n = name := by simpa using hn
    refine ⟨before, after, ?_, fun c hc => by simpa using hbefore c hc⟩
    rw [heq, String.toList_ofList]
  · rintro ⟨before, after, heq, hbefore⟩
    refine ⟨(name, token.toList), List.find?_eq_some_iff_append.2 ⟨by simp, before, after, heq, ?_⟩, ?_⟩
    · exact fun c hc => by simpa using hbefore c hc
    · exact String.ofList_toList

theorem token?_jar_eq_none_iff (h : ∀ p ∈ parts, p.Sound) :
    token? (jar (parts.map Part.chars)) = none ↔ ∀ c ∈ cookies parts, c.1 ≠ name := by
  unfold token?
  rw [pairs_jar h, Option.map_eq_none_iff, List.find?_eq_none]
  simp

theorem chars_sent (g : Guard) (now : Calendar.Instant) (nonce : Bytes) (path : String) (before after : List Char) :
    before ++ ((sent (header g (g.issue now nonce) path)).toList ++ after) =
      (Part.cookie before name (g.issue now nonce).toList after).chars := by
  rw [sent_header g path fun _ => isLetter_of_mem_issue, String.toList_append]
  rfl

theorem sound_issue (g : Guard) (now : Calendar.Instant) (nonce : Bytes) {before after : List Char}
    (h : ∀ c ∈ before ++ after, Text.isBlank c = true) :
    (Part.cookie before name (g.issue now nonce).toList after).Sound := by
  have hletter : ∀ c ∈ (g.issue now nonce).toList, IsLetter c := fun _ => isLetter_of_mem_issue
  refine ⟨h, by decide, fun hc => absurd (hletter _ hc).spec.2.1 (by decide), fun c hc => ?_, fun c hc => ?_⟩
  · exact (hletter c (List.mem_of_mem_head? hc)).spec.1
  · exact (hletter c (List.mem_of_mem_getLast? hc)).spec.1

/-- **A jar is read back.**  Whatever cookies a header holds, with blanks around them and with parts between them that
are no cookies, its token is the value of the first cookie that is named just so, and there is none if no cookie is.
So a token that was handed out comes back from what a browser sends of its header, wherever that stands in a jar behind
cookies of other names. -/
theorem token_of_jar :
    (∀ parts : List Part, (∀ p ∈ parts, p.Sound) →
      (∀ token, token? (jar (parts.map Part.chars)) = some token ↔
        ∃ before after, cookies parts = before ++ (name, token.toList) :: after ∧ ∀ c ∈ before, c.1 ≠ name) ∧
      (token? (jar (parts.map Part.chars)) = none ↔ ∀ c ∈ cookies parts, c.1 ≠ name)) ∧
    ∀ (g : Guard) (now : Calendar.Instant) (nonce : Bytes) (path : String) (before after : List Part)
      (left right : List Char), (∀ p ∈ before ++ after, p.Sound) → (∀ c ∈ cookies before, c.1 ≠ name) →
      (∀ c ∈ left ++ right, Text.isBlank c = true) →
      let own := left ++ ((sent (header g (g.issue now nonce) path)).toList ++ right)
      token? (jar (before.map Part.chars ++ own :: after.map Part.chars)) = some (g.issue now nonce) := by
  refine ⟨fun parts h => ⟨fun token => token?_jar_eq_some_iff h, token?_jar_eq_none_iff h⟩, ?_⟩
  intro g now nonce path before after left right hsound hother hblank own
  have hparts : before.map Part.chars ++ own :: after.map Part.chars =
      (before ++ Part.cookie left name (g.issue now nonce).toList right :: after).map Part.chars := by
    rw [List.map_append, List.map_cons, ← chars_sent g now nonce path]
  have hall : ∀ p ∈ before ++ Part.cookie left name (g.issue now nonce).toList right :: after, p.Sound := by
    intro p hp
    rcases List.mem_append.1 hp with hp | hp
    · exact hsound p (List.mem_append_left _ hp)
    · rcases List.mem_cons.1 hp with rfl | hp
      · exact sound_issue g now nonce hblank
      · exact hsound p (List.mem_append_right _ hp)
  rw [hparts, token?_jar_eq_some_iff hall]
  exact ⟨cookies before, cookies after, by simp [cookies, Part.cookie?], hother⟩

/-- Names that begin or end like the right one, a value with equals signs, a part that is no cookie, and a second cookie
of the right name: the first one counts.  And a token that was handed out, behind another cookie. -/
theorem token_of_odd_jar :
    let parts : List Part := [.cookie [' '] "xcsrftoken".toList "1".toList [], .stray [' '],
      .cookie [] "csrftoken2".toList [] ['\t'], .cookie [' '] "csrftoken".toList "a==b".toList [' ', '\u00A0'],
      .cookie [] "csrftoken".toList "2".toList []]
    let g : Guard := ⟨[], 60⟩
    let token := g.issue .epoch (List.replicate 16 0)
    let before : List Part := [.cookie [] "a".toList "1".toList []]
    (∀ p ∈ parts, p.Sound) ∧
      token? " xcsrftoken=1; ;csrftoken2=\t; csrftoken=a==b \u00A0;csrftoken=2" = some "a==b" ∧
      token? (jar (before.map Part.chars ++ [[' '] ++ ((sent (header g token "/")).toList ++ [])])) = some token := by
  intro parts g token before
  have hsound : ∀ p ∈ parts, p.Sound := by decide
  have hjar : jar (parts.map Part.chars) = " xcsrftoken=1; ;csrftoken2=\t; csrftoken=a==b \u00A0;csrftoken=2" := by
    decide +kernel
  have hread := ((token_of_jar.1 parts hsound).1 "a==b").2
    ⟨[("xcsrftoken".toList, ['1']), ("csrftoken2".toList, [])], [("csrftoken".toList, ['2'])], by decide, by decide⟩
  rw [hjar] at hread
  exact ⟨hsound, hread, token_of_jar.2 g .epoch (List.replicate 16 0) "/" before [] [' '] [] (by decide) (by decide)
    (List.all_eq_true.1 (by decide))⟩

end Cookie
end Token
end NodeDesk
