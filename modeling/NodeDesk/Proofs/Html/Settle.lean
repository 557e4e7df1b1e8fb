import NodeDesk.Proofs.Html.Frame
/-!
# Settle — what pieces say, token by token

A reader has one text before each tag, made of all that stands there.  So what pieces say is a list of tokens in which
texts may stand beside each other or be missing, and `settle` brings it into the reader's order.  Pieces say one after
the other what each of them says (`Reads.append`), and about the tags of a document nothing has to be settled
(`filterMap_settle`).
-/
namespace NodeDesk
namespace Html

/-! ## Settling -/

/-- Tokens as a reader has them, and the text behind the last tag: behind some text, and with one text before each tag.
Only the end of a script comes without one, since nothing is read in a script. -/
def settle (raw : List Char) : List Token → List Token × List Char
  | [] => ([], raw)
  | .text t :: ts => settle (raw ++ t) ts
  | .tag name as :: ts =>
    ((if name = "/script".toList then [] else [.text raw]) ++ .tag name as :: (settle [] ts).1, (settle [] ts).2)

theorem settle_append (raw : List Char) (ts us : List Token) :
    settle raw (ts ++ us) =
      ((settle raw ts).1 ++ (settle (settle raw ts).2 us).1, (settle (settle raw ts).2 us).2) := by
  induction ts generalizing raw with
  | nil => rfl
  | cons t ts ih =>
    cases t with
    | text t => exact ih _
    | tag name as => rw [List.cons_append, settle, ih, settle]; simp only [List.append_assoc, List.cons_append]

/-- **About tags nothing has to be settled.** -/
theorem filterMap_settle {β : Type} {f : Token → Option β} (hf : ∀ t, f (.text t) = none) (raw : List Char)
    (ts : List Token) : (settle raw ts).1.filterMap f = ts.filterMap f := by
  induction ts generalizing raw with
  | nil => rfl
  | cons t ts ih =>
    cases t with
    | text t => rw [settle, ih, List.filterMap_cons_none (hf t)]
    | tag name as =>
      have htext : (if name = "/script".toList then [] else [.text raw]).filterMap f = [] := by
        split <;> simp [hf]
      rw [settle, List.filterMap_append, htext, List.nil_append, List.filterMap_cons, List.filterMap_cons, ih]

theorem filter_settle {keep : Token → Bool} (hk : ∀ t, keep (.text t) = false) (raw : List Char) (ts : List Token) :
    (settle raw ts).1.filter keep = ts.filter keep := by
  rw [← List.filterMap_eq_filter]
  exact filterMap_settle (fun t => by simp [Option.guard, hk]) raw ts

/-- Puts a text before what is read. -/
def before (raw : List Char) : List Token × State → List Token × State
  | (.text t :: ts, s) => (.text (raw ++ t) :: ts, s)
  | ([], .text t) => ([], .text (raw ++ t))
  | r => r

theorem run_before (raw : List Char) (cs pending : List Char) :
    run (.text (raw ++ pending)) cs = before raw (run (.text pending) cs) := by
  induction cs generalizing pending with
  | nil => rfl
  | cons c cs ih =>
    by_cases hc : c = '<'
    · subst hc
      rfl
    · have hstep : ∀ raw, step (.text raw) c = ([], .text (raw ++ [c])) := fun raw => if_neg hc
      rw [run, run, hstep, hstep, List.append_assoc]
      exact ih _

theorem settle_before (raw : List Char) (ts : List Token) (pending : List Char) :
    ((settle (raw ++ pending) ts).1, State.text (settle (raw ++ pending) ts).2) =
      before raw ((settle pending ts).1, .text (settle pending ts).2) := by
  induction ts generalizing pending with
  | nil => rfl
  | cons t ts ih =>
    cases t with
    | text t =>
      have h := ih (pending ++ t)
      rw [← List.append_assoc] at h
      exact h
    | tag name as =>
      by_cases hn : name = "/script".toList
      · simp only [settle, if_pos hn]
        rfl
      · simp only [settle, if_neg hn]
        rfl

/-! ## What pieces say -/

/-- **Pieces that stand between two texts and say these tokens**, whatever the text before them is, with all their own
texts in place. -/
structure Reads (ps : List Piece) (ts : List Token) : Prop where
  read : ∀ raw, readPieces (.text raw) ps = ((settle raw ts).1, .text (settle raw ts).2)
  placed : ∀ raw, inPlace (.text raw) ps = true

namespace Reads

variable {ps qs : List Piece} {ts us : List Token}

theorem nil : Reads [] [] := ⟨fun _ => rfl, fun _ => rfl⟩

/-- **Pieces say one after the other what each of them says.** -/
theorem append (hp : Reads ps ts) (hq : Reads qs us) : Reads (ps ++ qs) (ts ++ us) := by
  constructor
  · intro raw
    rw [readPieces_append, hp.read]
    dsimp only
    rw [hq.read, settle_append]
  · intro raw
    rw [inPlace_append, hp.placed, hp.read]
    exact hq.placed _

theorem text (t : String) : Reads [.text t] [.text (escapeChars t.toList)] := ⟨fun _ => rfl, fun _ => rfl⟩

/-- **Markup that is fixed** says what is read in it.  Its characters are given apart from it, as it takes the kernel
long to take a text apart. -/
theorem fixed {m : String} {cs : List Char} (hm : m = String.ofList cs)
    (h : run (.text []) cs = ((settle [] ts).1, .text (settle [] ts).2)) : Reads [.markup m] ts := by
  constructor
  · intro raw
    have hrun := run_before raw cs []
    have hsettle := settle_before raw ts []
    rw [h, ← hsettle, List.append_nil] at hrun
    simp only [readPieces, readPiece, List.append_nil, hm, String.toList_ofList, hrun]
  · intro raw
    rfl

/-- **A tag whose last value comes from outside**, with fixed markup on both sides. -/
theorem valued (name : List Char) (as : List (List Char × List Char)) (key : List Char) {m m' : String}
    {cs rest : List Char} (hm : m = String.ofList cs) (hm' : m' = String.ofList ('"' :: '>' :: rest))
    (hopen : run (.text []) cs = ([.text []], .quoted name as key []))
    (hrest : run (.text []) rest = ((settle [] ts).1, .text (settle [] ts).2))
    (hname : name ≠ "script".toList ∧ name ≠ "/script".toList) (t : String) :
    Reads [.markup m, .text t, .markup m'] (.tag name (as ++ [(key, escapeChars t.toList)]) :: ts) := by
  have hraw : ∀ raw, run (.text raw) cs = ([.text raw], .quoted name as key []) := fun raw => by
    have h := run_before raw cs []
    rw [List.append_nil] at h
    rw [h, hopen, before, List.append_nil]
  have hclose : ∀ v, run (.quoted name as key v) ('"' :: '>' :: rest) =
      (.tag name (as ++ [(key, v)]) :: (settle [] ts).1, .text (settle [] ts).2) := fun v => by
    have hstep : step (.quoted name as key v) '"' = ([], .inside name (as ++ [(key, v)])) := rfl
    have hend : step (.inside name (as ++ [(key, v)])) '>' = ([.tag name (as ++ [(key, v)])], .text []) := by
      rw [step, if_pos rfl, close, if_neg hname.1]
    rw [run, hstep, run, hend, hrest]
    rfl
  constructor
  · intro raw
    simp only [readPieces, readPiece, hm, hm', String.toList_ofList, hraw, hclose, List.nil_append, List.append_nil,
      settle, if_neg hname.2, List.cons_append]
  · intro raw
    simp only [inPlace, readPiece, hm, String.toList_ofList, hraw]
    rfl

theorem flatMap {α : Type} {f : α → List Piece} {g : α → List Token} (h : ∀ a, Reads (f a) (g a)) :
    ∀ as : List α, Reads (as.flatMap f) (as.flatMap g)
  | [] => nil
  | a :: as => by
    rw [List.flatMap_cons, List.flatMap_cons]
    exact (h a).append (flatMap h as)

theorem intersperse {α : Type} {sep : List Piece} {sepTokens : List Token} {f : α → List Piece} {g : α → List Token}
    (hs : Reads sep sepTokens) (h : ∀ a, Reads (f a) (g a)) :
    ∀ as : List α, Reads ((as.map f).intersperse sep).flatten ((as.map g).intersperse sepTokens).flatten
  | [] => nil
  | [a] => (h a).append nil
  | a :: b :: as => by
    have ih := intersperse hs h (b :: as)
    rw [List.map_cons, List.map_cons, List.map_cons, List.map_cons, List.intersperse_cons_cons,
      List.intersperse_cons_cons, List.flatten_cons, List.flatten_cons, List.flatten_cons, List.flatten_cons]
    exact (h a).append (hs.append ih)

end Reads

/-- **The tokens of a document**, and that its texts are in place. -/
theorem tokens_of_reads {ps : List Piece} {ts : List Token} (h : Reads ps ts) :
    tokens (render ps).toList = (settle [] ts).1 := by
  unfold tokens render
  rw [String.toList_ofList, run_chars, h.read]

def cellTokens (content : List Token) : List Token := .tag "td".toList [] :: content ++ [.tag "/td".toList []]

theorem Reads.cell {ps : List Piece} {ts : List Token} (h : Reads ps ts) : Reads (Html.cell ps) (cellTokens ts) := by
  have hopen : Reads [.markup "<td>"] [.tag "td".toList []] := .fixed rfl (by decide +kernel)
  have hclose : Reads [.markup "</td>"] [.tag "/td".toList []] := .fixed rfl (by decide +kernel)
  exact (hopen.append h).append hclose

def linkTokens (url label : String) : List Token :=
  [.tag "a".toList [("href".toList, escapeChars url.toList)], .text (escapeChars label.toList), .tag "/a".toList []]

theorem Reads.link (url label : String) : Reads (Html.link url label) (linkTokens url label) := by
  have hopen : Reads [.markup "<a href=\"", .text url, .markup "\">"]
      [.tag "a".toList [("href".toList, escapeChars url.toList)]] :=
    valued "a".toList [] "href".toList rfl rfl (by decide +kernel) rfl (by decide) url
  have hend : Reads [.markup "</a>"] [.tag "/a".toList []] := .fixed rfl (by decide +kernel)
  exact (hopen.append (.text label)).append hend

/-! ## Which tokens -/

/-- Tokens that are all of some kind. -/
def Each (p : Token → Bool) (ts : List Token) : Prop := ∀ t ∈ ts, p t = true

namespace Each

variable {p q : Token → Bool} {ts us : List Token}

theorem of_all (h : ts.all p = true) : Each p ts := List.all_eq_true.1 h

theorem nil : Each p [] := fun _ ht => nomatch ht

theorem append (h : Each p ts) (h' : Each p us) : Each p (ts ++ us) := fun t ht =>
  (List.mem_append.1 ht).elim (h t) (h' t)

theorem flatMap {α : Type} {f : α → List Token} (h : ∀ a, Each p (f a)) (as : List α) : Each p (as.flatMap f) :=
  fun t ht => by
    obtain ⟨a, -, ha⟩ := List.mem_flatMap.1 ht
    exact h a t ha

theorem intersperse {sep : List Token} (hs : Each p sep) :
    ∀ ls : List (List Token), (∀ l ∈ ls, Each p l) → Each p (ls.intersperse sep).flatten
  | [], _ => nil
  | [l], h => (h l List.mem_cons_self).append nil
  | l :: l' :: ls, h => by
    have ih := hs.intersperse (l' :: ls) fun x hx => h x (List.mem_cons_of_mem l hx)
    rw [List.intersperse_cons_cons, List.flatten_cons, List.flatten_cons]
    exact (h l List.mem_cons_self).append (hs.append ih)

theorem mono (h : Each p ts) (hpq : ∀ t, p t = true → q t = true) : Each q ts := fun t ht => hpq t (h t ht)

theorem filter_eq_nil {keep : Token → Bool} (h : Each p ts) (hp : ∀ t, p t = true → keep t = false) :
    ts.filter keep = [] :=
  List.filter_eq_nil_iff.2 fun t ht => by rw [hp t (h t ht)]; exact Bool.false_ne_true

theorem filterMap_eq_nil {β : Type} {f : Token → Option β} (h : Each p ts) (hp : ∀ t, p t = true → f t = none) :
    ts.filterMap f = [] :=
  List.filterMap_eq_nil_iff.2 fun t ht => hp t (h t ht)

end Each

namespace Token

/-- Whether a token is text or a tag of some names. -/
def isAmong (names : List String) : Token → Bool
  | .text _ => true
  | .tag name _ => names.any fun n => n.toList = name

theorem isAmong_tag_iff {names : List String} {name : List Char} {as : List (List Char × List Char)} :
    (Token.tag name as).isAmong names = true ↔ ∃ n ∈ names, n.toList = name := by
  simp only [isAmong, List.any_eq_true, decide_eq_true_eq]

theorem isAmong_mono {names names' : List String} (hn : names ⊆ names') (t : Token) (h : t.isAmong names = true) :
    t.isAmong names' = true := by
  cases t with
  | text raw => rfl
  | tag name as =>
    obtain ⟨n, hin, hname⟩ := isAmong_tag_iff.1 h
    exact isAmong_tag_iff.2 ⟨n, hn hin, hname⟩

end Token

end Html
end NodeDesk
