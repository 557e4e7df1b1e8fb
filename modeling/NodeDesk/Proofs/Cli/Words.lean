import NodeDesk.Cli.Command
import NodeDesk.Proofs.Except
import NodeDesk.Proofs.Text.Decimal
/-!
# Words — what can be asked for on the command line

The words after a command change a value option by option.  What holds at first and is kept by each option holds of the
value that the words come to (`Setting.keeps_of_read`), so the page that is asked for has a number that a word of the
machine holds (`Command.page_le_of_read`).  And there are words for every page of such a number (`Command.read_words`).
-/
namespace NodeDesk
namespace Cli

/-- **An option with its value behind an equals sign** is read as what it is made of. -/
theorem Word.of_valued {name : String} (h : '=' ∉ name.toList) (value : String) :
    Word.of ("--" ++ name ++ "=" ++ value) = .long name (some value) := by
  have hword : ("--" ++ name ++ "=" ++ value).toList = '-' :: '-' :: (name.toList ++ '=' :: value.toList) := by
    simp
  have hchars : ∀ c ∈ name.toList, (c != '=') = true := fun c hc => by
    simpa using fun e : c = '=' => h (e ▸ hc)
  have hdrop : (name.toList ++ '=' :: value.toList).dropWhile (· != '=') = '=' :: value.toList := by
    rw [List.dropWhile_append_of_pos hchars]
    rfl
  have htake : (name.toList ++ '=' :: value.toList).takeWhile (· != '=') = name.toList := by
    rw [List.takeWhile_append_of_pos hchars, List.takeWhile_cons_of_neg (by decide), List.append_nil]
  unfold Word.of
  rw [hword]
  split
  · rename_i heq
    simp at heq
  · rename_i heq
    cases heq
    rw [hdrop, htake]
    dsimp only
    rw [String.ofList_toList, String.ofList_toList]
  · rename_i hno heq
    cases heq
    exact (hno rfl).elim
  · rename_i hno _
    exact (hno _ rfl).elim

namespace Setting

variable {σ : Type} {P : σ → Prop} {s t : State σ}

/-! ## What the words keep -/

def KeptBy (P : σ → Prop) (put : String → σ → Except Usage σ) : Prop := ∀ v s t, P s → put v s = .ok t → P t

def Keeps (P : σ → Prop) : Setting σ → Prop
  | .switch _ put => ∀ s, P s → P (put s)
  | .valued _ put => KeptBy P put

theorem keptBy_bind {α : Type} {g : String → Except Usage α} {f : α → σ → σ}
    (h : ∀ v s a, P s → g v = .ok a → P (f a s)) : KeptBy P fun v s => do return f (← g v) s := fun v s t hs hp => by
  obtain ⟨a, ha, hp⟩ := bind_eq_ok_iff.1 hp
  cases hp
  exact h v s a hs ha

/-- A property that the value has, and still has when the option that waits has got its value. -/
structure State.Keeps (P : σ → Prop) (s : State σ) : Prop where
  value : P s.value
  waiting : ∀ name put v, s.waiting = some (name, put, v) → KeptBy P put

theorem keeps_of_note {name : String} (h : s.Keeps P) (hn : note s name = .ok t) : t.Keeps P := by
  unfold note at hn
  split at hn
  · cases hn
  · cases hn
    exact ⟨h.value, h.waiting⟩

theorem keeps_of_settle (h : s.Keeps P) (hs : settle s = .ok t) : t.Keeps P := by
  unfold settle at hs
  split at hs
  · cases hs
    exact h
  · cases hs
  · rename_i name put v hw
    obtain ⟨s', hn, hs⟩ := bind_eq_ok_iff.1 hs
    obtain ⟨value, hp, hs⟩ := bind_eq_ok_iff.1 hs
    cases hs
    exact ⟨h.waiting name put _ hw v _ _ (keeps_of_note h hn).value hp, fun _ _ _ hn => nomatch hn⟩

section

variable {options : List (Setting σ)} (ho : ∀ o ∈ options, o.Keeps P)
include ho

theorem keeps_of_long {name : String} {value : Option String} (h : s.Keeps P)
    (hl : long options s name value = .ok t) : t.Keeps P := by
  unfold long at hl
  split at hl
  · rename_i name put v hfind
    obtain ⟨s', hs, hl⟩ := bind_eq_ok_iff.1 hl
    have hwaits : State.Keeps P { s' with waiting := some (name, put, some v) } :=
      ⟨(keeps_of_settle h hs).value, fun _ _ _ hw => by cases hw; exact ho _ (List.mem_of_find?_eq_some hfind)⟩
    exact keeps_of_settle hwaits hl
  · rename_i put hfind
    obtain ⟨s', hs, hl⟩ := bind_eq_ok_iff.1 hl
    cases hl
    refine ⟨(keeps_of_settle h hs).value, fun _ _ _ hw => ?_⟩
    cases hw
    exact ho _ (List.mem_of_find?_eq_some hfind)
  · cases hl
  · rename_i put hfind
    obtain ⟨s', hs, hl⟩ := bind_eq_ok_iff.1 hl
    obtain ⟨s'', hn, hl⟩ := bind_eq_ok_iff.1 hl
    cases hl
    have hkeeps := keeps_of_note (keeps_of_settle h hs) hn
    exact ⟨ho _ (List.mem_of_find?_eq_some hfind) _ hkeeps.value, hkeeps.waiting⟩
  · split at hl
    · split at hl
      · cases hl
      · obtain ⟨_, -, hl⟩ := bind_eq_ok_iff.1 hl
        cases hl
    · cases hl

/-- **One word keeps what each option keeps.** -/
theorem keeps_of_step {w : Word} (h : s.Keeps P) (hs : step options s w = .ok t) : t.Keeps P := by
  cases w with
  | escape => cases hs
  | long name value => exact keeps_of_long ho h hs
  | short c more =>
    simp only [step] at hs
    split at hs
    · obtain ⟨_, -, hs⟩ := bind_eq_ok_iff.1 hs
      cases hs
    · cases hs
  | plain v =>
    simp only [step] at hs
    split at hs
    · rename_i name put hw
      cases hs
      refine ⟨h.value, fun _ _ _ hw' => ?_⟩
      cases hw'
      exact h.waiting _ _ _ hw
    · cases hs

theorem keeps_of_readFrom {words : List String} {value : σ} (h : s.Keeps P)
    (hr : readFrom options s words = .ok value) : P value := by
  have hend : ∀ {s : State σ}, s.Keeps P → (settle s).map State.value = .ok value → P value := fun {s} h hr => by
    cases hs : settle s with
    | error u => rw [hs] at hr; cases hr
    | ok t =>
      rw [hs] at hr
      cases hr
      exact (keeps_of_settle h hs).value
  induction words generalizing s with
  | nil => exact hend h hr
  | cons w ws ih =>
    unfold readFrom at hr
    split at hr
    · split at hr
      · exact hend h hr
      · cases hr
    · obtain ⟨t, hs, hr⟩ := bind_eq_ok_iff.1 hr
      exact ih (keeps_of_step ho h hs) hr

/-- **The words keep what each option keeps.** -/
theorem keeps_of_read {start value : σ} {words : List String} (h : P start)
    (hr : read options start words = .ok value) : P value :=
  keeps_of_readFrom ho ⟨h, by intro _ _ _ hn; cases hn⟩ hr

end

/-! ## What each option changes -/

section

variable {options : List (Setting σ)} {given : List String} {s t : σ} {name : String}

/-- **An option that is given its value** changes what its option changes, and no option waits behind it. -/
theorem readFrom_valued {put : String → σ → Except Usage σ} {v : String} (hname : '=' ∉ name.toList)
    (hfind : options.find? (·.name == name) = some (.valued name put)) (hnew : name ∉ given) (hput : put v s = .ok t)
    (ws : List String) :
    readFrom options ⟨given, s, none⟩ (("--" ++ name ++ "=" ++ v) :: ws) =
      readFrom options ⟨name :: given, t, none⟩ ws := by
  have hnote : @note σ ⟨given, s, some (name, put, some v)⟩ name =
      .ok ⟨name :: given, s, some (name, put, some v)⟩ := by
    rw [note, if_neg (by simpa using hnew)]
  have hstep : step options ⟨given, s, none⟩ (.long name (some v)) = .ok ⟨name :: given, t, none⟩ := by
    simp only [step, long, hfind, settle, bind, Except.bind, hnote, hput, pure, Except.pure]
  rw [readFrom, Word.of_valued hname]
  show (step options _ (.long name (some v)) >>= _) = _
  rw [hstep]
  rfl

theorem readFrom_switch {put : σ → σ} {w : String} (hw : Word.of w = .long name none)
    (hfind : options.find? (·.name == name) = some (.switch name put)) (hnew : name ∉ given) (ws : List String) :
    readFrom options ⟨given, s, none⟩ (w :: ws) = readFrom options ⟨name :: given, put s, none⟩ ws := by
  have hnote : @note σ ⟨given, s, none⟩ name = .ok ⟨name :: given, s, none⟩ := by
    rw [note, if_neg (by simpa using hnew)]
  have hstep : step options ⟨given, s, none⟩ (.long name none) = .ok ⟨name :: given, put s, none⟩ := by
    simp only [step, long, hfind, settle, bind, Except.bind, hnote, pure, Except.pure]
  rw [readFrom, hw]
  show (step options _ (.long name none) >>= _) = _
  rw [hstep]
  rfl

end

end Setting

/-! ## Words for a page -/

/-- The words that ask for a page. -/
def Rendering.words (r : Rendering) : List String :=
  ["render", "--" ++ "nodes" ++ "=" ++ r.nodes, "--" ++ "page" ++ "=" ++ Decimal.text r.page,
    "--" ++ "per-page" ++ "=" ++ Decimal.text r.perPage] ++
    (if r.showTitle then ["--show-title"] else []) ++
    (r.formAction.toList.map fun a => "--" ++ "form-action" ++ "=" ++ a)

namespace Command

open Setting (readFrom readFrom_valued readFrom_switch)

theorem number_le {v : String} {n : Nat} (h : number v = .ok n) : n ≤ maxWord := by
  unfold number at h
  split at h
  · cases h
    exact Decimal.read?_le ‹_›
  · cases h

/-- **The page that words ask for** has a number that a word of the machine holds. -/
theorem page_le_of_read {words : List String} {r : Rendering} (h : read words = .ok (.render r)) :
    r.page ≤ maxWord := by
  have hkept : ∀ o ∈ renderSettings, o.Keeps fun s : Option String × Rendering => s.2.page ≤ maxWord := by
    intro o ho
    simp only [renderSettings, List.mem_cons, List.not_mem_nil, or_false] at ho
    rcases ho with rfl | rfl | rfl | rfl | rfl
    · exact Setting.keptBy_bind fun _ _ _ hs _ => hs
    · exact Setting.keptBy_bind fun _ _ _ _ hn => number_le hn
    · exact Setting.keptBy_bind fun _ _ _ hs _ => hs
    · exact fun s hs => hs
    · intro v s t hs hp
      cases hp
      exact hs
  have hrender : ∀ ws, readRender ws = .ok (.render r) → r.page ≤ maxWord := fun ws h => by
    obtain ⟨⟨nodes, r'⟩, hr, h⟩ := bind_eq_ok_iff.1 h
    have hpage : r'.page ≤ maxWord := Setting.keeps_of_read hkept (show 1 ≤ maxWord by decide) hr
    cases nodes with
    | none => cases h
    | some path => cases h; exact hpage
  unfold read at h
  split at h
  · cases h
  · cases h
  · rename_i ws
    unfold readServe at h
    cases hs : Setting.read serveSettings "./nodeadmin.json" ws <;> rw [hs] at h <;> cases h
  · exact hrender _ h
  · cases h
  · cases h

theorem number_text {n : Nat} (h : n ≤ maxWord) : number (Decimal.text n) = .ok n := by
  unfold number
  rw [Decimal.toList_text, Decimal.read?_digits h]

/-- **Every page can be asked for**: the words for it are read as just that. -/
theorem read_words {r : Rendering} (hpath : r.nodes ≠ "") (hpage : r.page ≤ maxWord)
    (hper : r.perPage ≤ maxWord) : read r.words = .ok (.render r) := by
  obtain ⟨nodes, page, perPage, showTitle, form⟩ := r
  have hread : ∀ ws, read ("render" :: ws) = readRender ws := fun _ => rfl
  have hpath' : path nodes = .ok nodes := if_neg hpath
  have hpage' : number (Decimal.text page) = .ok page := number_text hpage
  have hper' : number (Decimal.text perPage) = .ok perPage := number_text hper
  have hform : ∀ (given : List String) (r : Rendering), "form-action" ∉ given → r.formAction = none →
      readFrom renderSettings ⟨given, (some nodes, r), none⟩
        (form.toList.map fun a => "--" ++ "form-action" ++ "=" ++ a) =
          .ok (some nodes, { r with formAction := form }) := fun given r hnew hnone => by
    cases form with
    | none =>
      obtain ⟨_, _, _, _, _⟩ := r
      cases hnone
      rfl
    | some a =>
      rw [Option.toList_some, List.map_singleton, readFrom_valued (by decide) rfl hnew rfl]
      rfl
  unfold Rendering.words
  simp only [List.cons_append, List.nil_append]
  rw [hread, readRender, Setting.read, readFrom_valued (by decide) rfl (by decide) (by rw [hpath']; rfl),
    readFrom_valued (by decide) rfl (by decide) (by rw [hpage']; rfl),
    readFrom_valued (by decide) rfl (by decide) (by rw [hper']; rfl)]
  cases showTitle with
  | false =>
    rw [if_neg Bool.false_ne_true, List.nil_append, hform _ _ (by decide) rfl]
    rfl
  | true =>
    rw [if_pos rfl, List.singleton_append, readFrom_switch rfl rfl (by decide), hform _ _ (by decide) rfl]
    rfl

end Command
end Cli
end NodeDesk
