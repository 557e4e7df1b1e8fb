import NodeDesk.Proofs.Config.Setting
import NodeDesk.Proofs.Json.Skip
import NodeDesk.Proofs.Text.Utf8
/-!
# Load — setups from documents

An object gives settings, in any order and among members that are none (`Gives`).  The members are entered one after
the other, so the setup that is read has what was given and is as usual in everything else; it is accepted exactly if
it meets all demands (`load_document`).
-/
namespace NodeDesk
namespace Config

open Json (Padded Member Spaces)

/-- **Members that give settings**, among others whose keys no setting has. -/
inductive Gives : List Member → List Setting → Prop
  | nil : Gives [] []
  | setting {m : Member} {ms : List Member} {s : Setting} {given : List Setting} (key : Json.Quoted.Says m.key s.key)
      (fits : s.Fits) (spelled : Setting.Spelled m.value.body s) (more : Gives ms given) : Gives (m :: ms) (s :: given)
  | other {m : Member} {ms : List Member} {name : String} {given : List Setting} (key : Json.Quoted.Says m.key name)
      (unknown : ∀ s : Setting, s.key ≠ name) (value : Json.IsValue m.value.body) (more : Gives ms given) :
      Gives (m :: ms) given

/-- **The text of an object that gives settings.** -/
inductive Document : List Char → List Setting → Prop
  | braces {blank : List Char} {ms : List Member} {given : List Setting} (spaces : Spaces blank)
      (members : Gives ms given) : Document (Json.braces blank ms) given

variable {given : List Setting} {cs : List Char} {c : Config}

/-- The induction is on the members; `names` holds the keys of the settings before. -/
theorem enters_of_gives {ms : List Member} (h : Gives ms given) (hkeys : (given.map Setting.key).Nodup)
    {names : List String} (hnew : ∀ s ∈ given, s.key ∉ names) (c : Config) :
    ∃ names', Json.Enters shape.entry (names, c) ms (names', putAll given c) := by
  induction h generalizing names c with
  | nil => exact ⟨names, .nil _⟩
  | @setting m ms s given key fits spelled more ih =>
    rw [List.map_cons, List.nodup_cons] at hkeys
    have hlater : ∀ t ∈ given, t.key ∉ s.key :: names := by
      intro t ht hmem
      rcases List.mem_cons.1 hmem with heq | hmem
      · exact hkeys.1 (heq ▸ List.mem_map_of_mem ht)
      · exact hnew t (List.mem_cons_of_mem s ht) hmem
    obtain ⟨f, hfind, hread⟩ := s.exists_field
    obtain ⟨names', hmore⟩ := ih hkeys.2 hlater (s.put c)
    exact ⟨names', .cons key (Json.Shape.reads_entry hfind (hnew s List.mem_cons_self) m.spaces_gap
      (hread m.value.spaces_before fits spelled c)) hmore⟩
  | @other m ms name given key unknown value more ih =>
    obtain ⟨names', hmore⟩ := ih hkeys hnew c
    exact ⟨names', .cons key (Json.Shape.reads_entry_unknown (Setting.find?_unknown unknown) m.spaces_gap
      (Json.Skip.value_of_isValue m.value.spaces_before value) _) hmore⟩

/-- **A document is read as the usual setup with the settings that it gives.** -/
theorem reads_document (h : Document cs given) (hkeys : (given.map Setting.key).Nodup) :
    Json.Reads reader cs (putAll given {}) := by
  cases h with
  | braces spaces members =>
    have hnew : ∀ s ∈ given, s.key ∉ ([] : List String) := fun _ _ => List.not_mem_nil
    obtain ⟨names, henters⟩ := enters_of_gives members hkeys hnew {}
    have hoptional : ∀ f ∈ shape.fields, f.required = false := by decide
    exact Json.Shape.reads_braces spaces henters fun f hf hr => absurd (hoptional f hf) (by simp [hr])

/-! ## Demands -/

/-- What a setup has to meet, in the order in which it is asked, with what is said of one that does not. -/
def demands (c : Config) : List (Prop × String) :=
  [(0 < c.perPage, "per_page must be > 0"),
    ((∃ s, c.links.nodeBase = s ++ "/"),
      "node_url_prefix must be non-empty and end with '/': '" ++ c.links.nodeBase ++ "'"),
    ((∃ s, c.links.userBase = s ++ "/"),
      "user_url_prefix must be non-empty and end with '/': '" ++ c.links.userBase ++ "'"),
    (c.secret ≠ some "", "csrf_secret must not be empty"),
    (0 < c.maxAge, "csrf_max_age_secs must be > 0")]

theorem endsInSlash_iff {s : String} : endsInSlash s = true ↔ ∃ t, s = t ++ "/" := by
  unfold endsInSlash
  rw [beq_iff_eq, List.getLast?_eq_some_iff]
  constructor
  · rintro ⟨ys, hys⟩
    exact ⟨String.ofList ys, String.toList_inj.1 (by simp [hys])⟩
  · rintro ⟨t, rfl⟩
    exact ⟨t.toList, by simp⟩

/-- What is said of the first of some demands that is not met, if there is one. -/
inductive FirstUnmet : List (Prop × String) → Option String → Prop
  | none : FirstUnmet [] none
  | unmet {p : Prop} (why : String) (ds : List (Prop × String)) (h : ¬ p) : FirstUnmet ((p, why) :: ds) (some why)
  | met {p : Prop} (why : String) {ds : List (Prop × String)} {found : Option String} (h : p)
      (more : FirstUnmet ds found) : FirstUnmet ((p, why) :: ds) found

theorem FirstUnmet.eq_none_iff {ds : List (Prop × String)} {found : Option String} (h : FirstUnmet ds found) :
    found = .none ↔ ∀ d ∈ ds, d.1 := by
  induction h with
  | none => exact iff_of_true rfl fun _ h => nomatch h
  | unmet why ds h => exact iff_of_false nofun fun hall => h (hall _ List.mem_cons_self)
  | met why h more ih => rw [ih, List.forall_mem_cons, and_iff_right h]

theorem FirstUnmet.eq_some {before after : List (Prop × String)} {d : Prop × String} {found : Option String}
    (h : FirstUnmet (before ++ d :: after) found) (hbefore : ∀ x ∈ before, x.1) (hd : ¬ d.1) : found = some d.2 := by
  induction before with
  | nil =>
    cases h with
    | unmet why ds h => rfl
    | met why h more => exact absurd h hd
  | cons x before ih =>
    rw [List.forall_mem_cons] at hbefore
    cases h with
    | unmet why ds h => exact absurd hbefore.1 h
    | met why h more => exact ih more hbefore.2

/-- **A setup is refused for the first demand that it does not meet.** -/
theorem firstUnmet_demands (c : Config) : FirstUnmet c.demands (c.fault?.map Fault.message) := by
  unfold fault? demands
  split
  · exact .unmet _ _ (by omega)
  refine .met _ (by omega) ?_
  split
  · exact .unmet _ _ (mt endsInSlash_iff.2 ‹_›)
  refine .met _ (endsInSlash_iff.1 (not_not.1 ‹_›)) ?_
  split
  · exact .unmet _ _ (mt endsInSlash_iff.2 ‹_›)
  refine .met _ (endsInSlash_iff.1 (not_not.1 ‹_›)) ?_
  split
  · exact .unmet _ _ (not_not_intro ‹_›)
  refine .met _ ‹_› ?_
  split
  · exact .unmet _ _ (by omega)
  exact .met _ (by omega) .none

/-! ## Files -/

theorem ofText_of_reads {p : Padded} (h : Json.Reads reader p.body c) :
    ofText p.chars = match c.fault? with
      | some f => .error (.configuration f.message)
      | none => .ok c := by
  have hskip : Json.SkipsSpace reader := Json.Shape.skipsSpace_read shape
  have hread := Json.document_of_padded hskip h
  cases hfault : c.fault? with
  | none => simp only [ofText, hread, hfault]
  | some f => simp only [ofText, hread, hfault]

theorem run_load {files : Files} {path : String} (h : files path = .ok (Utf8.encode cs)) :
    (load path).run files = ofText cs := by
  unfold load readText
  simp only [bind, Reading.bind, Reading.run, h, textOf, Utf8.decode?_encode]
  rfl

theorem gives_settings (settings : List Setting) (hfits : ∀ s ∈ settings, s.Fits) :
    Gives ((settings.map fun s => (s.key, s.value)).map Member.written) settings := by
  induction settings with
  | nil => exact .nil
  | cons s settings ih =>
    rw [List.forall_mem_cons] at hfits
    exact .setting (Member.says_key (s.key, s.value)) hfits.1 s.spelled_written (ih hfits.2)

theorem document_toJson (hfits : ∀ s ∈ c.settings, s.Fits) : Document c.toJson.write c.settings := by
  rw [Setting.toJson_eq, Json.write_object]
  exact .braces Json.spaces_nil (gives_settings c.settings hfits)

/-- **A document is loaded as the setup that it tells.**  The setup has the settings that are given, in whatever order
and among whatever else, and is as usual in all others; it is loaded exactly if it meets all demands, and refused for
the first that it does not meet.  And a setup without fault is loaded from what is written of it. -/
theorem load_document (files : Files) (path : String) :
    (∀ (p : Padded) (given : List Setting), Document p.body given → (given.map Setting.key).Nodup →
      files path = .ok (Utf8.encode p.chars) →
      ∃ c : Config, (∀ s ∈ given, s ∈ c.settings) ∧
        (∀ s ∈ c.settings, s.key ∉ given.map Setting.key → s ∈ ({} : Config).settings) ∧
        ((load path).run files = .ok c ↔ ∀ d ∈ c.demands, d.1) ∧
        ∀ before d after, c.demands = before ++ d :: after → (∀ x ∈ before, x.1) → ¬ d.1 →
          (load path).run files = .error (.configuration d.2)) ∧
    ∀ c : Config, (∀ s ∈ c.settings, s.Fits) → c.fault? = none →
      files path = .ok (Utf8.encode c.toJson.write) → (load path).run files = .ok c := by
  refine ⟨fun p given hdoc hkeys hfile => ⟨putAll given {}, ?_, ?_, ?_, ?_⟩, fun c hfits hfault hfile => ?_⟩
  · exact fun s hs => (mem_settings_putAll hkeys).2 (.inl hs)
  · intro s hs hkey
    rcases (mem_settings_putAll hkeys).1 hs with hgiven | ⟨-, hs⟩
    · exact absurd (List.mem_map_of_mem hgiven) hkey
    · exact hs
  · rw [run_load hfile, ofText_of_reads (reads_document hdoc hkeys), ← (firstUnmet_demands _).eq_none_iff,
      Option.map_eq_none_iff]
    cases (putAll given {}).fault? with
    | none => exact iff_of_true rfl rfl
    | some f => exact iff_of_false nofun nofun
  · intro before d after hsplit hbefore hd
    have hfirst := firstUnmet_demands (putAll given {})
    rw [hsplit] at hfirst
    obtain ⟨f, hf, hmessage⟩ := Option.map_eq_some_iff.1 (hfirst.eq_some hbefore hd)
    rw [run_load hfile, ofText_of_reads (reads_document hdoc hkeys), hf, ← hmessage]
  · have hread := reads_document (document_toJson hfits) c.nodup_keys
    rw [putAll_settings] at hread
    have hbare := ofText_of_reads (p := .bare c.toJson.write) hread
    rw [Padded.chars_bare, hfault] at hbare
    rw [run_load hfile, hbare]

/-- A port, its key with an escape, before a member that is no setting; and the usual setup as it is written. -/
theorem load_of_one_setting :
    let told := "\n\x7b \"p\\u006Frt\" : 9000, \"note\":null\x7d\n".toList
    let files : Files := fun path => .ok (Utf8.encode (if path = "desk.json" then told else ({} : Config).toJson.write))
    (load "desk.json").run files = .ok { serverPort := 9000 } ∧ (load "usual.json").run files = .ok {} := by
  intro told files
  have hcode : Json.Quoted.Says ['p', '\\', 'u', '0', '0', '6', 'F', 'r', 't'] (Setting.serverPort 9000).key :=
    ⟨_, .plain (by decide) (by decide) (by decide) (.code rfl (.plain (by decide) (by decide) (by decide)
      (.plain (by decide) (by decide) (by decide) .nil))), .char 'p' (.code rfl rfl (.char 'r' (.char 't' .nil)))⟩
  let port : Member := ⟨[' '], ['p', '\\', 'u', '0', '0', '6', 'F', 'r', 't'], [' '],
    ⟨[' '], Decimal.digits 9000, [], by decide, by decide⟩, by decide, by decide⟩
  let note : Member := ⟨[' '], "note".toList.flatMap Json.Quoted.writeChar, [], .bare ['n', 'u', 'l', 'l'], by decide,
    by decide⟩
  let p : Padded := ⟨['\n'], Json.braces [] [port, note], ['\n'], by decide, by decide⟩
  have hunknown : ∀ s : Setting, s.key ≠ "note" := by
    intro s
    cases s <;> simp [Setting.key]
  have hdoc : Document p.body [.serverPort 9000] :=
    .braces (by decide) (.setting hcode (show 9000 ≤ 65535 by decide) rfl
      (.other (Json.Quoted.says_written "note") hunknown .null .nil))
  have hchars : p.chars = told := by decide
  have hfits : ∀ s ∈ ({} : Config).settings, s.Fits := by simp [settings, Setting.Fits, maxWord, maxSigned]
  obtain ⟨c, hgiven, hother, hok, -⟩ :=
    (load_document files "desk.json").1 p _ hdoc (by decide) (by rw [hchars]; rfl)
  obtain rfl : c = { serverPort := 9000 } := eq_putAll (by decide) hgiven hother
  refine ⟨hok.2 ?_, (load_document files "usual.json").2 {} hfits (by decide) rfl⟩
  rw [← (firstUnmet_demands _).eq_none_iff]
  decide

end Config
end NodeDesk
