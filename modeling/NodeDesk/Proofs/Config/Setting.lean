import Mathlib.Data.List.Nodup
import NodeDesk.Config.Codec
import NodeDesk.Proofs.Json.Kinds
/-!
# Setting — one setting at a time

A setup is told by its settings (`settings`), each of which has a key, changes one field (`put`) and has texts
(`Spelled`).  What a field reads from a text of a setting is that setting (`Setting.exists_field`).
-/
namespace NodeDesk

namespace Calendar.DateStyle

open Json (IsString Spaces Member braces)

/-- The name of a convention that is built in. -/
def name? : DateStyle → Option String
  | .iso => some "iso"
  | .enUs => some "en_us"
  | .enGb => some "en_gb"
  | .custom _ => none

/-- **The texts of a style**: a name, the name before `null`, or `custom` before a text of directives. -/
inductive Spelled : List Char → DateStyle → Prop
  | name {cs : List Char} {style : DateStyle} {name : String} (builtIn : style.name? = some name)
      (h : IsString cs name) : Spelled cs style
  | unit {blank : List Char} {m : Member} {style : DateStyle} {name : String} (builtIn : style.name? = some name)
      (spaces : Spaces blank) (key : Json.Quoted.Says m.key name) (null : m.value.body = ['n', 'u', 'l', 'l']) :
      Spelled (braces blank [m]) style
  | custom {blank : List Char} {m : Member} {pattern : String} (spaces : Spaces blank)
      (key : Json.Quoted.Says m.key "custom") (h : IsString m.value.body pattern) :
      Spelled (braces blank [m]) (.custom pattern)

theorem spelled_written (style : DateStyle) : Spelled style.toJson.write style := by
  cases style with
  | iso => exact .name rfl (Json.isString_written "iso")
  | enUs => exact .name rfl (Json.isString_written "en_us")
  | enGb => exact .name rfl (Json.isString_written "en_gb")
  | custom pattern =>
    rw [toJson, Json.write_object]
    exact .custom Json.spaces_nil (Member.says_key ("custom", .string pattern)) (Json.isString_written pattern)

theorem Spelled.reads {cs : List Char} {style : DateStyle} (h : Spelled cs style) : Json.Reads reader cs style := by
  cases h with
  | @name _ _ name builtIn h =>
    cases style with
    | custom pattern => cases builtIn
    | iso | enUs | enGb =>
      cases builtIn
      exact Json.reads_choice_name rfl h
  | @unit blank m _ name builtIn spaces key null =>
    cases style with
    | custom pattern => cases builtIn
    | iso | enUs | enGb =>
      cases builtIn
      exact Json.reads_choice_member rfl spaces key (null ▸ Json.reads_bare _ _ m.value.spaces_before)
  | @custom blank m pattern spaces key h =>
    have hread := (Json.skipsSpace_stringAs _).reads m.value.spaces_before (h.reads "a string")
    have hcontent : Json.Reads (Json.Alternative.holding "custom" fun cs =>
        (Json.string cs).map fun p => (DateStyle.custom p.1, p.2)).content _ (.custom pattern) :=
      hread.map DateStyle.custom
    exact Json.reads_choice_member rfl spaces key hcontent

end Calendar.DateStyle

namespace Config

/-- One setting of a setup. -/
inductive Setting where
  | host (s : String)
  | serverPort (n : Nat)
  | corsOrigins (origins : List String)
  | perPage (n : Nat)
  | showTitle (b : Bool)
  | dateStyle (style : Calendar.DateStyle)
  | nodeBase (s : String)
  | userBase (s : String)
  | secret (s : Option String)
  | maxAge (i : Int)
  | fixture (s : Option String)

/-- All settings of a setup. -/
def settings (c : Config) : List Setting :=
  [.host c.host, .serverPort c.serverPort, .corsOrigins c.corsOrigins, .perPage c.perPage, .showTitle c.showTitle,
    .dateStyle c.dateStyle, .nodeBase c.links.nodeBase, .userBase c.links.userBase, .secret c.secret, .maxAge c.maxAge,
    .fixture c.fixture]

namespace Setting

open Json (Value Reads Spaces)

def key : Setting → String
  | .host _ => "host"
  | .serverPort _ => "port"
  | .corsOrigins _ => "cors_origins"
  | .perPage _ => "per_page"
  | .showTitle _ => "show_title"
  | .dateStyle _ => "date_style"
  | .nodeBase _ => "node_url_prefix"
  | .userBase _ => "user_url_prefix"
  | .secret _ => "csrf_secret"
  | .maxAge _ => "csrf_max_age_secs"
  | .fixture _ => "fixture"

/-- The setup with this setting, and with all others as they are. -/
def put (s : Setting) (c : Config) : Config :=
  match s with
  | .host s => { c with host := s }
  | .serverPort n => { c with serverPort := n }
  | .corsOrigins origins => { c with corsOrigins := origins }
  | .perPage n => { c with perPage := n }
  | .showTitle b => { c with showTitle := b }
  | .dateStyle style => { c with dateStyle := style }
  | .nodeBase s => { c with links := { c.links with nodeBase := s } }
  | .userBase s => { c with links := { c.links with userBase := s } }
  | .secret s => { c with secret := s }
  | .maxAge i => { c with maxAge := i }
  | .fixture s => { c with fixture := s }

/-- Whether a setting is within what its type can hold: a port, a size and a signed number of a machine. -/
def Fits : Setting → Prop
  | .serverPort n => n ≤ 65535
  | .perPage n => n ≤ maxWord
  | .maxAge i => -(maxSigned : Int) - 1 ≤ i ∧ i ≤ maxSigned
  | _ => True

/-- **The texts of a setting.** -/
def Spelled (cs : List Char) : Setting → Prop
  | .host s => Json.IsString cs s
  | .serverPort n => cs = Decimal.digits n
  | .corsOrigins origins => Json.IsList Json.IsString cs origins
  | .perPage n => cs = Decimal.digits n
  | .showTitle b => cs = (Value.boolean b).write
  | .dateStyle style => Calendar.DateStyle.Spelled cs style
  | .nodeBase s => Json.IsString cs s
  | .userBase s => Json.IsString cs s
  | .secret s => Json.IsOptional Json.IsString cs s
  | .maxAge i => cs = Decimal.signed i
  | .fixture s => Json.IsOptional Json.IsString cs s

def value : Setting → Value
  | .host s => .string s
  | .serverPort n => .natural n
  | .corsOrigins origins => .list (origins.map .string)
  | .perPage n => .natural n
  | .showTitle b => .boolean b
  | .dateStyle style => style.toJson
  | .nodeBase s => .string s
  | .userBase s => .string s
  | .secret s => .optional s
  | .maxAge i => .number (.integer i)
  | .fixture s => .optional s

theorem toJson_eq (c : Config) : c.toJson = .object (c.settings.map fun s => (s.key, s.value)) := rfl

theorem write_natural (n : Nat) : (Value.natural n).write = Decimal.digits n := rfl

/-- **What is written of a setting is one of its texts.** -/
theorem spelled_written (s : Setting) : Spelled s.value.write s := by
  cases s with
  | host s => exact Json.isString_written s
  | serverPort n => exact write_natural n
  | corsOrigins origins => exact Json.isList_written origins
  | perPage n => exact write_natural n
  | showTitle b => rfl
  | dateStyle style => exact style.spelled_written
  | nodeBase s => exact Json.isString_written s
  | userBase s => exact Json.isString_written s
  | secret s => exact Json.isOptional_written s
  | maxAge i => rfl
  | fixture s => exact Json.isOptional_written s

/-- A field reads its value after spaces. -/
theorem reads_after {α : Type} {read : Json.Reader α} (hskip : Json.SkipsSpace read) {before cs : List Char} {a : α}
    (hs : Spaces before) (h : Reads read cs a) (name : String) (required : Bool) (put : α → Config → Config)
    (c : Config) : Reads ((Json.field name required read put).read c) (before ++ cs) (put a c) :=
  Json.reads_field (hskip.reads hs h) name required put c

/-- **A field reads its setting**, from any of its texts. -/
theorem exists_field (s : Setting) : ∃ f, shape.fields.find? (·.name == s.key) = some f ∧
    ∀ {before cs : List Char}, Spaces before → s.Fits → Spelled cs s →
      ∀ c, Reads (f.read c) (before ++ cs) (s.put c) := by
  cases s with
  | host s => exact ⟨_, rfl, fun hs _ h => reads_after (Json.skipsSpace_stringAs _) hs (h.reads _) _ _ _⟩
  | serverPort n =>
    refine ⟨_, rfl, fun hs hn h => ?_⟩
    subst h
    exact reads_after (Json.skipsSpace_natural _ _) hs (Json.reads_natural (by decide) hn _) _ _ _
  | corsOrigins origins => exact ⟨_, rfl, fun hs _ h => reads_after (Json.skipsSpace_list _) hs h.reads _ _ _⟩
  | perPage n =>
    refine ⟨_, rfl, fun hs hn h => ?_⟩
    subst h
    exact reads_after (Json.skipsSpace_natural _ _) hs (Json.reads_natural (Nat.le_refl _) hn _) _ _ _
  | showTitle b =>
    refine ⟨_, rfl, fun hs _ h => ?_⟩
    subst h
    exact reads_after Json.skipsSpace_boolean hs (Json.reads_boolean b) _ _ _
  | dateStyle style => exact ⟨_, rfl, fun hs _ h => reads_after (Json.skipsSpace_choice _) hs h.reads _ _ _⟩
  | nodeBase s => exact ⟨_, rfl, fun hs _ h => reads_after (Json.skipsSpace_stringAs _) hs (h.reads _) _ _ _⟩
  | userBase s => exact ⟨_, rfl, fun hs _ h => reads_after (Json.skipsSpace_stringAs _) hs (h.reads _) _ _ _⟩
  | secret s => exact ⟨_, rfl, fun hs _ h => reads_after (Json.skipsSpace_optional _) hs (h.reads _) _ _ _⟩
  | maxAge i =>
    refine ⟨_, rfl, fun hs hi h => ?_⟩
    subst h
    exact reads_after (Json.skipsSpace_integer _ _ _) hs (Json.reads_integer (Int.le_refl _) (by decide) hi _) _ _ _
  | fixture s => exact ⟨_, rfl, fun hs _ h => reads_after (Json.skipsSpace_optional _) hs (h.reads _) _ _ _⟩

/-- **A key that no setting has is no field.** -/
theorem find?_unknown {name : String} (h : ∀ s : Setting, s.key ≠ name) :
    shape.fields.find? (·.name == name) = none := by
  refine List.find?_eq_none.2 fun f hf he => ?_
  have hname : name = f.name := (eq_of_beq he).symm
  have hkeys : ∀ s ∈ ({} : Config).settings, s.key ≠ name := fun s _ => h s
  have hmem : f.name ∈ ({} : Config).settings.map key := List.mem_map_of_mem (f := Json.Field.name) hf
  obtain ⟨s, hs, hkey⟩ := List.mem_map.1 hmem
  exact hkeys s hs (hkey.trans hname.symm)

end Setting

/-! ## What a setting changes -/

theorem settings_put (s : Setting) (c : Config) :
    (s.put c).settings = c.settings.map fun t => if t.key = s.key then s else t := by
  cases s <;> simp [settings, Setting.put, Setting.key]

theorem exists_mem_settings (c : Config) (s : Setting) : ∃ t ∈ c.settings, t.key = s.key := by
  cases s <;> simp [settings, Setting.key]

/-- **After a setting is put**, a setup has that one, and of the others what it had. -/
theorem mem_settings_put {s t : Setting} {c : Config} :
    t ∈ (s.put c).settings ↔ t = s ∨ t.key ≠ s.key ∧ t ∈ c.settings := by
  rw [settings_put, List.mem_map]
  constructor
  · rintro ⟨u, hu, rfl⟩
    by_cases hkey : u.key = s.key
    · exact .inl (if_pos hkey)
    · rw [if_neg hkey]
      exact .inr ⟨hkey, hu⟩
  · rintro (rfl | ⟨hkey, ht⟩)
    · obtain ⟨u, hu, hkey⟩ := c.exists_mem_settings t
      exact ⟨u, hu, if_pos hkey⟩
    · exact ⟨t, ht, if_neg hkey⟩

/-- A setup with settings put one after the other. -/
def putAll (given : List Setting) (c : Config) : Config := given.foldl (fun c s => s.put c) c

/-- **After settings of different keys are put**, a setup has all of these, and of the others what it had. -/
theorem mem_settings_putAll {given : List Setting} (hkeys : (given.map Setting.key).Nodup) {t : Setting} {c : Config} :
    t ∈ (putAll given c).settings ↔ t ∈ given ∨ t.key ∉ given.map Setting.key ∧ t ∈ c.settings := by
  induction given generalizing c with
  | nil => simp [putAll]
  | cons s given ih =>
    rw [List.map_cons, List.nodup_cons] at hkeys
    show t ∈ (putAll given (s.put c)).settings ↔ _
    rw [ih hkeys.2, mem_settings_put, List.map_cons, List.mem_cons, List.mem_cons]
    constructor
    · rintro (h | ⟨hnew, rfl | ⟨hkey, ht⟩⟩)
      · exact .inl (.inr h)
      · exact .inl (.inl rfl)
      · exact .inr ⟨fun h => h.elim hkey hnew, ht⟩
    · rintro ((rfl | h) | ⟨hnew, ht⟩)
      · exact .inr ⟨hkeys.1, .inl rfl⟩
      · exact .inl h
      · exact .inr ⟨fun h => hnew (.inr h), .inr ⟨fun h => hnew (.inl h), ht⟩⟩

/-- **A setup is what its settings are.** -/
theorem eq_of_settings {c d : Config} (h : ∀ s ∈ c.settings, s ∈ d.settings) : c = d := by
  obtain ⟨host, serverPort, corsOrigins, perPage, showTitle, dateStyle, ⟨nodeBase, userBase⟩, secret, maxAge, fixture⟩ := c
  unfold settings at h
  simp only [List.forall_mem_cons] at h
  simp only [List.mem_cons, List.not_mem_nil, Setting.host.injEq, Setting.serverPort.injEq, Setting.corsOrigins.injEq,
    Setting.perPage.injEq, Setting.showTitle.injEq, Setting.dateStyle.injEq, Setting.nodeBase.injEq,
    Setting.userBase.injEq, Setting.secret.injEq, Setting.maxAge.injEq, Setting.fixture.injEq, reduceCtorEq, false_or,
    or_false] at h
  obtain ⟨rfl, rfl, rfl, rfl, rfl, rfl, rfl, rfl, rfl, rfl, rfl, -⟩ := h
  rfl

theorem nodup_keys (c : Config) : (c.settings.map Setting.key).Nodup := by
  show (({} : Config).settings.map Setting.key).Nodup
  decide

/-- All settings of a setup make that setup, whatever was there before. -/
theorem putAll_settings (c d : Config) : putAll c.settings d = c :=
  (eq_of_settings fun _ hs => (mem_settings_putAll c.nodup_keys).2 (.inl hs)).symm

/-- **Only one setup has given settings** and is as another one in all others. -/
theorem eq_putAll {given : List Setting} (hkeys : (given.map Setting.key).Nodup) {c d : Config}
    (hgiven : ∀ s ∈ given, s ∈ c.settings)
    (hother : ∀ s ∈ c.settings, s.key ∉ given.map Setting.key → s ∈ d.settings) : c = putAll given d := by
  refine eq_of_settings fun s hs => (mem_settings_putAll hkeys).2 ?_
  by_cases hkey : s.key ∈ given.map Setting.key
  · obtain ⟨t, ht, heq⟩ := List.mem_map.1 hkey
    rw [← List.inj_on_of_nodup_map c.nodup_keys (hgiven t ht) hs heq]
    exact .inl ht
  · exact .inr ⟨hkey, hother s hs hkey⟩

end Config
end NodeDesk
