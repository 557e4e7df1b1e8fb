import NodeDesk.Proofs.Http.Reply
import NodeDesk.Proofs.Http.Setup
/-!
# CrossOrigin — what the configured origins change

No reply speaks of origins by itself, so a header that grants one comes from the setup (`values_handle`).  It is there
just if the request comes from an origin that the setup lists and that a header may hold, and nothing else of an answer
depends on the origins, but for `OPTIONS` (`grants_of_setup`).
-/
namespace NodeDesk
namespace Http

/-- The values of the headers of a name. -/
def Reply.values (reply : Reply) (name : String) : List String := (reply.headers.filter (·.1 == name)).map Prod.snd

namespace Cors

/-- The header that grants an origin. -/
def allowName : String := "access-control-allow-origin"

/-- Whether a header is there for other origins. -/
def IsHeader (h : String × String) : Prop := "access-control-".toList.isPrefixOf h.1.toList = true ∨ h.1 = "vary"

theorem not_isHeader_of_mem_names {h : String × String} (hn : h.1 ∈ Reply.names) : ¬ IsHeader h := by
  have hall : ∀ name ∈ Reply.names, ¬ ("access-control-".toList.isPrefixOf name.toList = true ∨ name = "vary") := by
    decide
  exact hall h.1 hn

theorem isHeader_of_allowName {h : String × String} (hn : h.1 = allowName) : IsHeader h := by
  unfold IsHeader
  rw [hn]
  decide

variable (cors : Cors) (r : Request)

theorem isHeader_of_mem_headers {h : String × String} (hh : h ∈ cors.headers r) : IsHeader h := by
  unfold headers at hh
  rcases List.mem_cons.1 hh with rfl | hh
  · exact .inr rfl
  · cases hg : cors.granted? r with
    | none => rw [hg] at hh; cases hh
    | some o =>
      rw [hg] at hh
      exact isHeader_of_allowName (congrArg Prod.fst (List.mem_singleton.1 hh))

/-- The text of the origin that is granted. -/
def grantedText? (cors : Cors) (r : Request) : Option String :=
  (cors.granted? r).map fun o => String.ofList (Utf8.decodeLossy o)

theorem values_headers :
    ((cors.headers r).filter (·.1 == allowName)).map Prod.snd = (cors.grantedText? r).toList := by
  unfold headers grantedText?
  cases cors.granted? r <;> rfl

theorem values_preflight : (cors.preflight r).values allowName = (cors.grantedText? r).toList := by
  unfold Reply.values preflight
  rw [List.filter_append, List.map_append, values_headers]
  exact List.append_nil _

/-- **An origin is granted** that is listed, that a header may hold and that the request names. -/
theorem grantedText?_eq_some_iff {origins : List String} {origin : String} :
    (Cors.mk (legal origins)).grantedText? r = some origin ↔
      origin ∈ origins ∧ (Utf8.encode origin.toList).all isLegal = true ∧
        r.header? "origin" = some (Utf8.encode origin.toList) := by
  have htext : ∀ o : String, String.ofList (Utf8.decodeLossy (Utf8.encode o.toList)) = o := fun o => by
    rw [Utf8.decodeLossy_encode, String.ofList_toList]
  unfold grantedText? granted?
  simp only [Option.map_eq_some_iff, Option.filter_eq_some_iff, List.contains_iff_mem, mem_legal_iff]
  constructor
  · rintro ⟨bs, ⟨hr, o, ho, rfl, hl⟩, rfl⟩
    rw [htext]
    exact ⟨ho, hl, hr⟩
  · rintro ⟨ho, hl, hr⟩
    exact ⟨_, ⟨hr, origin, ho, rfl, hl⟩, htext origin⟩

end Cors

namespace Desk

variable (d : Desk) (m : Moment) (c : Catalogue) (r : Request)

theorem values_answer : (d.answer m c r).reply.values Cors.allowName = [] := by
  unfold Reply.values
  rw [List.filter_eq_nil_iff.2 fun h hmem hname => ?_, List.map_nil]
  exact Cors.not_isHeader_of_mem_names ((d.isOwn_answer m c r).names h hmem)
    (Cors.isHeader_of_allowName (by simpa using hname))

/-- **The origin that a reply grants** is the one that the desk's origins grant to the request, if any. -/
theorem values_handle :
    (d.handle m c r).reply.values Cors.allowName = (d.cors.bind fun cors => cors.grantedText? r).toList := by
  have hown := d.values_answer m c r
  unfold handle
  cases d.cors with
  | none => exact hown
  | some cors =>
    dsimp only
    split
    · unfold preflight
      cases Route.ofPath? r.target.path with
      | none => exact cors.values_preflight r
      | some route =>
        -- The header that lists the methods of a page comes last and has another name.
        have hadd : ((cors.preflight r).withHeader "allow" route.allowed).values Cors.allowName =
            (cors.preflight r).values Cors.allowName := by
          unfold Reply.values Reply.withHeader
          rw [List.filter_append, List.map_append]
          exact List.append_nil _
        exact hadd.trans (cors.values_preflight r)
    · unfold Reply.values Cors.grant at *
      rw [List.filter_append, List.map_append, hown, List.nil_append]
      exact cors.values_headers r

theorem granted_of_ofConfig? {config : Config} {fallback : Bytes} {d : Desk} {origin : String}
    (h : ofConfig? config fallback = some d) :
    (d.cors.bind fun cors => cors.grantedText? r) = some origin ↔
      origin ∈ config.corsOrigins ∧ (Utf8.encode origin.toList).all Cors.isLegal = true ∧
        r.header? "origin" = some (Utf8.encode origin.toList) := by
  rw [cors_of_ofConfig? h]
  unfold corsOf
  cases ho : config.corsOrigins with
  | nil => exact iff_of_false (fun h => nomatch h) fun h => nomatch h.1
  | cons o os => exact Cors.grantedText?_eq_some_iff r

/-- **Nothing but headers depends on the origins** of a desk, unless it is asked what it allows. -/
theorem handle_eq_sameOrigin {r : Request} (h : r.method ≠ "OPTIONS") :
    let o := { d with cors := none }.handle m c r
    d.handle m c r = ⟨{ o.reply with headers := o.reply.headers ++ d.granted r }, o.events, o.catalogue⟩ :=
  d.handle_eq m c h

theorem isHeader_of_mem_granted {h : String × String} (hh : h ∈ d.granted r) : Cors.IsHeader h := by
  unfold granted at hh
  cases hc : d.cors with
  | none => rw [hc] at hh; cases hh
  | some cors =>
    rw [hc] at hh
    exact cors.isHeader_of_mem_headers r hh

theorem catalogue_handle_of_options {r : Request} (h : r.method = "OPTIONS") : (d.handle m c r).catalogue = c := by
  rcases d.catalogue_handle m c r with hc | ⟨q, pairs, hconf, -⟩
  · exact hc
  · exact absurd (h.symm.trans hconf.method) (by decide)

theorem not_isHeader_handle (hc : d.cors = none) {h : String × String} (hh : h ∈ (d.handle m c r).reply.headers) :
    ¬ Cors.IsHeader h := by
  refine Cors.not_isHeader_of_mem_names ((d.isOwn_answer m c r).names h ?_)
  unfold handle at hh
  rwa [hc] at hh

/-- **The configured origins are granted, and change nothing else.**  A setup without the star makes a desk, and another
one without its origins.  A reply of the first grants an origin just if the setup lists it, a header may hold it and it
is what the request says it comes from, byte by byte; then it grants that one only, and of a request whose header is
legal it is enough that its origin is listed.  No reply of the second has any header for other origins.  A request that
is not `OPTIONS` is answered alike by both, but for such headers at the end of the first's reply, and `OPTIONS` changes
no catalogue. -/
theorem grants_of_setup (config : Config) (fallback : Bytes) (h : "*" ∉ config.corsOrigins) :
    ∃ d own, ofConfig? config fallback = some d ∧ ofConfig? { config with corsOrigins := [] } fallback = some own ∧
      ∀ (m : Moment) (c : Catalogue) (r : Request),
        let o := d.handle m c r
        let o' := own.handle m c r
        let allowed := o.reply.values Cors.allowName
        (∀ origin, allowed = [origin] ↔
          origin ∈ config.corsOrigins ∧ (Utf8.encode origin.toList).all Cors.isLegal = true ∧
            r.header? "origin" = some (Utf8.encode origin.toList)) ∧
        (allowed ≠ [] → ∃ origin, allowed = [origin]) ∧
        ((∀ bs, r.header? "origin" = some bs → bs.all Cors.isLegal = true) →
          (allowed ≠ [] ↔ ∃ origin ∈ config.corsOrigins, r.header? "origin" = some (Utf8.encode origin.toList))) ∧
        (∀ h ∈ o'.reply.headers, ¬ Cors.IsHeader h) ∧
        (r.method ≠ "OPTIONS" →
          o.reply.status = o'.reply.status ∧ o.reply.body = o'.reply.body ∧ o.events = o'.events ∧
            o.catalogue = o'.catalogue ∧
            ∃ added, o.reply.headers = o'.reply.headers ++ added ∧ ∀ h ∈ added, Cors.IsHeader h) ∧
        (r.method = "OPTIONS" → o.catalogue = c ∧ o'.catalogue = c) := by
  obtain ⟨d, hd⟩ := exists_ofConfig_iff.2 h
  refine ⟨d, _, hd, ofConfig?_sameOrigin hd, fun m c r => ?_⟩
  intro o o' allowed
  have hallowed : allowed = (d.cors.bind fun cors => cors.grantedText? r).toList := d.values_handle m c r
  have hiff : ∀ origin, allowed = [origin] ↔
      origin ∈ config.corsOrigins ∧ (Utf8.encode origin.toList).all Cors.isLegal = true ∧
        r.header? "origin" = some (Utf8.encode origin.toList) := fun origin => by
    rw [hallowed, ← granted_of_ofConfig? r hd]
    cases d.cors.bind fun cors => cors.grantedText? r <;> simp
  have hone : allowed ≠ [] → ∃ origin, allowed = [origin] := fun hne => by
    rw [hallowed] at hne ⊢
    cases hg : d.cors.bind fun cors => cors.grantedText? r with
    | none => rw [hg] at hne; exact absurd rfl hne
    | some origin => exact ⟨origin, rfl⟩
  refine ⟨hiff, hone, fun hlegal => ⟨fun hne => ?_, ?_⟩, fun _ => not_isHeader_handle _ m c r rfl, fun hm => ?_,
    fun hm => ⟨d.catalogue_handle_of_options m c hm, catalogue_handle_of_options _ m c hm⟩⟩
  · obtain ⟨origin, ho⟩ := hone hne
    obtain ⟨hmem, -, hr⟩ := (hiff origin).1 ho
    exact ⟨origin, hmem, hr⟩
  · rintro ⟨origin, hmem, hr⟩
    rw [(hiff origin).2 ⟨hmem, hlegal _ hr, hr⟩]
    exact List.cons_ne_nil _ _
  · have ho : o = _ := d.handle_eq_sameOrigin m c hm
    rw [ho]
    exact ⟨rfl, rfl, rfl, rfl, d.granted r, rfl, fun _ => d.isHeader_of_mem_granted r⟩

/-- An origin in the setup that no header may hold: it is passed over, and the other one is granted all the same. -/
theorem grants_of_two_origins :
    let config : Config := { corsOrigins := ["a\nb", "http://a.example"] }
    let r : Request := ⟨"GET", ⟨"/health".toList, none⟩, [("Origin", Utf8.encode "http://a.example".toList)], []⟩
    "*" ∉ config.corsOrigins ∧
      ∃ d, ofConfig? config [] = some d ∧
        ∀ m, (d.handle m .empty r).reply.values Cors.allowName = ["http://a.example"] := by
  intro config r
  have hstar : "*" ∉ config.corsOrigins := by decide
  obtain ⟨d, _, hd, -, hall⟩ := grants_of_setup config [] hstar
  refine ⟨hstar, d, hd, fun m => ((hall m .empty r).1 "http://a.example").2 ?_⟩
  decide +kernel

end Desk
end Http
end NodeDesk
