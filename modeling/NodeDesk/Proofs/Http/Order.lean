import Mathlib.Algebra.BigOperators.Group.List.Basic
import NodeDesk.Proofs.Http.RoundTrip
/-!
# Order — the order of requests does not matter

No status depends on marks (`status_handle_markAll`), and a request that is confirmed marks what its form names,
whatever is marked already (`catalogue_handle_eq`).  So each request of a run has its status and its nodes by itself,
and any other order leaves the same catalogue.  A count does depend on what came before, but it is the growth of the
number of marked nodes (`countP_spam_handle`), so counts add up to the same.
-/
namespace NodeDesk
namespace Http

open Submission (lastToken? named)

/-- The nodes that a form names. -/
def Request.chosen (r : Request) : List String := named (Url.Form.decode r.body)

def flaggedBy : Log.Event → Nat
  | .spamConfirmed flagged _ => flagged
  | _ => 0

/-- How many nodes were newly marked, as the log has it. -/
def Outcome.flagged (o : Outcome) : Nat := (o.events.map flaggedBy).sum

theorem verdict_markAll (g : Token.Guard) (now : Calendar.Instant) (c : Catalogue) (cookie : Option String)
    (pairs : List (String × String)) (ids : List String) :
    verdict g now (c.markAll ids) cookie pairs = verdict g now c cookie pairs := by
  have hcontains : (c.markAll ids).contains = c.contains := funext (c.contains_markAll ids)
  unfold verdict
  rw [hcontains]

namespace Desk

variable (d : Desk) (m : Moment) (c : Catalogue) (r : Request)

/-! ## Statuses do not depend on marks -/

theorem status_page_markAll {m' : Moment} (hm : m'.now = m.now) (ids : List String) (route : Route) :
    (d.page m' (c.markAll ids) r route).reply.status = (d.page m c r route).reply.status := by
  have hsome : ∀ number, ((c.markAll ids).page? number d.perPage).isSome = (c.page? number d.perPage).isSome :=
    fun number => by rw [c.page?_markAll, Option.isSome_map]
  cases route with
  | health => rfl
  | nodes =>
    cases hq : ListQuery.read r.target.query with
    | error f => simp only [page, withQuery, hq]
    | ok q => simp only [page, withQuery, hq, status_nodesReply, hsome]
  | spam =>
    cases hq : ListQuery.read r.target.query with
    | error f => simp only [page, withQuery, hq]
    | ok q => simp only [page, withQuery, hq, status_spamReply, hsome]
  | node segment =>
    cases hs : Url.Percent.decodeText? segment with
    | none => simp only [page, withId, hs]
    | some id => simp only [page, withId, hs, status_nodeReply, c.get?_markAll, Option.isSome_map]
  | user segment =>
    cases hs : Url.Percent.decodeText? segment with
    | none => simp only [page, withId, hs]
    | some id => simp only [page, withId, hs, status_userReply, c.ofUser_markAll, List.isEmpty_map]
  | confirm =>
    cases hq : ListQuery.read r.target.query with
    | error f => simp only [page, withQuery, hq]
    | ok q =>
      cases hf : formOf r with
      | error reply => simp only [page, withQuery, hq, hf]
      | ok pairs =>
        simp only [page, withQuery, hq, hf, confirm_eq, Verdict.status_outcome, verdict_markAll, hm]

theorem status_answer_markAll {m' : Moment} (hm : m'.now = m.now) (ids : List String) :
    (d.answer m' (c.markAll ids) r).reply.status = (d.answer m c r).reply.status := by
  unfold answer
  cases Route.ofPath? r.target.path with
  | none => rfl
  | some route =>
    have hpage := d.status_page_markAll m c r hm ids route
    dsimp only
    by_cases ha : route.answers r.method = true
    · rw [if_pos ha, if_pos ha]
      by_cases hh : r.method = "HEAD"
      · rw [if_pos hh, if_pos hh]
        exact hpage
      · rw [if_neg hh, if_neg hh]
        exact hpage
    · rw [if_neg ha, if_neg ha]

/-- **No status depends on marks**, nor on anything about the moment but the clock. -/
theorem status_handle_markAll {m' : Moment} (hm : m'.now = m.now) (ids : List String) :
    (d.handle m' (c.markAll ids) r).reply.status = (d.handle m c r).reply.status := by
  have hanswer := d.status_answer_markAll m c r hm ids
  unfold handle
  cases d.cors with
  | none => exact hanswer
  | some cors =>
    by_cases ho : r.method = "OPTIONS"
    · simp only [if_pos ho]
    · simp only [if_neg ho]
      exact hanswer

/-! ## What is marked, and how much of it is new -/

/-- **A confirmation in order**: the two copies of its token are valid, its query is read, and it names some nodes by
ids that are not empty. -/
structure InOrder (d : Desk) (m : Moment) (r : Request) : Prop where
  double : DoubleSubmit d m r
  query : ∃ q, ListQuery.read r.target.query = .ok q
  keys : "" ∉ r.keys
  chosen : r.chosen ≠ []

theorem flagged_logged (status : Nat) : flaggedBy (logged m r status) = 0 := rfl

theorem flagged_handle_of_isConfirmation {r : Request} {q : ListQuery} {pairs : List (String × String)}
    (h : IsConfirmation r q pairs) :
    (d.handle m c r).flagged =
      if verdict d.guard m.now c (cookieOf r) pairs = .confirmed then c.unmarked (named pairs).eraseDups else 0 := by
  rw [d.handle_of_isConfirmation c q m h]
  unfold Outcome.flagged
  simp only [List.map_append, List.sum_append, List.map_cons, List.map_nil, List.sum_cons, List.sum_nil,
    flagged_logged]
  cases verdict d.guard m.now c (cookieOf r) pairs <;> rfl

/-- **A request is accepted or does nothing**; an accepted one is in order, names nodes that there are, and marks
them. -/
theorem accepted_cases :
    ((d.handle m c r).reply.status ≠ 303 ∧ (d.handle m c r).catalogue = c ∧ (d.handle m c r).flagged = 0) ∨
      ((d.handle m c r).reply.status = 303 ∧ InOrder d m r ∧ (∀ id ∈ r.chosen, c.contains id = true) ∧
        (d.handle m c r).catalogue = c.markAll r.chosen ∧ (d.handle m c r).flagged = c.unmarked r.chosen) := by
  rcases d.quiet_handle m c r with ⟨hcat, hstatus, hevents⟩ | ⟨q, pairs, h⟩
  · refine .inl ⟨hstatus, hcat, List.sum_eq_zero fun n hn => ?_⟩
    obtain ⟨e, he, rfl⟩ := List.mem_map.1 hn
    obtain ⟨status, rfl⟩ := hevents e he
    rfl
  have hflagged := d.flagged_handle_of_isConfirmation m c h
  have hhandle := d.handle_of_isConfirmation c q m h
  have hpairs : pairs = Url.Form.decode r.body := (formOf_eq_ok_iff.1 h.form).2.2
  subst hpairs
  by_cases hv : verdict d.guard m.now c (cookieOf r) (Url.Form.decode r.body) = .confirmed
  · right
    rw [if_pos hv] at hflagged
    rw [hv] at hhandle
    obtain ⟨hkeys, htoken, hnamed, hknown⟩ := verdict_eq_confirmed_iff.1 hv
    have hmem : ∀ id, id ∈ (named (Url.Form.decode r.body)).eraseDups ↔ id ∈ r.chosen := fun _ => List.mem_eraseDups
    refine ⟨by rw [hhandle]; rfl, ⟨⟨h.method, h.path, h.form, htoken⟩, ⟨q, h.query⟩, ?_, hnamed⟩, hknown, ?_, ?_⟩
    · intro hk
      obtain ⟨p, hp, he⟩ := List.mem_map.1 hk
      exact hkeys p hp he
    · rw [hhandle]
      exact c.markAll_congr hmem
    · rw [hflagged]
      exact c.unmarked_congr hmem
  · left
    rw [if_neg hv] at hflagged
    refine ⟨?_, ?_, hflagged⟩
    · rw [hhandle]
      show ((verdict d.guard m.now c (cookieOf r) (Url.Form.decode r.body)).outcome d c q _).reply.status ≠ 303
      rw [Verdict.status_outcome]
      exact fun hs => hv ((Verdict.status_eq_iff _).1 hs)
    · rw [hhandle]
      exact (Verdict.catalogue_outcome d c q _ _).trans (if_neg hv)

/-- **When a request is accepted**: it is a confirmation in order, of nodes that there are. -/
theorem accepted_iff :
    (d.handle m c r).reply.status = 303 ↔ InOrder d m r ∧ ∀ id ∈ r.chosen, c.contains id = true := by
  constructor
  · intro hs
    rcases d.accepted_cases m c r with ⟨hne, -, -⟩ | ⟨-, ho, hk, -, -⟩
    · exact absurd hs hne
    · exact ⟨ho, hk⟩
  · rintro ⟨ho, hk⟩
    obtain ⟨q, hq⟩ := ho.query
    have hconf : IsConfirmation r q (Url.Form.decode r.body) := ⟨ho.double.method, ho.double.path, hq, ho.double.form⟩
    have hkeys : ∀ p ∈ Url.Form.decode r.body, p.1 ≠ "" := fun p hp he =>
      ho.keys (List.mem_map.2 ⟨p, hp, he⟩)
    have hv : verdict d.guard m.now c (cookieOf r) (Url.Form.decode r.body) = .confirmed :=
      verdict_eq_confirmed_iff.2 ⟨hkeys, ho.double.token, ho.chosen, hk⟩
    rw [d.handle_of_isConfirmation c q m hconf, hv]
    rfl

/-- **What a request leaves behind** is told by its status and its form. -/
theorem catalogue_handle_eq :
    (d.handle m c r).catalogue = if (d.handle m c r).reply.status = 303 then c.markAll r.chosen else c := by
  rcases d.accepted_cases m c r with ⟨hs, hc, -⟩ | ⟨hs, -, -, hc, -⟩
  · rw [if_neg hs, hc]
  · rw [if_pos hs, hc]

/-- **A count is the growth** of the number of marked nodes. -/
theorem countP_spam_handle :
    (d.handle m c r).catalogue.nodes.countP (·.spam) = c.nodes.countP (·.spam) + (d.handle m c r).flagged := by
  rcases d.accepted_cases m c r with ⟨-, hc, hf⟩ | ⟨-, -, -, hc, hf⟩
  · rw [hc, hf, Nat.add_zero]
  · rw [hc, hf, c.countP_spam_markAll]

/-! ## Runs -/

/-- What the requests of a run lead to, one after the other. -/
def outcomes (d : Desk) (c : Catalogue) : List (Moment × Request) → List Outcome
  | [] => []
  | s :: rs => d.handle s.1 c s.2 :: d.outcomes (d.handle s.1 c s.2).catalogue rs

def timed (s : Moment × Request) : Calendar.Instant × Request := (s.1.now, s.2)

/-- The status of a request at some time, in a catalogue with any marks. -/
def statusAt (d : Desk) (c : Catalogue) (t : Calendar.Instant × Request) : Nat :=
  (d.handle ⟨t.1, [], "", 0⟩ c t.2).reply.status

def marksAt (d : Desk) (c : Catalogue) (t : Calendar.Instant × Request) : List String :=
  if d.statusAt c t = 303 then t.2.chosen else []

theorem status_handle_eq (s : Moment × Request) (ids : List String) :
    (d.handle s.1 (c.markAll ids) s.2).reply.status = d.statusAt c (timed s) := by
  have hstatus := d.status_handle_markAll ⟨s.1.now, [], "", 0⟩ c s.2 (show s.1.now = s.1.now from rfl) ids
  rw [hstatus]
  simp only [statusAt, timed]

theorem catalogue_handle_markAll (s : Moment × Request) (ids : List String) :
    (d.handle s.1 (c.markAll ids) s.2).catalogue = c.markAll (ids ++ d.marksAt c (timed s)) := by
  rw [catalogue_handle_eq, status_handle_eq]
  unfold marksAt
  split
  · exact c.markAll_markAll ids _
  · rw [List.append_nil]

/-- **A run marks what its requests mark**, each by itself. -/
theorem after_markAll (rs : List (Moment × Request)) (ids : List String) :
    d.after (c.markAll ids) rs = c.markAll (ids ++ rs.flatMap fun s => d.marksAt c (timed s)) := by
  induction rs generalizing ids with
  | nil => rw [after, List.flatMap_nil, List.append_nil]
  | cons s rs ih => rw [after, catalogue_handle_markAll, ih, List.flatMap_cons, List.append_assoc]

theorem map_status_outcomes (rs : List (Moment × Request)) (ids : List String) :
    (d.outcomes (c.markAll ids) rs).map (·.reply.status) = rs.map fun s => d.statusAt c (timed s) := by
  induction rs generalizing ids with
  | nil => rfl
  | cons s rs ih => rw [outcomes, List.map_cons, List.map_cons, status_handle_eq, catalogue_handle_markAll, ih]

theorem countP_spam_after (rs : List (Moment × Request)) :
    (d.after c rs).nodes.countP (·.spam) =
      c.nodes.countP (·.spam) + ((d.outcomes c rs).map Outcome.flagged).sum := by
  induction rs generalizing c with
  | nil => rfl
  | cons s rs ih => rw [after, ih, countP_spam_handle, outcomes, List.map_cons, List.sum_cons, Nat.add_assoc]

theorem after_eq (rs : List (Moment × Request)) :
    d.after c rs = c.markAll (rs.flatMap fun s => d.marksAt c (timed s)) := by
  have h := d.after_markAll c rs []
  rwa [c.markAll_nil, List.nil_append] at h

theorem map_status_outcomes_eq (rs : List (Moment × Request)) :
    (d.outcomes c rs).map (·.reply.status) = rs.map fun s => d.statusAt c (timed s) := by
  have h := d.map_status_outcomes c rs []
  rwa [c.markAll_nil] at h

theorem after_perm {rs rs' : List (Moment × Request)} (h : (rs.map timed).Perm (rs'.map timed)) :
    d.after c rs = d.after c rs' := by
  have hflat : ∀ l : List (Moment × Request),
      (l.flatMap fun s => d.marksAt c (timed s)) = (l.map timed).flatMap (d.marksAt c) := fun l => by
    rw [List.flatMap_map]
  rw [after_eq, after_eq, hflat, hflat]
  refine c.markAll_congr fun id => ?_
  simp only [List.mem_flatMap, h.mem_iff]

theorem sum_flagged_eq {rs rs' : List (Moment × Request)} (h : d.after c rs = d.after c rs') :
    ((d.outcomes c rs).map Outcome.flagged).sum = ((d.outcomes c rs').map Outcome.flagged).sum := by
  have hone := d.countP_spam_after c rs
  have htwo := d.countP_spam_after c rs'
  rw [h] at hone
  omega

theorem accepted_again {m m' : Moment} {r : Request} (rs : List (Moment × Request)) (hm : m'.now = m.now)
    (h : (d.handle m c r).reply.status = 303) :
    let c' := d.after c ((m, r) :: rs)
    (d.handle m' c' r).reply.status = 303 ∧ (d.handle m' c' r).catalogue = c' ∧ (d.handle m' c' r).flagged = 0 := by
  intro c'
  obtain ⟨more, hmore⟩ : ∃ more, c' = c.markAll (r.chosen ++ more) := by
    obtain ⟨more, hmore⟩ := d.after_eq_markAll (d.handle m c r).catalogue rs
    refine ⟨more, hmore.trans ?_⟩
    rw [catalogue_handle_eq, if_pos h, c.markAll_markAll]
  have hstatus : (d.handle m' c' r).reply.status = 303 := by
    rw [hmore, d.status_handle_markAll m c r hm, h]
  have hcatalogue : (d.handle m' c' r).catalogue = c' := by
    rw [catalogue_handle_eq, if_pos hstatus, hmore, c.markAll_markAll]
    exact c.markAll_congr fun id => by simp only [List.mem_append]; tauto
  have hcount := d.countP_spam_handle m' c' r
  rw [hcatalogue] at hcount
  exact ⟨hstatus, hcatalogue, by omega⟩

/-- **Two confirmations come to one** of all nodes that they name. -/
theorem after_two {ma mb mu : Moment} {a b u : Request} (ha : InOrder d ma a) (hb : InOrder d mb b)
    (hu : InOrder d mu u) (hchosen : ∀ id, id ∈ u.chosen ↔ id ∈ a.chosen ∨ id ∈ b.chosen)
    (hknown : ∀ id ∈ u.chosen, c.contains id = true) :
    (d.outcomes c [(ma, a), (mb, b)]).map (·.reply.status) = [303, 303] ∧ (d.handle mu c u).reply.status = 303 ∧
      d.after c [(ma, a), (mb, b)] = d.after c [(mu, u)] := by
  have hsa : (d.handle ma c a).reply.status = 303 :=
    (d.accepted_iff ma c a).2 ⟨ha, fun id hid => hknown id ((hchosen id).2 (.inl hid))⟩
  have hca : (d.handle ma c a).catalogue = c.markAll a.chosen := by rw [catalogue_handle_eq, if_pos hsa]
  have hsb : (d.handle mb (c.markAll a.chosen) b).reply.status = 303 :=
    (d.accepted_iff mb _ b).2 ⟨hb, fun id hid => by
      rw [c.contains_markAll]
      exact hknown id ((hchosen id).2 (.inr hid))⟩
  have hsu : (d.handle mu c u).reply.status = 303 := (d.accepted_iff mu c u).2 ⟨hu, hknown⟩
  refine ⟨?_, hsu, ?_⟩
  · simp only [outcomes, List.map_cons, List.map_nil, hsa, hca, hsb]
  · simp only [after, hca]
    rw [catalogue_handle_eq, if_pos hsb, catalogue_handle_eq, if_pos hsu, c.markAll_markAll]
    exact c.markAll_congr fun id => by rw [List.mem_append, hchosen]

/-- **The order of requests does not matter.**  Two runs of the same requests, each at its time, in any two orders: a
request has the same status in both, both leave the same catalogue, and the counts of newly marked nodes add up to the
same.  A request that was accepted is accepted again and changes nothing more, whatever came since; and two
confirmations in order, of nodes that there are, come to one of all nodes that they name. -/
theorem order_of_requests (d : Desk) (c : Catalogue) :
    (∀ rs rs' : List (Moment × Request), (rs.map timed).Perm (rs'.map timed) →
      (∃ status : Calendar.Instant × Request → Nat,
        (d.outcomes c rs).map (·.reply.status) = rs.map (fun s => status (timed s)) ∧
        (d.outcomes c rs').map (·.reply.status) = rs'.map (fun s => status (timed s))) ∧
      d.after c rs = d.after c rs' ∧
      ((d.outcomes c rs).map Outcome.flagged).sum = ((d.outcomes c rs').map Outcome.flagged).sum) ∧
    (∀ m m' r rs, m'.now = m.now → (d.handle m c r).reply.status = 303 →
      let c' := d.after c ((m, r) :: rs)
      (d.handle m' c' r).reply.status = 303 ∧ (d.handle m' c' r).catalogue = c' ∧ (d.handle m' c' r).flagged = 0) ∧
    (∀ ma mb mu a b u, InOrder d ma a → InOrder d mb b → InOrder d mu u →
      (∀ id, id ∈ u.chosen ↔ id ∈ a.chosen ∨ id ∈ b.chosen) → (∀ id ∈ u.chosen, c.contains id = true) →
      (d.outcomes c [(ma, a), (mb, b)]).map (·.reply.status) = [303, 303] ∧ (d.handle mu c u).reply.status = 303 ∧
      d.after c [(ma, a), (mb, b)] = d.after c [(mu, u)] ∧
      ((d.outcomes c [(ma, a), (mb, b)]).map Outcome.flagged).sum = (d.handle mu c u).flagged) := by
  refine ⟨fun rs rs' h => ?_, fun m m' r rs hm h => d.accepted_again c rs hm h, ?_⟩
  · have hafter := d.after_perm c h
    exact ⟨⟨d.statusAt c, d.map_status_outcomes_eq c rs, d.map_status_outcomes_eq c rs'⟩, hafter,
      d.sum_flagged_eq c hafter⟩
  · intro ma mb mu a b u ha hb hu hchosen hknown
    obtain ⟨hstatuses, hs, hafter⟩ := d.after_two c ha hb hu hchosen hknown
    refine ⟨hstatuses, hs, hafter, (d.sum_flagged_eq c hafter).trans ?_⟩
    simp only [outcomes, List.map_cons, List.map_nil, List.sum_cons, List.sum_nil, Nat.add_zero]

/-- Two confirmations that have a node in common, in both orders: two nodes are newly marked in all. -/
theorem order_of_two_confirmations :
    let d : Desk := ⟨{}, ⟨[], 3600⟩, 10, false, none⟩
    let c : Catalogue := ⟨[{ id := "a", created := .epoch }, { id := "b", created := .epoch }], by decide, by decide⟩
    let m : Moment := ⟨.epoch, List.replicate 16 0, "", 0⟩
    ∃ x y, InOrder d m x ∧ InOrder d m y ∧ x.chosen = ["b"] ∧ y.chosen = ["a", "b"] ∧
      d.after c [(m, x), (m, y)] = d.after c [(m, y), (m, x)] ∧
      ((d.outcomes c [(m, y), (m, x)]).map Outcome.flagged).sum = 2 := by
  intro d c m
  let token := d.guard.issue m.now m.nonce
  let s : View.Sheet := ⟨ListQuery.address confirmPath 1 false, ["a", "b"], [(View.tokenField, token)]⟩
  have htarget := ListQuery.read?_address_confirm (show 1 ≤ maxWord by decide) false
  have hletters : ∀ l ∈ token.toList, Token.Cookie.IsLetter l := fun _ => Token.Cookie.isLetter_of_mem_issue
  have haccepts : d.guard.accepts token m.now = true := by
    rw [d.guard.accepts_issue m.now (by decide)]
    decide
  -- Whoever checks some of the boxes and submits the form is accepted.
  have hsubmit : ∀ checked : List String, checked ≠ [] → View.tokenField ∉ checked →
      (∀ id ∈ checked, c.contains id = true) →
      (Utf8.encode (Url.Form.encode (submitted s checked))).length ≤ maxBody →
      ∃ r, InOrder d m r ∧ r.chosen = checked := fun checked hne hfield hknown hshort => by
    obtain ⟨r, hr⟩ := exists_isSubmit ("csrftoken=" ++ token) htarget hshort
    obtain ⟨h303, -, -⟩ := d.handle_submit m c rfl rfl (by decide) (d.guard.issue_ne_empty m.now m.nonce) hletters
      haccepts hne hfield hknown hr
    refine ⟨r, ((d.accepted_iff m c r).1 h303).1, ?_⟩
    unfold Request.chosen
    rw [hr.body, Url.Form.decode_encode]
    exact named_checked hfield
  obtain ⟨x, hx, hxs⟩ := hsubmit ["b"] (by decide) (by decide) (by decide) (by decide +kernel)
  obtain ⟨y, hy, hys⟩ := hsubmit ["a", "b"] (by decide) (by decide) (by decide) (by decide +kernel)
  obtain ⟨hperm, -, hunion⟩ := d.order_of_requests c
  obtain ⟨-, hafter, hsum⟩ := hperm [(m, x), (m, y)] [(m, y), (m, x)] (List.Perm.swap _ _ _)
  have hchosen : ∀ id, id ∈ y.chosen ↔ id ∈ x.chosen ∨ id ∈ y.chosen := by simp [hxs, hys]
  have hknown : ∀ id ∈ y.chosen, c.contains id = true := by rw [hys]; decide
  obtain ⟨-, hs, -, hcount⟩ := hunion m m m x y y hx hy hy hchosen hknown
  refine ⟨x, y, hx, hy, hxs, hys, hafter, ?_⟩
  have hgrowth := d.countP_spam_handle m c y
  rw [catalogue_handle_eq, if_pos hs, hys] at hgrowth
  have hmarked : (c.markAll ["a", "b"]).nodes.countP (·.spam) = 2 := by decide
  have hunmarked : c.nodes.countP (·.spam) = 0 := by decide
  omega

end Desk
end Http
end NodeDesk
