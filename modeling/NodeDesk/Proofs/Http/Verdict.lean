import NodeDesk.Proofs.Catalogue.Marks
import NodeDesk.Proofs.Http.Handle
import NodeDesk.Proofs.Submission
/-!
# Verdict — what the first failing check of a confirmation dictates

A confirmation can be wrong in six ways, and in several at once.  `verdict` reads them off the pairs, the cookie, the
guard and the catalogue in the order in which they count; status, body, log and catalogue all follow it
(`handle_confirmation`).
-/
namespace NodeDesk
namespace Http

open Submission (lastToken? named)

/-- What a confirmation comes to. -/
inductive Verdict where
  | emptyId
  | noToken
  | nothingChosen
  | noCookie
  | mismatch
  | unknownId (id : String)
  | confirmed
  deriving Repr, DecidableEq

/-- **The first check that fails**: an empty name, no token in the form, no other name in it, no token in a cookie, two
tokens that differ or one that is not accepted, and the first name that no node has. -/
def verdict (g : Token.Guard) (now : Calendar.Instant) (c : Catalogue) (cookie : Option String)
    (pairs : List (String × String)) : Verdict :=
  if ∃ p ∈ pairs, p.1 = "" then .emptyId
  else match lastToken? pairs with
    | none => .noToken
    | some token =>
      if token = "" then .noToken
      else if named pairs = [] then .nothingChosen
      else match cookie with
        | none => .noCookie
        | some copy =>
          if copy ≠ token ∨ g.accepts token now = false then .mismatch
          else match (named pairs).find? fun id => !c.contains id with
            | some id => .unknownId id
            | none => .confirmed

/-- **When a confirmation goes through**: it names some nodes, all of them by ids that there are, and carries a token
twice that the guard accepts. -/
theorem verdict_eq_confirmed_iff {g : Token.Guard} {now : Calendar.Instant} {c : Catalogue} {cookie : Option String}
    {pairs : List (String × String)} :
    verdict g now c cookie pairs = .confirmed ↔
      (∀ p ∈ pairs, p.1 ≠ "") ∧
      (∃ token, token ≠ "" ∧ lastToken? pairs = some token ∧ cookie = some token ∧ g.accepts token now = true) ∧
      named pairs ≠ [] ∧ ∀ id ∈ named pairs, c.contains id = true := by
  unfold verdict
  constructor
  · intro h
    split at h
    · cases h
    rename_i hkeys
    have hids : ∀ p ∈ pairs, p.1 ≠ "" := fun p hp he => hkeys ⟨p, hp, he⟩
    cases ht : lastToken? pairs with
    | none => rw [ht] at h; cases h
    | some token =>
      rw [ht] at h
      dsimp only at h
      by_cases hne : token = ""
      · rw [if_pos hne] at h; cases h
      rw [if_neg hne] at h
      by_cases hn : named pairs = []
      · rw [if_pos hn] at h; cases h
      rw [if_neg hn] at h
      cases cookie with
      | none => cases h
      | some copy =>
        dsimp only at h
        by_cases hc : copy ≠ token ∨ g.accepts token now = false
        · rw [if_pos hc] at h; cases h
        rw [if_neg hc] at h
        rw [not_or, not_not, Bool.not_eq_false] at hc
        cases hf : (named pairs).find? fun id => !c.contains id with
        | some id => rw [hf] at h; cases h
        | none =>
          have hknown : ∀ id ∈ named pairs, c.contains id = true := by simpa using hf
          exact ⟨hids, ⟨token, hne, rfl, congrArg some hc.1, hc.2⟩, hn, hknown⟩
  · rintro ⟨hids, ⟨token, htoken, hlast, rfl, haccepts⟩, hnamed, hknown⟩
    have hfind : (named pairs).find? (fun id => !c.contains id) = none :=
      List.find?_eq_none.2 fun id hid => by simp [hknown id hid]
    have hmatch : ¬ (token ≠ token ∨ g.accepts token now = false) := by simp [haccepts]
    rw [if_neg (by rintro ⟨p, hp, h⟩; exact hids p hp h), hlast]
    dsimp only
    rw [if_neg htoken, if_neg hnamed, if_neg hmatch, hfind]

namespace Verdict

/-- The status of the reply. -/
def status : Verdict → Nat
  | .emptyId => 400
  | .noToken => 403
  | .nothingChosen => 400
  | .noCookie => 403
  | .mismatch => 403
  | .unknownId _ => 404
  | .confirmed => 303

/-- The problem that the body of the reply tells of. -/
def problem? : Verdict → Option Problem
  | .emptyId => some (.invalidSubmission "Empty node id")
  | .noToken => some .tokenRejected
  | .nothingChosen => some (.invalidSubmission "No nodes selected")
  | .noCookie => some .tokenRejected
  | .mismatch => some .tokenRejected
  | .unknownId id => some (.nodeNotFound id)
  | .confirmed => none

/-- The reason that is logged if a token is rejected. -/
def reason? : Verdict → Option String
  | .noToken => some "missing token"
  | .noCookie => some "missing cookie"
  | .mismatch => some "token mismatch or expired"
  | _ => none

/-- The records of rejected tokens. -/
def rejections (v : Verdict) : List Log.Record :=
  (v.reason?.map fun why => ⟨.warn, "CSRF_REJECTED", [("reason", why)]⟩).toList

/-- All that a verdict leads to. -/
def outcome (d : Desk) (c : Catalogue) (q : ListQuery) (ids : List String) : Verdict → Outcome
  | .emptyId => ⟨Desk.refusal (.invalidSubmission "Empty node id"), [], c⟩
  | .noToken => ⟨Desk.refusal .tokenRejected, [.tokenRejected .missingToken], c⟩
  | .nothingChosen => ⟨Desk.refusal (.invalidSubmission "No nodes selected"), [], c⟩
  | .noCookie => ⟨Desk.refusal .tokenRejected, [.tokenRejected .missingCookie], c⟩
  | .mismatch => ⟨Desk.refusal .tokenRejected, [.tokenRejected .mismatch], c⟩
  | .unknownId id => ⟨Desk.refusal (.nodeNotFound id), [], c⟩
  | .confirmed =>
    ⟨.redirect (spamPath ++ q.text d.showTitle), [.spamConfirmed (c.unmarked ids) ids], c.markAll ids⟩

variable (d : Desk) (c : Catalogue) (q : ListQuery) (ids : List String) (v : Verdict)

theorem status_outcome : (v.outcome d c q ids).reply.status = v.status := by
  cases v <;> rfl

theorem status_eq_iff : v.status = 303 ↔ v = .confirmed := by
  cases v <;> simp [status]

theorem body_outcome {p : Problem} (h : v.problem? = some p) : (v.outcome d c q ids).reply.body = p.toJson.text := by
  cases v <;> cases h <;> rfl

theorem catalogue_outcome : (v.outcome d c q ids).catalogue = if v = .confirmed then c.markAll ids else c := by
  cases v <;> rfl

/-- **A rejected token is logged once and with its reason**, and nothing else is logged as one. -/
theorem rejections_outcome :
    ((v.outcome d c q ids).events.map Log.Event.record).filter (·.event = "CSRF_REJECTED") = v.rejections := by
  cases v <;> rfl

end Verdict

namespace Desk

variable (d : Desk) (c : Catalogue) (q : ListQuery)

theorem confirmed_eq {token : String} {ids : List String} :
    d.confirmed c q ⟨token, ids.eraseDups⟩ =
      (match ids.find? fun id => !c.contains id with
        | some id => Verdict.unknownId id
        | none => .confirmed).outcome d c q ids.eraseDups := by
  unfold confirmed Catalogue.mark
  rw [Submission.find?_eraseDups]
  cases ids.find? fun id => !c.contains id <;> rfl

/-- **A confirmation leads to what its verdict dictates.** -/
theorem confirm_eq (now : Calendar.Instant) (cookie : Option String) (pairs : List (String × String)) :
    d.confirm now c q cookie pairs =
      (verdict d.guard now c cookie pairs).outcome d c q (named pairs).eraseDups := by
  unfold confirm verdict
  rw [Submission.ofPairs_eq]
  by_cases he : ∃ p ∈ pairs, p.1 = ""
  · rw [if_pos he, if_pos he]
    rfl
  · rw [if_neg he, if_neg he]
    cases ht : lastToken? pairs with
    | none => rfl
    | some token =>
      dsimp only
      by_cases hne : token = ""
      · rw [if_pos hne, if_pos hne]
        rfl
      · rw [if_neg hne, if_neg hne]
        by_cases hn : named pairs = []
        · rw [if_pos hn, if_pos hn]
          rfl
        · rw [if_neg hn, if_neg hn]
          cases cookie with
          | none => rfl
          | some copy =>
            by_cases hc : copy = token ∧ d.guard.accepts token now = true
            · have ha : d.guard.acceptsPair token (some copy) now = true := by
                simp [Token.Guard.acceptsPair, hc.1, hc.2]
              have hv : ¬ (copy ≠ token ∨ d.guard.accepts token now = false) := by simp [hc.1, hc.2]
              simp only [if_pos ha, if_neg hv]
              exact d.confirmed_eq c q
            · have ha : ¬ d.guard.acceptsPair token (some copy) now = true := by
                simpa [Token.Guard.acceptsPair] using hc
              have hv : copy ≠ token ∨ d.guard.accepts token now = false := by
                rw [← Bool.not_eq_true]
                exact not_and_or.1 hc
              simp only [if_neg ha, if_pos hv]
              rfl

/-- **A request that is a confirmation is answered by its verdict.** -/
theorem handle_of_isConfirmation (m : Moment) {r : Request} {pairs : List (String × String)}
    (h : IsConfirmation r q pairs) :
    d.handle m c r =
      let o := (verdict d.guard m.now c (cookieOf r) pairs).outcome d c q (named pairs).eraseDups
      ⟨{ o.reply with headers := o.reply.headers ++ d.granted r }, o.events ++ [logged m r o.reply.status],
        o.catalogue⟩ := by
  rw [d.handle_of_confirm m c h, d.confirm_eq c q]

end Desk

/-- **Every confirmation is answered by its first failing check, and only a confirmed one writes.** -/
theorem Desk.handle_confirmation (d : Desk) (m : Moment) (c : Catalogue) {r : Request} {q : ListQuery}
    {pairs : List (String × String)} (h : IsConfirmation r q pairs) :
    let v := verdict d.guard m.now c (cookieOf r) pairs
    let o := d.handle m c r
    o.reply.status = v.status ∧ (∀ p, v.problem? = some p → o.reply.body = p.toJson.text) ∧
    (v ≠ .confirmed → o.catalogue = c) ∧
    (v = .confirmed → o.catalogue.nodes =
      c.nodes.map fun n => if n.id ∈ named pairs then { n with spam := true } else n) ∧
    (o.events.map Log.Event.record).filter (·.event = "CSRF_REJECTED") = v.rejections := by
  intro v o
  have ho : o = _ := d.handle_of_isConfirmation c q m h
  have hcat : o.catalogue = if v = .confirmed then c.markAll (named pairs).eraseDups else c := by
    rw [ho]
    exact Verdict.catalogue_outcome d c q _ v
  refine ⟨?_, fun p hp => ?_, fun hv => ?_, fun hv => ?_, ?_⟩
  · rw [ho]
    exact Verdict.status_outcome d c q _ v
  · rw [ho]
    exact Verdict.body_outcome d c q _ v hp
  · rw [hcat, if_neg hv]
  · rw [hcat, if_pos hv, c.markAll_congr fun id => List.mem_eraseDups]
    exact c.nodes_markAll (named pairs)
  · have hrec := Verdict.rejections_outcome d c q (named pairs).eraseDups v
    rw [ho]
    simp only [List.map_append, List.filter_append, v, hrec]
    -- The record that every request leaves is no rejection.
    simp [logged, Log.Event.record]

/-- A form that names a node that is not there, with a token that its cookie does not have: the token comes first. -/
theorem mismatch_before_unknownId :
    let d : Desk := ⟨{}, ⟨[], 0⟩, 10, false, none⟩
    let m : Moment := ⟨.epoch, [], "", 0⟩
    let r : Request := ⟨"POST", ⟨confirmPath.toList, none⟩,
      [("content-type", Utf8.encode "application/x-www-form-urlencoded".toList),
        ("cookie", Utf8.encode "csrftoken=u".toList)],
      Utf8.encode "x=on&csrfmiddlewaretoken=t".toList⟩
    IsConfirmation r {} [("x", "on"), ("csrfmiddlewaretoken", "t")] ∧
      verdict d.guard m.now .empty (Desk.cookieOf r) [("x", "on"), ("csrfmiddlewaretoken", "t")] = .mismatch ∧
      (d.handle m .empty r).reply.status = 403 ∧ (d.handle m .empty r).catalogue = .empty := by
  intro d m r
  have h : IsConfirmation r {} [("x", "on"), ("csrfmiddlewaretoken", "t")] :=
    ⟨rfl, rfl, rfl, Desk.formOf_eq_ok_iff.2 (by decide +kernel)⟩
  have hv : verdict d.guard m.now .empty (Desk.cookieOf r) [("x", "on"), ("csrfmiddlewaretoken", "t")] = .mismatch := by
    decide +kernel
  obtain ⟨hstatus, -, hkept, -, -⟩ := d.handle_confirmation m .empty h
  exact ⟨h, hv, by rw [hstatus, hv]; rfl, hkept (by rw [hv]; decide)⟩

end Http
end NodeDesk
