import Mathlib.Data.Finset.Card
import NodeDesk.Proofs.Http.Order
/-!
# Audit — the log accounts for every mark

A request that is accepted leaves one record of it, and no other request leaves one (`confirmations_handle`).  The
record counts the nodes that were chosen and those among them that were not marked before, and since a count is the
growth of the number of marked nodes, the counts of a whole run add up to its growth (`audit_of_run`).
-/
namespace NodeDesk

namespace Log

/-- The value of a field. -/
def Record.field? (r : Record) (name : String) : Option String := r.fields.lookup name

end Log

namespace Catalogue

variable {c : Catalogue} {ids : List String}

/-- How many nodes have a mark afterwards that they did not have before. -/
def newlyMarked (c c' : Catalogue) : Nat := (c.nodes.zip c'.nodes).countP fun p => !p.1.spam && p.2.spam

theorem newlyMarked_markAll (c : Catalogue) (ids : List String) : newlyMarked c (c.markAll ids) = c.unmarked ids := by
  unfold newlyMarked unmarked
  show (c.nodes.zip (c.nodes.map (markAmong ids))).countP _ = _
  induction c.nodes with
  | nil => rfl
  | cons n ns ih =>
    rw [List.map_cons, List.zip_cons_cons, List.countP_cons, List.countP_cons, ih]
    by_cases hi : n.id ∈ ids <;> cases hs : n.spam <;> simp [markAmong, Node.markSpam, hi, hs]

end Catalogue

namespace Http

open Submission (named)

/-- The records that tell of a confirmation that went through. -/
def Outcome.confirmations (o : Outcome) : List Log.Record :=
  (o.events.map Log.Event.record).filter (·.event = "SPAM_CONFIRMED")

/-- The ids that a form submits, each once: its names but for the token field. -/
def Request.submitted (r : Request) : Finset String := r.keys.toFinset.erase View.tokenField

theorem Request.submitted_eq (r : Request) : r.submitted = r.chosen.toFinset := by
  ext id
  rw [submitted, Finset.mem_erase, List.mem_toFinset, List.mem_toFinset, and_comm]
  exact Submission.mem_named_iff.symm

/-- As many ids are logged as are submitted. -/
theorem Request.length_eraseDups_chosen (r : Request) : r.chosen.eraseDups.length = r.submitted.card := by
  rw [r.submitted_eq, ← List.toFinset_card_of_nodup (Submission.nodup_eraseDups r.chosen)]
  congr 1
  ext id
  simp

namespace Desk

variable (d : Desk) (m : Moment) (c : Catalogue) (r : Request)

theorem confirmations_logged (status : Nat) :
    [(logged m r status).record].filter (·.event = "SPAM_CONFIRMED") = [] := rfl

theorem confirmations_outcome (q : ListQuery) (ids : List String) (v : Verdict) :
    (v.outcome d c q ids).confirmations =
      if v = .confirmed then [(Log.Event.spamConfirmed (c.unmarked ids) ids).record] else [] := by
  cases v <;> rfl

/-- **Each request that is accepted leaves one record of it**, and no other request leaves any. -/
theorem confirmations_handle :
    (d.handle m c r).confirmations =
      if (d.handle m c r).reply.status = 303 then
        [(Log.Event.spamConfirmed (c.unmarked r.chosen.eraseDups) r.chosen.eraseDups).record]
      else [] := by
  rcases d.quiet_handle m c r with ⟨-, hstatus, hevents⟩ | ⟨q, pairs, h⟩
  · rw [if_neg hstatus]
    refine List.filter_eq_nil_iff.2 fun line hline => ?_
    obtain ⟨e, he, rfl⟩ := List.mem_map.1 hline
    obtain ⟨status, rfl⟩ := hevents e he
    simp [logged, Log.Event.record]
  · have hpairs : pairs = Url.Form.decode r.body := (formOf_eq_ok_iff.1 h.form).2.2
    subst hpairs
    have hhandle := d.handle_of_isConfirmation c q m h
    generalize verdict d.guard m.now c (cookieOf r) (Url.Form.decode r.body) = v at hhandle
    have hstatus : (d.handle m c r).reply.status = 303 ↔ v = .confirmed := by
      rw [hhandle, ← Verdict.status_eq_iff]
      show (v.outcome d c q _).reply.status = 303 ↔ _
      rw [Verdict.status_outcome]
    simp only [hstatus]
    rw [← confirmations_outcome d c q, hhandle]
    unfold Outcome.confirmations
    rw [List.map_append, List.filter_append, List.map_singleton, confirmations_logged, List.append_nil]
    rfl

/-- **What the record says**: how many ids were submitted, and how many nodes were newly marked. -/
theorem confirmation_of_accepted (h : (d.handle m c r).reply.status = 303) :
    ∃ line, (d.handle m c r).confirmations = [line] ∧
      line.field? "selected" = some (Decimal.text r.submitted.card) ∧
      line.field? "flagged" = some (Decimal.text (c.newlyMarked (d.handle m c r).catalogue)) := by
  have hconf := d.confirmations_handle m c r
  rw [if_pos h] at hconf
  refine ⟨_, hconf, ?_, ?_⟩
  · show some (Decimal.text r.chosen.eraseDups.length) = _
    rw [r.length_eraseDups_chosen]
  · show some (Decimal.text (c.unmarked r.chosen.eraseDups)) = _
    rw [catalogue_handle_eq, if_pos h, c.newlyMarked_markAll, c.unmarked_congr fun _ => List.mem_eraseDups]

/-- The number of marked nodes grows by those that are newly marked. -/
theorem countP_spam_newlyMarked :
    (d.handle m c r).catalogue.nodes.countP (·.spam) =
      c.nodes.countP (·.spam) + c.newlyMarked (d.handle m c r).catalogue := by
  rw [catalogue_handle_eq]
  split
  · rw [c.newlyMarked_markAll, c.countP_spam_markAll]
  · have hnone := c.newlyMarked_markAll []
    rw [c.markAll_nil] at hnone
    rw [hnone]
    simp [Catalogue.unmarked]

/-! ## Runs -/

/-- The records of confirmations that a run leaves. -/
def auditLog (d : Desk) (c : Catalogue) (rs : List (Moment × Request)) : List Log.Record :=
  (d.outcomes c rs).flatMap Outcome.confirmations

/-- **The counts of a run add up to its growth.** -/
theorem sum_of_auditLog (rs : List (Moment × Request)) :
    ∃ counts : List Nat,
      (d.auditLog c rs).map (·.field? "flagged") = counts.map (fun k => some (Decimal.text k)) ∧
      (d.after c rs).nodes.countP (·.spam) = c.nodes.countP (·.spam) + counts.sum := by
  induction rs generalizing c with
  | nil => exact ⟨[], rfl, rfl⟩
  | cons s rs ih =>
    obtain ⟨counts, hlog, hsum⟩ := ih (d.handle s.1 c s.2).catalogue
    have hstep := d.countP_spam_newlyMarked s.1 c s.2
    by_cases h : (d.handle s.1 c s.2).reply.status = 303
    · -- the request adds its record, with the growth that it made itself
      obtain ⟨line, hline, -, hcount⟩ := d.confirmation_of_accepted s.1 c s.2 h
      refine ⟨c.newlyMarked (d.handle s.1 c s.2).catalogue :: counts, ?_, ?_⟩
      · unfold auditLog at hlog ⊢
        rw [outcomes, List.flatMap_cons, hline, List.singleton_append, List.map_cons, hcount, hlog, List.map_cons]
      · rw [after, hsum, hstep, List.sum_cons, Nat.add_assoc]
    · refine ⟨counts, ?_, ?_⟩
      · have hnone := d.confirmations_handle s.1 c s.2
        rw [if_neg h] at hnone
        unfold auditLog at hlog ⊢
        rw [outcomes, List.flatMap_cons, hnone, List.nil_append, hlog]
      · have hkept := d.catalogue_handle_eq s.1 c s.2
        rw [if_neg h] at hkept
        rw [hkept] at hsum
        rw [after, hkept, hsum]

/-- **The log accounts for every mark.**  After any run, whatever the next request is: if it is answered 303 it was sent
to the confirmation, and leaves one record of it, with the number of different ids that it submits and the number of
nodes that it newly marks; else it leaves none and marks nothing.  And the counts of newly marked nodes that the run has
logged add up to how many more nodes are marked at its end than at its start. -/
theorem audit_of_run (rs : List (Moment × Request)) :
    let now := d.after c rs
    (∀ m r, let o := d.handle m now r
      (o.reply.status = 303 → r.target.path = confirmPath.toList ∧
        ∃ line, o.confirmations = [line] ∧ line.field? "selected" = some (Decimal.text r.submitted.card) ∧
          line.field? "flagged" = some (Decimal.text (now.newlyMarked o.catalogue))) ∧
      (o.reply.status ≠ 303 → o.confirmations = [] ∧ o.catalogue = now)) ∧
    ∃ counts : List Nat,
      (d.auditLog c rs).map (·.field? "flagged") = counts.map (fun k => some (Decimal.text k)) ∧
      counts.sum = now.nodes.countP (·.spam) - c.nodes.countP (·.spam) ∧
      c.nodes.countP (·.spam) ≤ now.nodes.countP (·.spam) := by
  intro now
  refine ⟨fun m r => ⟨fun h => ?_, fun h => ?_⟩, ?_⟩
  · exact ⟨((d.accepted_iff m now r).1 h).1.double.path, d.confirmation_of_accepted m now r h⟩
  · have hnone := d.confirmations_handle m now r
    have hkept := d.catalogue_handle_eq m now r
    rw [if_neg h] at hnone hkept
    exact ⟨hnone, hkept⟩
  · obtain ⟨counts, hlog, hsum⟩ := d.sum_of_auditLog c rs
    have hmarked : now.nodes.countP (·.spam) = c.nodes.countP (·.spam) + counts.sum := hsum
    exact ⟨counts, hlog, by rw [hmarked, Nat.add_sub_cancel_left], by rw [hmarked]; exact Nat.le_add_right _ _⟩

/-- A form with a token that is accepted can be submitted with any boxes checked whose nodes there are. -/
theorem exists_accepted {checked : List String} (haccepts : d.guard.accepts (d.guard.issue m.now m.nonce) m.now = true)
    (hne : checked ≠ []) (hfield : View.tokenField ∉ checked) (hknown : ∀ id ∈ checked, c.contains id = true)
    (hshort : (Utf8.encode (Url.Form.encode (submitted ⟨ListQuery.address confirmPath 1 false, checked,
      [(View.tokenField, d.guard.issue m.now m.nonce)]⟩ checked))).length ≤ maxBody) :
    ∃ r, (d.handle m c r).reply.status = 303 ∧ r.chosen = checked := by
  have htarget := ListQuery.read?_address_confirm (show 1 ≤ maxWord by decide) false
  obtain ⟨r, hr⟩ := exists_isSubmit ("csrftoken=" ++ d.guard.issue m.now m.nonce) htarget hshort
  obtain ⟨h303, -, -⟩ := d.handle_submit m c rfl rfl (by decide) (d.guard.issue_ne_empty m.now m.nonce)
    (fun _ => Token.Cookie.isLetter_of_mem_issue) haccepts hne hfield hknown hr
  refine ⟨r, h303, ?_⟩
  unfold Request.chosen
  rw [hr.body, Url.Form.decode_encode]
  exact named_checked hfield

/-- A form that names one node twice and another that is marked already: two ids were submitted, and one node is newly
marked. -/
theorem audit_of_repeated_id :
    let d : Desk := ⟨{}, ⟨[], 3600⟩, 10, false, none⟩
    let c : Catalogue := ⟨[{ id := "a", created := .epoch }, { id := "b", created := .epoch, spam := true }],
      by decide, by decide⟩
    let m : Moment := ⟨.epoch, List.replicate 16 0, "", 0⟩
    ∃ r line, (d.handle m c r).reply.status = 303 ∧ (d.handle m c r).confirmations = [line] ∧
      line.field? "selected" = some "2" ∧ line.field? "flagged" = some "1" := by
  intro d c m
  have haccepts : d.guard.accepts (d.guard.issue m.now m.nonce) m.now = true := by
    rw [d.guard.accepts_issue m.now (by decide)]
    decide
  obtain ⟨r, h303, hchosen⟩ := @exists_accepted d m c ["b", "a", "b"] haccepts (by decide) (by decide) (by decide)
    (by decide +kernel)
  obtain ⟨-, line, hline, hselected, hflagged⟩ := ((d.audit_of_run c []).1 m r).1 h303
  have hcatalogue : (d.handle m c r).catalogue = c.markAll ["b", "a", "b"] := by
    rw [catalogue_handle_eq, if_pos h303, hchosen]
  have hcount : c.newlyMarked (c.markAll ["b", "a", "b"]) = 1 := by
    rw [Catalogue.newlyMarked_markAll]
    decide +kernel
  rw [r.submitted_eq, hchosen] at hselected
  refine ⟨r, line, h303, hline, hselected.trans (by decide +kernel), hflagged.trans ?_⟩
  show some (Decimal.text (c.newlyMarked (d.handle m c r).catalogue)) = _
  rw [hcatalogue, hcount]
  decide +kernel

end Desk
end Http
end NodeDesk
