import NodeDesk.Cli.Run
import NodeDesk.Proofs.Http.Reply
import NodeDesk.Proofs.Http.Setup
/-!
# AccessLog — which requests leave a line of their own

What a request does is logged first and the request itself last, as an error, a warning or for information by the
hundreds of its status (`accessRecord`).  What is asked with `OPTIONS` of a desk with origins is answered before it
comes to the log, and is the only request that leaves no line (`access_line_of_setup`).
-/
namespace NodeDesk

namespace Log

/-- How grave an answer is, by the hundreds of its status. -/
def severityOfClass (status : Nat) : Severity :=
  match status / 100 with
  | 5 => .error
  | 4 => .warn
  | _ => .info

theorem severityOf_eq {status : Nat} (h : status < 600) : severityOf status = severityOfClass status := by
  unfold severityOf severityOfClass
  by_cases h5 : 500 ≤ status
  · rw [if_pos h5, show status / 100 = 5 by omega]
    rfl
  · rw [if_neg h5]
    by_cases h4 : 400 ≤ status
    · rw [if_pos h4, show status / 100 = 4 by omega]
      rfl
    · rw [if_neg h4]
      split
      · omega
      · omega
      · rfl

theorem isError_severityOfClass (status : Nat) : (severityOfClass status).isError = decide (status / 100 = 5) := by
  unfold severityOfClass
  split <;> simp_all [Severity.isError]

/-- The event of a line that tells of a request. -/
def accessEvent : String := "HTTP_REQUEST"

end Log

namespace Cli

open Log (Event Record)

theorem lines_eq (errors : Bool) (events : List Event) : lines errors events =
    String.join (((events.map Event.record).filter (·.severity.isError == errors)).map Record.line) := by
  unfold lines
  rw [List.filter_map, List.map_map]
  rfl

/-- **What is written of records that are no errors and of one more.** -/
theorem lines_of_records {events : List Event} {before : List Record} {last : Record}
    (h : events.map Event.record = before ++ [last]) (hb : ∀ line ∈ before, line.severity.isError = false) :
    lines false events = String.join ((before ++ if last.severity.isError then [] else [last]).map Record.line) ∧
      lines true events = if last.severity.isError then last.line else "" := by
  have hall : before.filter (·.severity.isError == false) = before :=
    List.filter_eq_self.2 fun line hline => beq_iff_eq.2 (hb line hline)
  have hnone : before.filter (·.severity.isError == true) = [] :=
    List.filter_eq_nil_iff.2 fun line hline => by rw [hb line hline]; decide
  rw [lines_eq, lines_eq, h, List.filter_append, List.filter_append, hall, hnone]
  cases he : last.severity.isError <;> simp [he]

end Cli

namespace Http

open Log (Event Record accessEvent severityOfClass)

/-- **The line that tells of a request** and of the status that it was answered with. -/
def accessRecord (m : Moment) (r : Request) (status : Nat) : Record :=
  ⟨severityOfClass status, accessEvent,
    [("duration_ms", Decimal.text m.duration), ("method", r.method), ("path", String.ofList r.target.path),
      ("request_id", m.requestId), ("status", Decimal.text status)]⟩

namespace Desk

variable (d : Desk) (m : Moment) (c : Catalogue) (r : Request)

theorem record_logged {status : Nat} (h : status < 600) : (logged m r status).record = accessRecord m r status := by
  unfold accessRecord
  rw [← Log.severityOf_eq h]
  rfl

theorem status_answer_lt : (d.answer m c r).reply.status < 600 := by
  have hall : ∀ status ∈ Reply.statuses, status < 600 := by decide
  exact hall _ (d.isOwn_answer m c r).status

theorem events_outcome (q : ListQuery) (ids : List String) (v : Verdict) :
    ∀ e ∈ (v.outcome d c q ids).events, e.record.event ≠ accessEvent ∧ e.record.severity.isError = false := by
  intro e he
  cases v <;> simp only [Verdict.outcome, List.not_mem_nil, List.mem_singleton] at he <;> subst he <;>
    exact ⟨by simp [Event.record, accessEvent], rfl⟩

/-- **What a request does is no error and tells of no request.** -/
theorem events_answer : ∀ e ∈ (d.answer m c r).events,
    e.record.event ≠ accessEvent ∧ e.record.severity.isError = false := by
  rcases d.quiet_answer m c r with h | ⟨q, pairs, -, h⟩
  · rw [h.events]
    exact fun _ he => nomatch he
  · rw [h, d.confirm_eq]
    exact d.events_outcome c q _ _

/-- **Every request that comes to the log leaves one line of itself**, behind the lines of what it did. -/
theorem events_handle (h : r.method ≠ "OPTIONS" ∨ d.cors = none) :
    (d.handle m c r).events = (d.answer m c r).events ++ [logged m r (d.answer m c r).reply.status] ∧
      (d.handle m c r).reply.status = (d.answer m c r).reply.status := by
  rcases h with h | h
  · rw [d.handle_eq m c h]
    exact ⟨rfl, rfl⟩
  · unfold handle
    rw [h]
    exact ⟨rfl, rfl⟩

theorem events_preflight {cors : Cors} (h : r.method = "OPTIONS") (hc : d.cors = some cors) :
    (d.handle m c r).events = [] ∧ (d.handle m c r).reply.status = 200 := by
  unfold handle
  rw [hc]
  dsimp only
  rw [if_pos h]
  refine ⟨rfl, ?_⟩
  unfold preflight
  cases Route.ofPath? r.target.path <;> rfl

/-- **Every request leaves one line of itself, but for what is asked with `OPTIONS` of a desk with origins.**  The line
comes after those of what the request did, and has its method and path and the status of the reply.  It goes to the
error output if the status is an error of the server, else to the other output behind the rest.  A preflight is
answered without a line. -/
theorem access_line_of_setup (config : Config) (fallback : Bytes) (h : "*" ∉ config.corsOrigins) :
    ∃ d, ofConfig? config fallback = some d ∧ ∀ (m : Moment) (c : Catalogue) (r : Request),
      let o := d.handle m c r
      let access := accessRecord m r o.reply.status
      let isError := o.reply.status / 100 = 5
      (r.method ≠ "OPTIONS" ∨ config.corsOrigins = [] →
        ∃ before, o.events.map Event.record = before ++ [access] ∧ (∀ line ∈ before, line.event ≠ accessEvent) ∧
          Cli.lines false o.events = String.join ((before ++ if isError then [] else [access]).map Record.line) ∧
          Cli.lines true o.events = if isError then access.line else "") ∧
      (r.method = "OPTIONS" → config.corsOrigins ≠ [] → o.events = [] ∧ o.reply.status = 200) := by
  obtain ⟨d, hd⟩ := exists_ofConfig_iff.2 h
  have hcors : d.cors = corsOf config := cors_of_ofConfig? hd
  refine ⟨d, hd, fun m c r => ?_⟩
  intro o access isError
  constructor
  · intro hr
    have hlog : r.method ≠ "OPTIONS" ∨ d.cors = none := hr.imp id fun he => by
      rw [hcors, corsOf, he]
      rfl
    obtain ⟨hevents, hstatus⟩ := d.events_handle m c r hlog
    have hrecords : o.events.map Event.record = (d.answer m c r).events.map Event.record ++ [access] := by
      show (d.handle m c r).events.map Event.record = _ ++ [accessRecord m r (d.handle m c r).reply.status]
      rw [hevents, hstatus, List.map_append, List.map_singleton, record_logged m r (d.status_answer_lt m c r)]
    -- No line before it is for the error output, so only the last one decides what is written there.
    have hbefore : ∀ line ∈ (d.answer m c r).events.map Event.record,
        line.event ≠ accessEvent ∧ line.severity.isError = false := fun line hline => by
      obtain ⟨e, he, rfl⟩ := List.mem_map.1 hline
      exact d.events_answer m c r e he
    have hlines := Cli.lines_of_records hrecords fun line hline => (hbefore line hline).2
    have haccess : access.severity.isError = decide isError := Log.isError_severityOfClass _
    rw [haccess] at hlines
    simp only [decide_eq_true_eq] at hlines
    exact ⟨_, hrecords, fun line hline => (hbefore line hline).1, hlines⟩
  · intro hr hne
    have hsome : d.cors = some ⟨Cors.legal config.corsOrigins⟩ := by
      rw [hcors, corsOf, if_neg (by simpa using hne)]
    exact d.events_preflight m c r hr hsome

/-- A path that leads nowhere, asked for by a method that no page answers: a warning, and nothing on the error output. -/
theorem access_line_of_unrouted :
    let config : Config := { corsOrigins := ["http://a.example"] }
    let m : Moment := ⟨.epoch, [], "1", 0⟩
    let r : Request := ⟨"DELETE", ⟨"/nowhere".toList, none⟩, [], []⟩
    "*" ∉ config.corsOrigins ∧ r.method ≠ "OPTIONS" ∧
      ∃ d before, ofConfig? config [] = some d ∧ (d.handle m .empty r).reply.status = 404 ∧
        (d.handle m .empty r).events.map Event.record = before ++ [accessRecord m r 404] ∧
        Cli.lines true (d.handle m .empty r).events = "" := by
  intro config m r
  have hstar : "*" ∉ config.corsOrigins := by decide
  have hmethod : r.method ≠ "OPTIONS" := by decide
  obtain ⟨d, hd, hall⟩ := access_line_of_setup config [] hstar
  have hstatus : (d.handle m .empty r).reply.status = 404 := by
    rw [d.handle_eq m .empty hmethod]
    rfl
  obtain ⟨before, hrecords, -, -, herrors⟩ := (hall m .empty r).1 (.inl hmethod)
  rw [hstatus] at hrecords herrors
  exact ⟨hstar, hmethod, d, before, hd, hstatus, hrecords, herrors⟩

/-- **A preflight that leaves no line**, though what it asks for is there: the setup has an origin. -/
theorem preflight_without_line :
    let config : Config := { corsOrigins := ["http://a.example"] }
    let r : Request := ⟨"OPTIONS", ⟨"/health".toList, none⟩, [], []⟩
    "*" ∉ config.corsOrigins ∧
      ∃ d, ofConfig? config [] = some d ∧
        ∀ m, (d.handle m .empty r).events = [] ∧ (d.handle m .empty r).reply.status = 200 := by
  intro config r
  have hstar : "*" ∉ config.corsOrigins := by decide
  obtain ⟨d, hd⟩ := exists_ofConfig_iff.2 hstar
  have hcors : d.cors = some ⟨Cors.legal config.corsOrigins⟩ := cors_of_ofConfig? hd
  exact ⟨hstar, d, hd, fun m => d.events_preflight m .empty r rfl hcors⟩

end Desk
end Http
end NodeDesk
