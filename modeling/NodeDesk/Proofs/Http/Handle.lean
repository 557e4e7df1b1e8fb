import NodeDesk.Http.Desk
import NodeDesk.Proofs.Text.Cut
/-!
# Handle — which requests can change anything

A confirmation is a `POST` to one path whose query and form are read.  It alone is handed to `Desk.confirm`; every
other request, whatever its method, path, headers and body, leaves the catalogue as it was (`catalogue_handle`).
What `handle` adds to an answer is a record at its end and the headers for other origins.
-/
namespace NodeDesk
namespace Http

namespace Route

/-- **The paths of a route that holds no id**: the segments that are compared are all of the path. -/
theorem path_of_parts {path : List Char} {segments : List String}
    (h : (Text.parts '/' path).map String.ofList = segments) :
    path = ['/'].intercalate (segments.map String.toList) := by
  rw [← h, List.map_map]
  have hid : String.toList ∘ String.ofList = id := funext fun cs => String.toList_ofList
  rw [hid, List.map_id, Text.intercalate_parts]

theorem ofPath?_confirm : ofPath? confirmPath.toList = some .confirm := by decide

theorem ofPath?_spam : ofPath? spamPath.toList = some .spam := by decide

theorem ofPath?_nodes : ofPath? nodesPath.toList = some .nodes := by decide

theorem ofPath?_eq_confirm_iff {path : List Char} : ofPath? path = some .confirm ↔ path = confirmPath.toList := by
  constructor
  · intro h
    unfold ofPath? at h
    split at h <;> cases h
    rename_i hs
    rw [path_of_parts hs]
    decide
  · rintro rfl
    exact ofPath?_confirm

end Route

/-- **A request that is a confirmation**, with the query and the pairs that are read from it. -/
structure IsConfirmation (r : Request) (q : ListQuery) (pairs : List (String × String)) : Prop where
  method : r.method = "POST"
  path : r.target.path = confirmPath.toList
  query : ListQuery.read r.target.query = .ok q
  form : Desk.formOf r = .ok pairs

namespace Desk

variable (d : Desk) (m : Moment) (c : Catalogue) (r : Request)

theorem withQuery_of_ok {r : Request} {q : ListQuery} {k : ListQuery → Outcome}
    (h : ListQuery.read r.target.query = .ok q) : withQuery r c k = k q := by
  unfold withQuery
  rw [h]

/-- **When a body is read as a form**, and what is read: by its type and its length, whatever it holds. -/
theorem formOf_eq_ok_iff {r : Request} {pairs : List (String × String)} :
    formOf r = .ok pairs ↔
      "application/x-www-form-urlencoded".toList.isPrefixOf ((r.headerText? "content-type").getD "").toList = true ∧
      r.body.length ≤ maxBody ∧ pairs = Url.Form.decode r.body := by
  unfold formOf
  dsimp only
  by_cases ht : "application/x-www-form-urlencoded".toList.isPrefixOf
      ((r.headerText? "content-type").getD "").toList = true
  · rw [if_neg (not_not_intro ht)]
    by_cases hl : maxBody < r.body.length
    · rw [if_pos hl]
      exact iff_of_false (fun h => nomatch h) fun h => absurd h.2.1 (Nat.not_le.2 hl)
    · rw [if_neg hl, Except.ok.injEq]
      exact ⟨fun h => ⟨ht, Nat.not_lt.1 hl, h.symm⟩, fun h => h.2.2.symm⟩
  · rw [if_pos ht]
    exact iff_of_false (fun h => nomatch h) fun h => ht h.1

theorem answer_of_isConfirmation {r : Request} {q : ListQuery} {pairs : List (String × String)}
    (h : IsConfirmation r q pairs) : d.answer m c r = d.confirm m.now c q (cookieOf r) pairs := by
  have ha : Route.confirm.answers r.method = true := by rw [h.method]; decide
  have hm : r.method ≠ "HEAD" := by rw [h.method]; decide
  unfold answer
  rw [h.path, Route.ofPath?_confirm]
  dsimp only
  rw [if_pos ha, if_neg hm]
  show withQuery r c _ = _
  rw [withQuery_of_ok c h.query, h.form]

/-! ## Answers that change nothing -/

/-- **An outcome that tells of nothing and changes nothing**, and leads nowhere. -/
structure Quiet (c : Catalogue) (o : Outcome) : Prop where
  events : o.events = []
  catalogue : o.catalogue = c
  status : o.reply.status ≠ 303

theorem status_nodesReply (q : ListQuery) :
    (d.nodesReply c q).status = if (c.page? (q.page.getD 1) d.perPage).isSome then 200 else 404 := by
  unfold nodesReply listingReply
  dsimp only
  cases c.page? (q.page.getD 1) d.perPage <;> rfl

theorem status_spamReply (q : ListQuery) :
    (d.spamReply m c q).status = if (c.page? (q.page.getD 1) d.perPage).isSome then 200 else 404 := by
  unfold spamReply listingReply
  dsimp only
  cases c.page? (q.page.getD 1) d.perPage <;> rfl

theorem status_nodeReply (id : String) : (nodeReply c id).status = if (c.get? id).isSome then 200 else 404 := by
  unfold nodeReply
  cases c.get? id <;> rfl

theorem status_userReply (id : String) : (userReply c id).status = if (c.ofUser id).isEmpty then 404 else 200 := by
  unfold userReply
  dsimp only
  split <;> rfl

theorem status_ite_ne {p : Prop} [Decidable p] {a b : Nat} (ha : a ≠ 303) (hb : b ≠ 303) :
    (if p then a else b) ≠ 303 := by
  split
  · exact ha
  · exact hb

theorem status_withId_ne (segment : List Char) {k : String → Reply} (hk : ∀ id, (k id).status ≠ 303) :
    (withId segment k).status ≠ 303 := by
  unfold withId
  cases Url.Percent.decodeText? segment with
  | none => exact fun h => nomatch h
  | some id => exact hk _

theorem quiet_withQuery {k : ListQuery → Outcome} (hk : ∀ q, Quiet c (k q)) : Quiet c (withQuery r c k) := by
  unfold withQuery
  cases ListQuery.read r.target.query with
  | error f => exact ⟨rfl, rfl, fun h => nomatch h⟩
  | ok q => exact hk q

theorem quiet_page {route : Route} (h : route ≠ .confirm) : Quiet c (d.page m c r route) := by
  cases route with
  | confirm => exact absurd rfl h
  | health => exact ⟨rfl, rfl, fun h => nomatch h⟩
  | nodes =>
    refine quiet_withQuery c r fun q => ⟨rfl, rfl, ?_⟩
    rw [status_nodesReply]
    exact status_ite_ne (by decide) (by decide)
  | spam =>
    refine quiet_withQuery c r fun q => ⟨rfl, rfl, ?_⟩
    rw [status_spamReply]
    exact status_ite_ne (by decide) (by decide)
  | node segment =>
    refine ⟨rfl, rfl, status_withId_ne segment fun id => ?_⟩
    rw [status_nodeReply]
    exact status_ite_ne (by decide) (by decide)
  | user segment =>
    refine ⟨rfl, rfl, status_withId_ne segment fun id => ?_⟩
    rw [status_userReply]
    exact status_ite_ne (by decide) (by decide)

theorem status_formOf_ne {r : Request} {reply : Reply} (h : formOf r = .error reply) : reply.status ≠ 303 := by
  unfold formOf at h
  dsimp only at h
  split at h
  · cases h
    exact fun h => nomatch h
  · split at h
    · cases h
      exact fun h => nomatch h
    · cases h

theorem quiet_page_confirm :
    Quiet c (d.page m c r .confirm) ∨
      ∃ q pairs, ListQuery.read r.target.query = .ok q ∧ formOf r = .ok pairs := by
  cases hq : ListQuery.read r.target.query with
  | error f =>
    left
    simp only [page, withQuery, hq]
    exact ⟨rfl, rfl, fun h => nomatch h⟩
  | ok q =>
    cases hf : formOf r with
    | error reply =>
      left
      simp only [page, withQuery, hq, hf]
      exact ⟨rfl, rfl, status_formOf_ne hf⟩
    | ok pairs => exact .inr ⟨q, pairs, rfl, rfl⟩

/-- An answer is quiet, or has the status, the events and the catalogue of a page. -/
theorem quiet_answer_page :
    Quiet c (d.answer m c r) ∨
      ∃ route, Route.ofPath? r.target.path = some route ∧ route.answers r.method = true ∧
        (Quiet c (d.page m c r route) → Quiet c (d.answer m c r)) := by
  unfold answer
  cases hr : Route.ofPath? r.target.path with
  | none => exact .inl ⟨rfl, rfl, fun h => nomatch h⟩
  | some route =>
    dsimp only
    by_cases ha : route.answers r.method = true
    · rw [if_pos ha]
      refine .inr ⟨route, rfl, ha, fun hq => ?_⟩
      split
      · exact ⟨hq.events, hq.catalogue, hq.status⟩
      · exact hq
    · rw [if_neg ha]
      exact .inl ⟨rfl, rfl, fun h => nomatch h⟩

/-- **An answer is a confirmation's or is quiet.** -/
theorem quiet_answer :
    Quiet c (d.answer m c r) ∨
      ∃ q pairs, IsConfirmation r q pairs ∧ d.answer m c r = d.confirm m.now c q (cookieOf r) pairs := by
  rcases d.quiet_answer_page m c r with h | ⟨route, hr, ha, hp⟩
  · exact .inl h
  by_cases hc : route = .confirm
  · subst hc
    rcases d.quiet_page_confirm m c r with h | ⟨q, pairs, hq, hf⟩
    · exact .inl (hp h)
    · have h : IsConfirmation r q pairs :=
        ⟨by simpa [Route.answers] using ha, Route.ofPath?_eq_confirm_iff.1 hr, hq, hf⟩
      exact .inr ⟨q, pairs, h, d.answer_of_isConfirmation m c h⟩
  · exact .inl (hp (d.quiet_page m c r hc))

/-! ## What `handle` adds to an answer -/

/-- The headers that a desk adds to every reply. -/
def granted (d : Desk) (r : Request) : List (String × String) :=
  match d.cors with
  | none => []
  | some cors => cors.headers r

/-- **A request that is not `OPTIONS` is answered** as by `answer`, with a record at the end and some headers more. -/
theorem handle_eq {r : Request} (h : r.method ≠ "OPTIONS") :
    d.handle m c r =
      let o := d.answer m c r
      ⟨{ o.reply with headers := o.reply.headers ++ d.granted r }, o.events ++ [logged m r o.reply.status],
        o.catalogue⟩ := by
  unfold handle granted
  cases d.cors with
  | none => simp only [List.append_nil]
  | some cors =>
    simp only [if_neg h]
    rfl

section

variable {r} {route : Route} (hr : Route.ofPath? r.target.path = some route) (hc : route ≠ .confirm)
include hr hc

theorem answer_of_get (hm : r.method = "GET") : d.answer m c r = d.page m c r route := by
  have ha : route.answers r.method = true := by
    rw [hm]
    cases route <;> first | rfl | exact absurd rfl hc
  have hhead : r.method ≠ "HEAD" := by rw [hm]; decide
  unfold answer
  rw [hr]
  dsimp only
  rw [if_pos ha, if_neg hhead]

theorem handle_of_get (hm : r.method = "GET") :
    d.handle m c r =
      let o := d.page m c r route
      ⟨{ o.reply with headers := o.reply.headers ++ d.granted r }, o.events ++ [logged m r o.reply.status],
        o.catalogue⟩ := by
  have hopt : r.method ≠ "OPTIONS" := by rw [hm]; decide
  rw [d.handle_eq m c hopt, d.answer_of_get m c hr hc hm]

/-- **Only a request to get a page has a body in its reply.** -/
theorem get_of_body (hb : (d.handle m c r).reply.body ≠ "") : r.method = "GET" := by
  refine Classical.byContradiction fun hm => hb ?_
  have hanswer : (d.answer m c r).reply.body = "" := by
    unfold answer
    rw [hr]
    dsimp only
    by_cases hhead : r.method = "HEAD"
    · have ha : route.answers r.method = true := by
        rw [hhead]
        cases route <;> first | rfl | exact absurd rfl hc
      rw [if_pos ha, if_pos hhead]
      rfl
    · have ha : route.answers r.method = false := by
        cases route <;> first | exact absurd rfl hc | simp [Route.answers, hm, hhead]
      rw [if_neg (by rw [ha]; exact Bool.false_ne_true)]
      rfl
  unfold handle
  cases d.cors with
  | none => exact hanswer
  | some cors =>
    dsimp only
    split
    · unfold preflight
      rw [hr]
      rfl
    · exact hanswer

end

/-- **A request is a confirmation or is quiet**, but for the record that closes its answer. -/
theorem quiet_handle :
    ((d.handle m c r).catalogue = c ∧ (d.handle m c r).reply.status ≠ 303 ∧
      ∀ e ∈ (d.handle m c r).events, ∃ status, e = logged m r status) ∨ ∃ q pairs, IsConfirmation r q pairs := by
  rcases d.quiet_answer m c r with h | ⟨q, pairs, h, -⟩
  · left
    unfold handle
    have hevents : ∀ e ∈ (d.answer m c r).events ++ [logged m r (d.answer m c r).reply.status],
        ∃ status, e = logged m r status := fun e he => by
      rw [h.events, List.nil_append] at he
      exact ⟨_, List.mem_singleton.1 he⟩
    cases d.cors with
    | none => exact ⟨h.catalogue, h.status, hevents⟩
    | some cors =>
      dsimp only
      split
      · refine ⟨rfl, ?_, fun e he => nomatch he⟩
        unfold preflight
        cases Route.ofPath? r.target.path <;> exact fun h => nomatch h
      · exact ⟨h.catalogue, h.status, hevents⟩
  · exact .inr ⟨q, pairs, h⟩

theorem handle_of_confirm {r : Request} {q : ListQuery} {pairs : List (String × String)} (h : IsConfirmation r q pairs) :
    d.handle m c r =
      let o := d.confirm m.now c q (cookieOf r) pairs
      ⟨{ o.reply with headers := o.reply.headers ++ d.granted r }, o.events ++ [logged m r o.reply.status],
        o.catalogue⟩ := by
  have hm : r.method ≠ "OPTIONS" := by rw [h.method]; decide
  rw [d.handle_eq m c hm, d.answer_of_isConfirmation m c h]

/-- **A request is a confirmation or changes nothing.** -/
theorem catalogue_handle :
    (d.handle m c r).catalogue = c ∨
      ∃ q pairs, IsConfirmation r q pairs ∧
        (d.handle m c r).catalogue = (d.confirm m.now c q (cookieOf r) pairs).catalogue := by
  rcases d.quiet_handle m c r with h | ⟨q, pairs, h⟩
  · exact .inl h.1
  · exact .inr ⟨q, pairs, h, by rw [d.handle_of_confirm m c h]⟩

end Desk
end Http
end NodeDesk
