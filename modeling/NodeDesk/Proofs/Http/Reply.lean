import NodeDesk.Proofs.Http.Verdict
/-!
# Reply — what a desk replies by itself

Before anything is added for other origins, a reply has one of eight statuses and headers of four names
(`isOwn_answer`).  So none is an error of the server, and none speaks of origins.
-/
namespace NodeDesk
namespace Http

namespace Reply

/-- The statuses of replies. -/
def statuses : List Nat := [200, 303, 400, 403, 404, 405, 413, 415]

/-- The names of the headers in replies. -/
def names : List String := ["content-type", "location", "set-cookie", "allow"]

/-- **A reply that a desk gives by itself.** -/
structure IsOwn (reply : Reply) : Prop where
  status : reply.status ∈ statuses
  names : ∀ h ∈ reply.headers, h.1 ∈ names

theorem isOwn_of_header {reply : Reply} {name value : String} (hs : reply.status ∈ statuses)
    (hh : reply.headers = [(name, value)]) (hn : name ∈ names) : reply.IsOwn := by
  refine ⟨hs, fun h hmem => ?_⟩
  rw [hh, List.mem_singleton] at hmem
  rwa [hmem]

theorem isOwn_json {status : Nat} (h : status ∈ statuses) (v : Json.Value) : (json status v).IsOwn :=
  isOwn_of_header h rfl (by decide)

theorem isOwn_plain {status : Nat} (h : status ∈ statuses) (s : String) : (plain status s).IsOwn :=
  isOwn_of_header h rfl (by decide)

theorem isOwn_html (ps : List Html.Piece) : (html ps).IsOwn :=
  isOwn_of_header (show 200 ∈ statuses by decide) rfl (by decide)

theorem isOwn_redirect (location : String) : (redirect location).IsOwn :=
  isOwn_of_header (show 303 ∈ statuses by decide) rfl (by decide)

theorem isOwn_empty {status : Nat} (h : status ∈ statuses) : (empty status).IsOwn := ⟨h, fun _ hmem => nomatch hmem⟩

theorem IsOwn.withHeader {reply : Reply} (h : reply.IsOwn) {name : String} (hn : name ∈ Reply.names) (value : String) :
    (reply.withHeader name value).IsOwn := by
  refine ⟨h.status, fun p hp => ?_⟩
  rcases List.mem_append.1 hp with hp | hp
  · exact h.names p hp
  · rwa [List.mem_singleton.1 hp]

end Reply

namespace Desk

open Reply (IsOwn isOwn_json isOwn_plain isOwn_html isOwn_redirect isOwn_empty)

variable (d : Desk) (m : Moment) (c : Catalogue) (r : Request)

/-- A request is never refused for what only a setup or a list of nodes is. -/
theorem isOwn_refusal {p : Problem} (h : p.status ≠ 500) : (refusal p).IsOwn := by
  refine isOwn_json ?_ _
  cases p <;> first | exact absurd rfl h | simp [Problem.status, Reply.statuses]

theorem isOwn_nodesReply (q : ListQuery) : (d.nodesReply c q).IsOwn := by
  unfold nodesReply listingReply
  dsimp only
  cases c.page? (q.page.getD 1) d.perPage with
  | none => exact isOwn_refusal fun h => nomatch h
  | some page => exact isOwn_html _

theorem isOwn_spamReply (q : ListQuery) : (d.spamReply m c q).IsOwn := by
  unfold spamReply listingReply
  dsimp only
  cases c.page? (q.page.getD 1) d.perPage with
  | none => exact isOwn_refusal fun h => nomatch h
  | some page => exact (isOwn_html _).withHeader (by decide) _

theorem isOwn_nodeReply (id : String) : (nodeReply c id).IsOwn := by
  unfold nodeReply
  cases c.get? id with
  | none => exact isOwn_refusal fun h => nomatch h
  | some n => exact isOwn_json (by decide) _

theorem isOwn_userReply (id : String) : (userReply c id).IsOwn := by
  unfold userReply
  dsimp only
  split
  · exact isOwn_refusal fun h => nomatch h
  · exact isOwn_json (by decide) _

theorem isOwn_withId (segment : List Char) {k : String → Reply} (hk : ∀ id, (k id).IsOwn) :
    (withId segment k).IsOwn := by
  unfold withId
  cases Url.Percent.decodeText? segment with
  | none => exact isOwn_plain (by decide) _
  | some id => exact hk _

theorem isOwn_withQuery {k : ListQuery → Outcome} (hk : ∀ q, (k q).reply.IsOwn) : (withQuery r c k).reply.IsOwn := by
  unfold withQuery
  cases ListQuery.read r.target.query with
  | error f => exact isOwn_plain (by decide) _
  | ok q => exact hk q

theorem isOwn_outcome (q : ListQuery) (ids : List String) (v : Verdict) : (v.outcome d c q ids).reply.IsOwn := by
  cases v with
  | confirmed => exact isOwn_redirect _
  | _ => exact isOwn_refusal fun h => nomatch h

theorem isOwn_of_formOf {r : Request} {reply : Reply} (h : formOf r = .error reply) : reply.IsOwn := by
  unfold formOf at h
  dsimp only at h
  split at h
  · cases h
    exact isOwn_plain (by decide) _
  · split at h
    · cases h
      exact isOwn_plain (by decide) _
    · cases h

theorem isOwn_page (route : Route) : (d.page m c r route).reply.IsOwn := by
  cases route with
  | health => exact isOwn_json (by decide) _
  | nodes => exact isOwn_withQuery c r (d.isOwn_nodesReply c)
  | spam => exact isOwn_withQuery c r (d.isOwn_spamReply m c)
  | node segment => exact isOwn_withId segment (isOwn_nodeReply c)
  | user segment => exact isOwn_withId segment (isOwn_userReply c)
  | confirm =>
    refine isOwn_withQuery c r fun q => ?_
    cases hf : formOf r with
    | error reply => exact isOwn_of_formOf hf
    | ok pairs =>
      dsimp only
      rw [confirm_eq]
      exact d.isOwn_outcome c q _ _

/-- **Every answer is a reply of these.** -/
theorem isOwn_answer : (d.answer m c r).reply.IsOwn := by
  unfold answer
  cases Route.ofPath? r.target.path with
  | none => exact isOwn_empty (by decide)
  | some route =>
    have hpage := d.isOwn_page m c r route
    dsimp only
    split
    · split
      -- A reply without its body keeps its status and its headers.
      · exact ⟨hpage.status, hpage.names⟩
      · exact hpage
    · exact (isOwn_empty (by decide)).withHeader (by decide) _

end Desk
end Http
end NodeDesk
