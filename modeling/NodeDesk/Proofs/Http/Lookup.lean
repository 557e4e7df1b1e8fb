import NodeDesk.Proofs.Http.Handle
/-!
# Lookup — pages of single nodes and users

A request is for the page of an id if its path is that of the page with a segment that stands for the id.  It is
answered by the reply about that id, with the headers that every reply is given.
-/
namespace NodeDesk
namespace Http

/-- **A request for the page of an id**, of a node or of a user. -/
structure IsLookup (page : List Char → Route) (id : String) (r : Request) : Prop where
  method : r.method = "GET"
  path : ∃ segment, Route.ofPath? r.target.path = some (page segment) ∧
    Url.Percent.decodeText? segment = some id.toList

namespace Desk

variable (d : Desk) (m : Moment) (c : Catalogue) {r : Request} {id : String}

theorem handle_of_lookup {page : List Char → Route} {k : String → Reply} (h : IsLookup page id r)
    (hpage : ∀ segment, page segment ≠ .confirm ∧ d.page m c r (page segment) = ⟨withId segment k, [], c⟩) :
    (d.handle m c r).reply = { k id with headers := (k id).headers ++ d.granted r } := by
  obtain ⟨segment, hroute, hid⟩ := h.path
  have hk : withId segment k = k id := by
    unfold withId
    rw [hid]
    exact congrArg k String.ofList_toList
  rw [d.handle_of_get m c hroute (hpage segment).1 h.method]
  dsimp only
  rw [(hpage segment).2, hk]

theorem handle_node (h : IsLookup .node id r) :
    (d.handle m c r).reply = { nodeReply c id with headers := (nodeReply c id).headers ++ d.granted r } :=
  d.handle_of_lookup m c h fun _ => ⟨(fun h => nomatch h), rfl⟩

theorem handle_user (h : IsLookup .user id r) :
    (d.handle m c r).reply = { userReply c id with headers := (userReply c id).headers ++ d.granted r } :=
  d.handle_of_lookup m c h fun _ => ⟨(fun h => nomatch h), rfl⟩

end Desk
end Http
end NodeDesk
