import NodeDesk.Proofs.Catalogue.Calls
import NodeDesk.Proofs.Http.Lookup
import NodeDesk.Proofs.Http.RoundTrip
import NodeDesk.Proofs.Node.Codec
import NodeDesk.Proofs.Url.Resolver
import NodeDesk.Proofs.View.Grid
/-!
# Links — every link of a row leads to what it names

The path of a link is taken apart at its slashes, and its fourth segment is read as the id that it was made of
(`isLookup_of_isVisit`).  So a browser that follows a link of a listing finds the node or the user that the row names
in that cell, whatever their ids are (`node_links_lead`, `user_links_lead`).
-/
namespace NodeDesk
namespace Http

open Url (prefixed)

/-! ## Paths -/

namespace Route

/-- The segments of the address of an id behind a prefix of two words. -/
theorem segments_prefixed {base area kind : String} (hbase : base.toList = '/' :: area.toList ++ '/' :: kind.toList ++ ['/'])
    (ha : '/' ∉ area.toList) (hk : '/' ∉ kind.toList) (id : String) :
    (Text.parts '/' (prefixed base.toList id)).map String.ofList = ["", area, kind, Url.Percent.encode id, ""] := by
  have hempty : '/' ∉ ([] : List Char) := List.not_mem_nil
  have hpath : prefixed base.toList id = [] ++ '/' :: (area.toList ++ '/' :: (kind.toList ++ '/' ::
      ((Url.Percent.encode id).toList ++ '/' :: []))) := by
    simp [prefixed, hbase]
  rw [hpath, Text.parts_append hempty, Text.parts_append ha, Text.parts_append hk,
    Text.parts_append (Url.slash_not_mem_encode id)]
  simp [Text.parts]

theorem ofPath?_node (id : String) :
    ofPath? (prefixed "/admin/nodes/".toList id) = some (.node (Url.Percent.encode id).toList) := by
  have hsegments := @segments_prefixed "/admin/nodes/" "admin" "nodes" (by decide) (by decide) (by decide) id
  unfold ofPath?
  rw [hsegments]
  simp

theorem ofPath?_user (id : String) :
    ofPath? (prefixed "/admin/users/".toList id) = some (.user (Url.Percent.encode id).toList) := by
  have hsegments := @segments_prefixed "/admin/users/" "admin" "users" (by decide) (by decide) (by decide) id
  unfold ofPath?
  rw [hsegments]
  simp

end Route

namespace Desk

/-! ## Visits -/

section

variable {base address id : String} {page : List Char → Route}
  (ha : address.toList = prefixed base.toList id) (hroot : base.toList.head? = some '/')
  (hbase : base.toList.all Url.Target.isPathChar = true)
include ha hroot hbase

theorem exists_isVisit (hs : Utf8.size address.toList ≤ Url.Target.maxSize) : ∃ r, IsVisit address r := by
  have htarget := Url.read?_prefixed hroot (List.all_eq_true.1 hbase) (ha ▸ hs)
  exact ⟨⟨"GET", _, [], []⟩, rfl, by rw [ha]; exact htarget⟩

/-- **Who visits the address of an id asks for its page.** -/
theorem isLookup_of_isVisit {r : Request} (h : IsVisit address r)
    (hroute : Route.ofPath? (prefixed base.toList id) = some (page (Url.Percent.encode id).toList)) :
    IsLookup page id r := by
  have ht := h.target
  rw [ha] at ht
  have hs : Utf8.size (prefixed base.toList id) ≤ Url.Target.maxSize := Url.Target.size_le_of_read? ht
  rw [Url.read?_prefixed hroot (List.all_eq_true.1 hbase) hs] at ht
  refine ⟨h.method, _, ?_, Url.Percent.decodeText?_encode id⟩
  rw [← Option.some.inj ht]
  exact hroute

end

/-! ## Nodes -/

/-- No two nodes of a catalogue have the same text, since it tells their ids. -/
theorem eq_of_text {c : Catalogue} {n x : Node} (hn : n ∈ c.nodes) (hx : x ∈ c.nodes) (h : x.text = n.text) : x = n := by
  have hread := x.document_text
  rw [h, n.document_text] at hread
  have hid : n.carried.id = x.carried.id := congrArg Node.id (Except.ok.inj hread)
  have hfound : c.get? n.id = some n := Catalogue.get?_eq_some_iff.2 ⟨hn, rfl⟩
  have hfound' : c.get? n.id = some x := Catalogue.get?_eq_some_iff.2 ⟨hx, hid.symm⟩
  exact Option.some.inj (hfound'.symm.trans hfound)

/-- **An address that leads to the node of an id.**  It can be visited unless it is too long, and who visits it is told
the node that has the id and no other, or that no node has it. -/
structure LeadsToNode (address id : String) : Prop where
  exists_visit : Utf8.size address.toList ≤ Url.Target.maxSize → ∃ r, IsVisit address r
  found (d : Desk) (m : Moment) (c : Catalogue) (n : Node) (r : Request) :
    n ∈ c.nodes → n.id = id → IsVisit address r →
      let reply := (d.handle m c r).reply
      reply.status = 200 ∧ reply.header? "content-type" = some "application/json" ∧ reply.body = n.text ∧
        Json.document Node.reader reply.body.toList = .ok n.carried ∧ ∀ x ∈ c.nodes, x.text = reply.body → x = n
  missing (d : Desk) (m : Moment) (c : Catalogue) (r : Request) :
    (∀ n ∈ c.nodes, n.id ≠ id) → IsVisit address r →
      let reply := (d.handle m c r).reply
      reply.status = 404 ∧ reply.header? "content-type" = some "application/json" ∧
        reply.body = (Json.Value.object [("error", .string ("Node not found: " ++ id)), ("code", .natural 404)]).text

theorem leads_nodeUrl (id : String) : LeadsToNode (Url.Resolver.nodeUrl {} id) id := by
  have ha := Url.Resolver.toList_nodeUrl {} id
  have hlookup : ∀ {r}, IsVisit (Url.Resolver.nodeUrl {} id) r → IsLookup .node id r := fun h =>
    isLookup_of_isVisit ha (by decide) (by decide) h (Route.ofPath?_node id)
  refine ⟨exists_isVisit ha (by decide) (by decide), fun d m c n r hn hid h => ?_, fun d m c r hnone h => ?_⟩
  · have hreply : nodeReply c id = .json 200 n.toJson := by
      unfold nodeReply
      rw [Catalogue.get?_eq_some_iff.2 ⟨hn, hid⟩]
    rw [d.handle_node m c (hlookup h), hreply]
    exact ⟨rfl, rfl, rfl, n.document_text, fun x hx => eq_of_text hn hx⟩
  · have hreply : nodeReply c id = refusal (.nodeNotFound id) := by
      unfold nodeReply
      rw [Catalogue.get?_eq_none_iff.2 hnone]
    rw [d.handle_node m c (hlookup h), hreply]
    exact ⟨rfl, rfl, rfl⟩

/-- **Every link to a node leads to it.**  In each row of a listing with the usual prefixes, the first cell behind the
checkbox, if there is one, has one link, to the node of the row, and the cells of the parent and the root have one to
each of them, if they are given.  These links lead to what they name, and different ids have different addresses. -/
theorem node_links_lead :
    let links : Url.Resolver := {}
    (∀ (pages : View.PageLinks) (style : Calendar.DateStyle) (page : Page) (showTitle : Bool)
      (form : Option View.Selection) (site title : String),
      let v : View.Listing := ⟨links, pages, style⟩
      let guid := if form.isSome then 1 else 0
      let parent := if showTitle then guid + 2 else guid + 1
      List.Forall₂ (fun n cells => cells[guid]? = some [links.nodeUrl n.id] ∧
          cells[parent]? = some (n.parent.toList.map links.nodeUrl) ∧
          cells[parent + 1]? = some (n.root.toList.map links.nodeUrl))
        page.nodes (View.Grid.read (Html.render (View.layout site title (v.pieces page showTitle form))))) ∧
    (∀ id, LeadsToNode (links.nodeUrl id) id) ∧ Function.Injective links.nodeUrl := by
  intro links
  refine ⟨fun pages style page showTitle form site title => ?_, leads_nodeUrl, fun _ _ => links.nodeUrl_inj⟩
  intro v guid parent
  rw [View.Grid.read_listing, List.forall₂_map_right_iff, List.forall₂_same]
  intro n _
  unfold View.Listing.addresses
  cases form <;> cases showTitle <;> exact ⟨rfl, rfl, rfl⟩

/-- An id that looks like a path with a query and a fragment, and dots for a parent that there is not. -/
theorem node_links_lead_of_odd_ids :
    let n : Node := { id := "a/b?%2F#\u00e9", created := .epoch, parent := some ".." }
    let c : Catalogue := ⟨[n], by decide, by decide⟩
    ∃ r s, IsVisit (Url.Resolver.nodeUrl {} n.id) r ∧ IsVisit (Url.Resolver.nodeUrl {} "..") s ∧
      ∀ (d : Desk) (m : Moment),
        (d.handle m c r).reply.body = n.text ∧ (d.handle m c s).reply.status = 404 := by
  intro n c
  have hn := node_links_lead.2.1 n.id
  have hdots := node_links_lead.2.1 ".."
  obtain ⟨r, hr⟩ := hn.exists_visit (by decide +kernel)
  obtain ⟨s, hs⟩ := hdots.exists_visit (by decide +kernel)
  refine ⟨r, s, hr, hs, fun d m => ⟨?_, ?_⟩⟩
  · exact (hn.found d m c n r List.mem_cons_self rfl hr).2.2.1
  · exact (hdots.missing d m c s (by decide) hs).1

/-! ## Users -/

/-- **An address that leads to the nodes of a user.**  It can be visited unless it is too long, and who visits it is told
the nodes that the user contributes to, each once and in their order, and how many they are. -/
structure LeadsToUser (address id : String) : Prop where
  exists_visit : Utf8.size address.toList ≤ Url.Target.maxSize → ∃ r, IsVisit address r
  found (d : Desk) (m : Moment) (c : Catalogue) (n : Node) (u : User) (r : Request) :
    n ∈ c.nodes → u ∈ n.contributors → u.id = id → IsVisit address r →
      let reply := (d.handle m c r).reply
      ∃ ns : List Node,
        reply.status = 200 ∧ reply.header? "content-type" = some "application/json" ∧
        reply.body = (Json.Value.object [("id", .string id), ("nodes", .list (ns.map Node.toJson)),
          ("total", .natural ns.length)]).text ∧
        ns.Sublist c.nodes ∧ ns.Nodup ∧ (∀ x, x ∈ ns ↔ x ∈ c.nodes ∧ ∃ u ∈ x.contributors, u.id = id) ∧ n ∈ ns

theorem leads_userUrl (id : String) : LeadsToUser (Url.Resolver.userUrl {} id) id := by
  have ha := Url.Resolver.toList_userUrl {} id
  refine ⟨exists_isVisit ha (by decide) (by decide), fun d m c n u r hn hu hid h => ⟨c.ofUser id, ?_⟩⟩
  have hlookup : IsLookup .user id r := isLookup_of_isVisit ha (by decide) (by decide) h (Route.ofPath?_user id)
  have hmem : n ∈ c.ofUser id := Catalogue.mem_ofUser_iff.2 ⟨hn, u, hu, hid⟩
  have hsub : (c.ofUser id).Sublist c.nodes := List.filter_sublist
  have hreply : userReply c id = .json 200 (.object [("id", .string id),
      ("nodes", .list ((c.ofUser id).map Node.toJson)), ("total", .natural (c.ofUser id).length)]) := by
    unfold userReply
    dsimp only
    rw [if_neg (by simpa using List.ne_nil_of_mem hmem)]
  rw [d.handle_user m c hlookup, hreply]
  exact ⟨rfl, rfl, rfl, hsub, c.nodup_nodes.sublist hsub, fun x => Catalogue.mem_ofUser_iff, hmem⟩

/-- **Every link to a contributor leads to their nodes.**  In each row of a listing with the usual prefixes, the last
cell has a link to each contributor of the node, in their order, and these links lead to what they name. -/
theorem user_links_lead :
    let links : Url.Resolver := {}
    (∀ (pages : View.PageLinks) (style : Calendar.DateStyle) (page : Page) (showTitle : Bool)
      (form : Option View.Selection) (site title : String),
      let v : View.Listing := ⟨links, pages, style⟩
      List.Forall₂ (fun n cells => cells.getLast? = some (n.contributors.map fun u => links.userUrl u.id))
        page.nodes (View.Grid.read (Html.render (View.layout site title (v.pieces page showTitle form))))) ∧
    ∀ id, LeadsToUser (links.userUrl id) id := by
  intro links
  refine ⟨fun pages style page showTitle form site title => ?_, leads_userUrl⟩
  intro v
  rw [View.Grid.read_listing, List.forall₂_map_right_iff, List.forall₂_same]
  intro n _
  unfold View.Listing.addresses
  rw [List.getLast?_append]
  rfl

/-- A user whose id looks like the path of a page, on one of two nodes, and one without an id, on both. -/
theorem user_links_lead_of_odd_ids :
    let a : Node := { id := "a", created := .epoch, contributors := [⟨"spam/"⟩, ⟨""⟩] }
    let b : Node := { id := "b", created := .epoch, contributors := [⟨""⟩] }
    let c : Catalogue := ⟨[a, b], by decide, by decide⟩
    ∃ r s, IsVisit (Url.Resolver.userUrl {} "spam/") r ∧ IsVisit (Url.Resolver.userUrl {} "") s ∧
      ∀ (d : Desk) (m : Moment), (d.handle m c r).reply.status = 200 ∧ (d.handle m c s).reply.status = 200 ∧
        ∃ ns : List Node, ns.Sublist [a, b] ∧ a ∈ ns ∧ b ∉ ns ∧ (d.handle m c r).reply.body =
          (Json.Value.object [("id", .string "spam/"), ("nodes", .list (ns.map Node.toJson)),
            ("total", .natural ns.length)]).text := by
  intro a b c
  have hspam := user_links_lead.2 "spam/"
  have hempty := user_links_lead.2 ""
  obtain ⟨r, hr⟩ := hspam.exists_visit (by decide +kernel)
  obtain ⟨s, hs⟩ := hempty.exists_visit (by decide +kernel)
  refine ⟨r, s, hr, hs, fun d m => ?_⟩
  obtain ⟨ns, hstatus, -, hbody, hsub, -, hmem, ha⟩ :=
    hspam.found d m c a ⟨"spam/"⟩ r List.mem_cons_self List.mem_cons_self rfl hr
  obtain ⟨-, hstatus', -⟩ := hempty.found d m c b ⟨""⟩ s (List.mem_cons_of_mem a List.mem_cons_self) List.mem_cons_self rfl hs
  refine ⟨hstatus, hstatus', ns, hsub, ha, fun hb => ?_, hbody⟩
  exact absurd ((hmem b).1 hb).2 (by decide)

end Desk
end Http
end NodeDesk
