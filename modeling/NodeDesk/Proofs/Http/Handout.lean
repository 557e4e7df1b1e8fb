import NodeDesk.Proofs.Catalogue.Marks
import NodeDesk.Proofs.Catalogue.Pages
import NodeDesk.Proofs.Http.Handle
import NodeDesk.Proofs.Http.ListQuery
import NodeDesk.Proofs.Token.Cookie
import NodeDesk.Proofs.View.Sheet
/-!
# Handout — what the desk sends for the form

The listing with the form goes out with a token in a hidden field and in a cookie, and it is sent exactly for a page
that there is (`exists_handsOut`).  The document shows neither marks nor the token in any other place
(`pieces_markAll`, `render_spamPieces`), so two documents of a page differ by their tokens alone.
-/
namespace NodeDesk

/-! ## The document -/

namespace View

open Html (Piece)

theorem Listing.row_markAmong (v : Listing) (showTitle selectable : Bool) (ids : List String) (n : Node) :
    v.row showTitle selectable (Catalogue.markAmong ids n) = v.row showTitle selectable n := by
  unfold Catalogue.markAmong
  split <;> rfl

/-- **A page looks the same after any marking.** -/
theorem Listing.pieces_markAll (v : Listing) (c : Catalogue) (ids : List String) (number perPage : Nat)
    (showTitle : Bool) (form : Option Selection) :
    v.pieces ((c.markAll ids).pageAt number perPage) showTitle form =
      v.pieces (c.pageAt number perPage) showTitle form := by
  have hstatus : ((c.markAll ids).pageAt number perPage).status = (c.pageAt number perPage).status := by
    unfold Catalogue.pageAt
    rw [c.size_markAll]
  have hnodes : ((c.markAll ids).pageAt number perPage).nodes =
      (c.pageAt number perPage).nodes.map (Catalogue.markAmong ids) := by
    show ((c.nodes.map _).drop _).take _ = ((c.nodes.drop _).take _).map _
    rw [← List.map_drop, ← List.map_take]
  have hrows : ∀ (selectable : Bool) (ns : List Node),
      (ns.map (Catalogue.markAmong ids)).flatMap (v.row showTitle selectable) =
        ns.flatMap (v.row showTitle selectable) := fun selectable ns => by
    rw [List.flatMap_map]
    exact congrArg ns.flatMap (funext (v.row_markAmong showTitle selectable ids))
  unfold Listing.pieces Listing.table
  rw [hstatus, hnodes, hrows]

/-- The token stands in one place of a listing and decides nothing else. -/
theorem Listing.pieces_token (v : Listing) (page : Page) (showTitle : Bool) (action : String) :
    ∃ ps qs, ∀ token, v.pieces page showTitle (some ⟨action, token⟩) = ps ++ .text token :: qs := by
  have hclosing : ∀ token, Selection.closing ⟨action, token⟩ =
      (Selection.closing ⟨action, ""⟩).take 4 ++ .text token :: (Selection.closing ⟨action, ""⟩).drop 5 := fun _ => rfl
  refine ⟨[.markup "<div class=\"node-list\">\n"] ++ v.pages.pieces page.status ++ [.markup "\n"]
    ++ Selection.opening ⟨action, ""⟩ ++ v.table showTitle true page.nodes ++ (Selection.closing ⟨action, ""⟩).take 4,
    (Selection.closing ⟨action, ""⟩).drop 5 ++ [.markup "</div>"], fun token => ?_⟩
  unfold Listing.pieces
  dsimp only
  rw [hclosing token]
  simp only [List.append_assoc, List.cons_append]
  rfl

end View

namespace Token.Cookie

theorem escapeChars_of_isLetter : ∀ {cs : List Char}, (∀ c ∈ cs, IsLetter c) → Html.escapeChars cs = cs
  | [], _ => rfl
  | c :: cs, h => by
    have hc : Html.escapeChar c = [c] := by
      have hletter := h c List.mem_cons_self
      unfold Html.escapeChar
      split
      all_goals first | rfl | exact absurd hletter (by unfold IsLetter; decide)
    rw [Html.escapeChars_cons, hc, escapeChars_of_isLetter fun x hx => h x (List.mem_cons_of_mem c hx)]
    rfl

end Token.Cookie

namespace Http

open Catalogue (HasPage)
open View (Sheet)

namespace ListQuery

theorem read?_address_nodes {number : Nat} (h : number ≤ maxWord) (title : Bool) :
    Url.Target.read? (address nodesPath number title).toList = some ⟨nodesPath.toList, some (asked number title)⟩ :=
  read?_address h title (by decide) (List.all_iff_forall_prop.1 (by decide)) (by decide)

theorem read?_address_spam {number : Nat} (h : number ≤ maxWord) (title : Bool) :
    Url.Target.read? (address spamPath number title).toList = some ⟨spamPath.toList, some (asked number title)⟩ :=
  read?_address h title (by decide) (List.all_iff_forall_prop.1 (by decide)) (by decide)

theorem read?_address_confirm {number : Nat} (h : number ≤ maxWord) (title : Bool) :
    Url.Target.read? (address confirmPath number title).toList =
      some ⟨confirmPath.toList, some (asked number title)⟩ :=
  read?_address h title (by decide) (List.all_iff_forall_prop.1 (by decide)) (by decide)

end ListQuery

/-- The value of the first header of a name. -/
def Reply.header? (r : Reply) (name : String) : Option String := (r.headers.find? (·.1 = name)).map Prod.snd

namespace Desk

variable (d : Desk) (m : Moment) (c : Catalogue)

/-! ## Pages -/

/-- The links of a listing at a path. -/
def linksOf (path : String) (title : Bool) : View.PageLinks := ⟨path, [("show_title", if title then "true" else "false")]⟩

/-- The document of a page. -/
def listingPieces (d : Desk) (path heading : String) (page : Page) (title : Bool) (form : Option View.Selection) :
    List Html.Piece :=
  View.layout View.siteName heading
    (({ d.listing with pages := linksOf path title } : View.Listing).pieces page title form)

theorem listingReply_of_hasPage {path heading : String} {q : ListQuery} {form : Option View.Selection}
    (h : HasPage c.size (q.page.getD 1) d.perPage) :
    d.listingReply c path heading q form =
      .ok (.html (d.listingPieces path heading (c.pageAt (q.page.getD 1) d.perPage) (q.showTitle.getD d.showTitle)
        form)) := by
  unfold listingReply
  dsimp only
  rw [Catalogue.page?_of_hasPage h]
  rfl

/-- **A page is shown only if it was asked for and is there.** -/
theorem asks_of_status {r : Request} {reply : ListQuery → Reply}
    (hreply : ∀ q, (reply q).status = if (c.page? (q.page.getD 1) d.perPage).isSome then 200 else 404)
    (h : (withQuery r c fun q => ⟨reply q, [], c⟩).reply.status = 200) :
    ∃ q, ListQuery.read r.target.query = .ok q ∧ HasPage c.size (q.page.getD 1) d.perPage := by
  cases hq : ListQuery.read r.target.query with
  | error f =>
    simp only [withQuery, hq] at h
    exact absurd (show 400 = 200 from h) (by decide)
  | ok q =>
    rw [withQuery_of_ok c hq] at h
    refine ⟨q, rfl, Classical.byContradiction fun hn => ?_⟩
    have hstatus := hreply q
    rw [Catalogue.page?_eq_none_iff.2 hn, show (reply q).status = 200 from h] at hstatus
    exact absurd hstatus (by decide)

/-! ## Getting the form -/

/-- The document with the form. -/
def spamPieces (d : Desk) (page : Page) (number : Nat) (title : Bool) (token : String) : List Html.Piece :=
  d.listingPieces spamPath "Flag Spam" page title (some ⟨ListQuery.address confirmPath number title, token⟩)

theorem spamReply_of_hasPage {q : ListQuery} (h : HasPage c.size (q.page.getD 1) d.perPage) :
    d.spamReply m c q =
      (Reply.html (d.spamPieces (c.pageAt (q.page.getD 1) d.perPage) (q.page.getD 1) (q.showTitle.getD d.showTitle)
        (d.guard.issue m.now m.nonce))).withHeader "set-cookie"
          (Token.Cookie.header d.guard (d.guard.issue m.now m.nonce) spamPath) := by
  unfold spamReply
  dsimp only
  rw [d.listingReply_of_hasPage c h, ListQuery.append_text]
  rfl

theorem handle_eq_of_get {r : Request} (hm : r.method = "GET") (hp : r.target.path = spamPath.toList) :
    d.handle m c r =
      let o := withQuery r c fun q => ⟨d.spamReply m c q, [], c⟩
      ⟨{ o.reply with headers := o.reply.headers ++ d.granted r }, o.events ++ [logged m r o.reply.status],
        o.catalogue⟩ := by
  have hr : Route.ofPath? r.target.path = some .spam := by rw [hp, Route.ofPath?_spam]
  exact d.handle_of_get m c hr (by decide) hm

/-- **What is sent back for a request of the form**, if its query is read. -/
theorem handle_get {r : Request} {q : ListQuery} (hm : r.method = "GET") (hp : r.target.path = spamPath.toList)
    (hq : ListQuery.read r.target.query = .ok q) :
    (d.handle m c r).reply = { d.spamReply m c q with headers := (d.spamReply m c q).headers ++ d.granted r } ∧
      (d.handle m c r).catalogue = c := by
  rw [d.handle_eq_of_get m c hm hp, withQuery_of_ok c hq]
  exact ⟨rfl, rfl⟩

/-- **A page that there is is sent back** with its document and its cookie. -/
theorem handle_get_of_hasPage {r : Request} {q : ListQuery} (hm : r.method = "GET")
    (hp : r.target.path = spamPath.toList) (hq : ListQuery.read r.target.query = .ok q)
    (h : HasPage c.size (q.page.getD 1) d.perPage) :
    let token := d.guard.issue m.now m.nonce
    let reply := (d.handle m c r).reply
    reply.status = 200 ∧
      reply.body = Html.render (d.spamPieces (c.pageAt (q.page.getD 1) d.perPage) (q.page.getD 1)
        (q.showTitle.getD d.showTitle) token) ∧
      reply.header? "set-cookie" = some (Token.Cookie.header d.guard token spamPath) := by
  intro token reply
  have hreply : reply = _ := (d.handle_get m c hm hp hq).1
  rw [d.spamReply_of_hasPage m c h] at hreply
  rw [hreply]
  exact ⟨rfl, rfl, rfl⟩

theorem read?_spamPieces (page : Page) (number : Nat) (title : Bool) (token : String) :
    Sheet.read? (Html.render (d.spamPieces page number title token)) =
      some ⟨ListQuery.address confirmPath number title, page.nodes.map Node.id, [(View.tokenField, token)]⟩ :=
  Sheet.read?_listing _ page title _ _ _

/-- The token stands in one place of the document, as it is. -/
theorem render_spamPieces (page : Page) (number : Nat) (title : Bool) :
    ∃ pre rest, ∀ token : String, (∀ c ∈ token.toList, Token.Cookie.IsLetter c) →
      Html.render (d.spamPieces page number title token) = pre ++ token ++ rest := by
  obtain ⟨ps, qs, hpieces⟩ := View.Listing.pieces_token
    { d.listing with pages := linksOf spamPath title } page title (ListQuery.address confirmPath number title)
  obtain ⟨head, foot, hlayout⟩ : ∃ head foot, ∀ body,
      View.layout View.siteName "Flag Spam" body = head ++ body ++ foot := ⟨_, _, fun _ => rfl⟩
  refine ⟨String.ofList (Html.chars (head ++ ps)), String.ofList (Html.chars (qs ++ foot)), fun token ht => ?_⟩
  unfold spamPieces listingPieces Html.render
  rw [hlayout, hpieces token, ← String.toList_inj]
  simp only [String.toList_append, String.toList_ofList, Html.chars_append, Html.chars_cons, Html.Piece.chars,
    Token.Cookie.escapeChars_of_isLetter ht, List.append_assoc]

/-- **What comes with a form that is sent back**: a token in the document and in the cookie, which is accepted as long
as it lives. -/
structure HandsOut (d : Desk) (c : Catalogue) (m : Moment) (r : Request) (q : ListQuery) (token setCookie : String) :
    Prop where
  query : ListQuery.read r.target.query = .ok q
  page : HasPage c.size (q.page.getD 1) d.perPage
  body : (d.handle m c r).reply.body = Html.render (d.spamPieces (c.pageAt (q.page.getD 1) d.perPage) (q.page.getD 1)
    (q.showTitle.getD d.showTitle) token)
  cookie : (d.handle m c r).reply.header? "set-cookie" = some setCookie
  sent : Token.Cookie.sent setCookie = "csrftoken=" ++ token
  letters : ∀ c ∈ token.toList, Token.Cookie.IsLetter c
  ne_empty : token ≠ ""
  lives : ∀ later : Calendar.Instant, m.now.seconds ≤ later.seconds → later.seconds ≤ m.now.seconds + d.guard.maxAge →
    d.guard.accepts token later = true
  kept : (d.handle m c r).catalogue = c

theorem exists_handsOut {r : Request} (hnonce : m.nonce.length = 16) (hm : r.method = "GET")
    (hp : r.target.path = spamPath.toList) (h : (d.handle m c r).reply.status = 200) :
    ∃ q token setCookie, HandsOut d c m r q token setCookie := by
  have hstatus : (withQuery r c fun q => ⟨d.spamReply m c q, [], c⟩).reply.status = 200 := by
    rwa [d.handle_eq_of_get m c hm hp] at h
  obtain ⟨q, hq, hpage⟩ := d.asks_of_status c (d.status_spamReply m c) hstatus
  have hcat := (d.handle_get m c hm hp hq).2
  obtain ⟨-, hbody, hcookie⟩ := d.handle_get_of_hasPage m c hm hp hq hpage
  have hletters : ∀ c ∈ (d.guard.issue m.now m.nonce).toList, Token.Cookie.IsLetter c := fun _ =>
    Token.Cookie.isLetter_of_mem_issue
  refine ⟨q, d.guard.issue m.now m.nonce, _, hq, hpage, hbody, hcookie, Token.Cookie.sent_header _ _ hletters, hletters,
    d.guard.issue_ne_empty m.now m.nonce, fun later hearly hlate => ?_, hcat⟩
  have hnil : m.nonce ≠ [] := fun e => by rw [e] at hnonce; cases hnonce
  rw [d.guard.accepts_issue m.now hnil]
  have hskew : Token.maxSkew = 60 := rfl
  simp only [Token.Guard.fresh, Bool.and_eq_true, decide_eq_true_eq]
  constructor <;> omega

end Desk
end Http
end NodeDesk
