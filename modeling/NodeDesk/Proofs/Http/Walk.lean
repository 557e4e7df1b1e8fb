import NodeDesk.Proofs.Catalogue.Partition
import NodeDesk.Proofs.Http.RoundTrip
import NodeDesk.Proofs.View.Survey
/-!
# Walk — from page to page by the links

A browser knows the pages of a listing by their links alone.  Every link that a page shows leads to a page of the same
listing, whatever is marked in between (`Shows.follow`), so from the first page the links to the next one lead through
all pages, and those to the previous one lead back (`follow_next`, `follow_previous`).
-/
namespace NodeDesk
namespace Http

open Catalogue (HasPage)
open View (Survey)

/-- The classes and addresses of the links that a page has, of so many. -/
def ways (path : String) (number pages : Nat) (title : Bool) : List (String × String) :=
  (if 1 < number then
    [("first", ListQuery.address path 1 title), ("previous", ListQuery.address path (number - 1) title)] else [])
  ++ if number < pages then
    [("next", ListQuery.address path (number + 1) title), ("last", ListQuery.address path pages title)] else []

theorem link?_next (path : String) (number pages : Nat) (title : Bool) (rows : List String) :
    (⟨ways path number pages title, rows⟩ : Survey).link? "next" =
      if number < pages then some (ListQuery.address path (number + 1) title) else none := by
  unfold ways Survey.link?
  split <;> split <;> rfl

theorem link?_previous (path : String) (number pages : Nat) (title : Bool) (rows : List String) :
    (⟨ways path number pages title, rows⟩ : Survey).link? "previous" =
      if 1 < number then some (ListQuery.address path (number - 1) title) else none := by
  unfold ways Survey.link?
  split <;> split <;> rfl

def Outcome.survey (o : Outcome) : Survey := Survey.read o.reply.body

namespace Desk

theorem href_linksOf (path : String) (title : Bool) (n : Nat) :
    (linksOf path title).href n = ListQuery.address path n title := by
  unfold View.PageLinks.href linksOf ListQuery.address
  rw [← String.toList_inj]
  simp [View.PageLinks.more]

/-- **The links of a page** are those that its number tells. -/
theorem shown_linksOf (path : String) (title : Bool) (s : PageStatus) :
    (linksOf path title).shown s = ways path s.number (max 1 (s.total ⌈/⌉ s.perPage)) title := by
  unfold View.PageLinks.shown ways PageStatus.previous? PageStatus.next? PageStatus.hasPrevious PageStatus.hasNext
  rw [s.pages_eq]
  by_cases hback : 1 < s.number <;> by_cases hforth : s.number < max 1 (s.total ⌈/⌉ s.perPage) <;>
    simp [hback, hforth, href_linksOf]

variable (d : Desk) (m : Moment) (c : Catalogue)

/-- **A reply that shows a page of a listing**, and leaves the nodes as they are but for marks. -/
structure Shows (d : Desk) (c : Catalogue) (path : String) (number : Nat) (title : Bool) (o : Outcome) : Prop where
  status : o.reply.status = 200
  body : ∃ heading form,
    o.reply.body = Html.render (d.listingPieces path heading (c.pageAt number d.perPage) title form)
  catalogue : ∃ ids, o.catalogue = c.markAll ids

theorem render_listingPieces_ne_empty (path heading : String) (page : Page) (title : Bool)
    (form : Option View.Selection) : Html.render (d.listingPieces path heading page title form) ≠ "" := fun h => by
  have hchars := congrArg String.toList h
  unfold listingPieces Html.render View.layout at hchars
  rw [String.toList_ofList, Html.chars_append, Html.chars_append] at hchars
  have hhead := (List.append_eq_nil_iff.1 (List.append_eq_nil_iff.1 hchars).1).1
  rw [Html.chars_cons, List.append_eq_nil_iff] at hhead
  exact absurd hhead.1 (by decide)

theorem survey_of_shows {d : Desk} {c : Catalogue} {path : String} {number : Nat} {title : Bool} {o : Outcome}
    (h : Shows d c path number title o) :
    o.survey = ⟨ways path number (max 1 (c.size ⌈/⌉ d.perPage)) title,
      (c.pageAt number d.perPage).nodes.map Node.id⟩ := by
  obtain ⟨heading, form, hbody⟩ := h.body
  rw [Outcome.survey, hbody, listingPieces, Survey.read_listing, shown_linksOf]
  rfl

theorem listingReply_markAll {path heading : String} {q : ListQuery} {form : Option View.Selection} (ids : List String)
    (h : HasPage c.size (q.page.getD 1) d.perPage) :
    d.listingReply (c.markAll ids) path heading q form =
      .ok (.html (d.listingPieces path heading (c.pageAt (q.page.getD 1) d.perPage) (q.showTitle.getD d.showTitle)
        form)) := by
  rw [← c.size_markAll ids] at h
  rw [d.listingReply_of_hasPage _ h]
  unfold listingPieces
  rw [View.Listing.pieces_markAll]

/-- **A page that there is is shown**, by either listing. -/
theorem shows_of_get {path : String} {r : Request} {q : ListQuery} (hpath : path = nodesPath ∨ path = spamPath)
    (hp : r.target.path = path.toList) (hm : r.method = "GET") (hq : ListQuery.read r.target.query = .ok q)
    (ids : List String) (h : HasPage c.size (q.page.getD 1) d.perPage) :
    Shows d c path (q.page.getD 1) (q.showTitle.getD d.showTitle) (d.handle m (c.markAll ids) r) := by
  rcases hpath with rfl | rfl
  · have hr : Route.ofPath? r.target.path = some .nodes := by rw [hp, Route.ofPath?_nodes]
    rw [d.handle_of_get m (c.markAll ids) hr (by decide) hm, page, withQuery_of_ok _ hq]
    unfold nodesReply
    rw [d.listingReply_markAll c ids h]
    exact ⟨rfl, ⟨_, _, rfl⟩, ⟨ids, rfl⟩⟩
  · have hr : Route.ofPath? r.target.path = some .spam := by rw [hp, Route.ofPath?_spam]
    rw [d.handle_of_get m (c.markAll ids) hr (by decide) hm, page, withQuery_of_ok _ hq]
    unfold spamReply
    dsimp only
    rw [d.listingReply_markAll c ids h]
    exact ⟨rfl, ⟨_, _, rfl⟩, ⟨ids, rfl⟩⟩

/-- **A page that was got** is the one that was asked for. -/
theorem shows_of_status {path : String} {r : Request} (hpath : path = nodesPath ∨ path = spamPath)
    (hp : r.target.path = path.toList) (hm : r.method = "GET") (hs : (d.handle m c r).reply.status = 200) :
    ∃ q, ListQuery.read r.target.query = .ok q ∧ HasPage c.size (q.page.getD 1) d.perPage ∧
      Shows d c path (q.page.getD 1) (q.showTitle.getD d.showTitle) (d.handle m c r) := by
  have hasks : ∃ q, ListQuery.read r.target.query = .ok q ∧ HasPage c.size (q.page.getD 1) d.perPage := by
    rcases hpath with rfl | rfl
    · have hr : Route.ofPath? r.target.path = some .nodes := by rw [hp, Route.ofPath?_nodes]
      rw [d.handle_of_get m c hr (by decide) hm] at hs
      exact d.asks_of_status c (d.status_nodesReply c) hs
    · have hr : Route.ofPath? r.target.path = some .spam := by rw [hp, Route.ofPath?_spam]
      rw [d.handle_of_get m c hr (by decide) hm] at hs
      exact d.asks_of_status c (d.status_spamReply m c) hs
  obtain ⟨q, hq, hpage⟩ := hasks
  have hshows := d.shows_of_get m c hpath hp hm hq [] hpage
  rw [c.markAll_nil] at hshows
  exact ⟨q, hq, hpage, hshows⟩

/-- Of a listing that is not got, but asked about, nothing is sent. -/
theorem body_ne_empty_iff {path : String} {r : Request} (hpath : path = nodesPath ∨ path = spamPath)
    (hp : r.target.path = path.toList) (hs : (d.handle m c r).reply.status = 200) :
    (d.handle m c r).reply.body ≠ "" ↔ r.method = "GET" := by
  constructor
  · intro hb
    rcases hpath with rfl | rfl
    · exact d.get_of_body m c (by rw [hp, Route.ofPath?_nodes]) (by decide) hb
    · exact d.get_of_body m c (by rw [hp, Route.ofPath?_spam]) (by decide) hb
  · intro hm
    obtain ⟨q, -, -, hshows⟩ := d.shows_of_status m c hpath hp hm hs
    obtain ⟨heading, form, hbody⟩ := hshows.body
    rw [hbody]
    exact d.render_listingPieces_ne_empty _ _ _ _ _

/-! ## Following links -/

/-- How a link is followed: what is handled before, when it is followed, and with which headers and body. -/
structure Attempt where
  between : List (Moment × Request)
  moment : Moment
  headers : List (String × Bytes)
  body : Bytes

/-- **Follows the links of a class** as long as there are any, and gives all that was met. -/
def follow (d : Desk) (style : String) : List Attempt → Outcome → List Outcome
  | [], o => [o]
  | a :: as, o =>
    o :: match (o.survey.link? style).bind fun address => Url.Target.read? address.toList with
      | none => []
      | some target =>
        d.follow style as (d.handle a.moment (d.after o.catalogue a.between) ⟨"GET", target, a.headers, a.body⟩)

section

variable {d c} {path : String} {title : Bool} {number : Nat} {o : Outcome}
variable (hpath : path = nodesPath ∨ path = spamPath)
include hpath

theorem read?_address_path {n : Nat} (hn : n ≤ maxWord) (title : Bool) :
    Url.Target.read? (ListQuery.address path n title).toList = some ⟨path.toList, some (ListQuery.asked n title)⟩ := by
  rcases hpath with rfl | rfl
  · exact ListQuery.read?_address_nodes hn title
  · exact ListQuery.read?_address_spam hn title

/-- **A link that is followed leads to its page**, whatever was handled in between. -/
theorem Shows.follow (h : Shows d c path number title o) {n : Nat} (hn : n ≤ maxWord)
    (hpage : HasPage c.size n d.perPage) (between : List (Moment × Request)) (later : Moment) (visit : Request)
    (hm : visit.method = "GET") (ht : visit.target = ⟨path.toList, some (ListQuery.asked n title)⟩) :
    Shows d c path n title (d.handle later (d.after o.catalogue between) visit) := by
  obtain ⟨ids, hids⟩ := h.catalogue
  obtain ⟨more, hmore⟩ := d.after_eq_markAll o.catalogue between
  have hq : ListQuery.read visit.target.query = .ok ⟨some n, some title⟩ := by
    rw [ht]
    exact ListQuery.read_asked hn title
  rw [hmore, hids, c.markAll_markAll]
  exact d.shows_of_get later c hpath (by rw [ht]) hm hq (ids ++ more) hpage

end

theorem follow_of_none {style : String} {o : Outcome} (as : List Attempt)
    (h : o.survey.link? style = none) : d.follow style as o = [o] := by
  cases as with
  | nil => rfl
  | cons a as => rw [follow, h]; rfl

theorem follow_of_some {style address : String} {o : Outcome} {target : Url.Target} (a : Attempt) (as : List Attempt)
    (h : o.survey.link? style = some address) (ht : Url.Target.read? address.toList = some target) :
    d.follow style (a :: as) o =
      o :: d.follow style as
        (d.handle a.moment (d.after o.catalogue a.between) ⟨"GET", target, a.headers, a.body⟩) := by
  rw [follow, h, Option.bind_some, ht]

section

variable {d c} {path : String} {title : Bool}
variable (hpath : path = nodesPath ∨ path = spamPath) (hc : c.size ≤ maxWord) (hp : 0 < d.perPage)
include hpath hc hp

/-- **The links to the next page** lead through all that come. -/
theorem follow_next (k : Nat) {number : Nat} {o : Outcome} {as : List Attempt} (h : Shows d c path number title o)
    (hn : 1 ≤ number) (hk : number + k = max 1 (c.size ⌈/⌉ d.perPage)) (has : k ≤ as.length) :
    List.Forall₂ (fun n o => Shows d c path n title o) (List.range' number (k + 1)) (d.follow "next" as o) := by
  have hlink : o.survey.link? "next" =
      if number < number + k then some (ListQuery.address path (number + 1) title) else none := by
    rw [survey_of_shows h, link?_next, hk]
  induction k generalizing number o as with
  | zero =>
    rw [if_neg (by omega)] at hlink
    rw [d.follow_of_none as hlink]
    exact .cons h .nil
  | succ k ih =>
    have hword := Catalogue.pages_le_maxWord hc hp
    have hnext : number + 1 ≤ maxWord := by omega
    have hpage : HasPage c.size (number + 1) d.perPage := Catalogue.hasPage_iff.2 ⟨hp, by omega, by omega⟩
    rw [if_pos (by omega)] at hlink
    -- one step leads to the next page, and as many pages as before lie ahead in all
    cases as with
    | nil => cases has
    | cons a as =>
      have hshows := h.follow hpath hnext hpage a.between a.moment ⟨"GET", _, a.headers, a.body⟩ rfl rfl
      rw [d.follow_of_some a as hlink (read?_address_path hpath hnext title), List.range'_succ]
      refine .cons h (ih hshows (by omega) (by omega) (Nat.le_of_succ_le_succ has) ?_)
      rw [survey_of_shows hshows, link?_next, ← hk, Nat.add_right_comm number 1 k, Nat.add_assoc number k 1]

/-- **The links to the previous page** lead back to the first. -/
theorem follow_previous (k : Nat) {o : Outcome} {as : List Attempt} (h : Shows d c path (k + 1) title o)
    (hk : k + 1 ≤ max 1 (c.size ⌈/⌉ d.perPage)) (has : k ≤ as.length) :
    List.Forall₂ (fun n o => Shows d c path n title o) (List.range' 1 (k + 1)).reverse
      (d.follow "previous" as o) := by
  have hlink : o.survey.link? "previous" =
      if 1 < k + 1 then some (ListQuery.address path k title) else none := by
    rw [survey_of_shows h, link?_previous, Nat.add_sub_cancel]
  induction k generalizing o as with
  | zero =>
    rw [if_neg (by omega)] at hlink
    rw [d.follow_of_none as hlink]
    exact .cons h .nil
  | succ k ih =>
    have hword := Catalogue.pages_le_maxWord hc hp
    have hback : k + 1 ≤ maxWord := by omega
    have hpage : HasPage c.size (k + 1) d.perPage := Catalogue.hasPage_iff.2 ⟨hp, by omega, by omega⟩
    rw [if_pos (by omega)] at hlink
    cases as with
    | nil => cases has
    | cons a as =>
      have hshows := h.follow hpath hback hpage a.between a.moment ⟨"GET", _, a.headers, a.body⟩ rfl rfl
      rw [d.follow_of_some a as hlink (read?_address_path hpath hback title), List.range'_concat, List.reverse_append]
      refine .cons ?_ (ih hshows (by omega) (Nat.le_of_succ_le_succ has) ?_)
      · rw [Nat.one_mul, Nat.add_comm 1]
        exact h
      · rw [survey_of_shows hshows, link?_previous, Nat.add_sub_cancel]

end

/-! ## What was met -/

section

variable {d c} {path : String} {title : Bool}

theorem surveys_of_shows {ns : List Nat} {os : List Outcome}
    (h : List.Forall₂ (fun n o => Shows d c path n title o) ns os) :
    os.map Outcome.survey =
      ns.map fun n => ⟨ways path n (max 1 (c.size ⌈/⌉ d.perPage)) title, (c.pageAt n d.perPage).nodes.map Node.id⟩ := by
  induction h with
  | nil => rfl
  | cons h _ ih => rw [List.map_cons, List.map_cons, ih, survey_of_shows h]

theorem rows_of_shows {ns : List Nat} {os : List Outcome}
    (h : List.Forall₂ (fun n o => Shows d c path n title o) ns os) :
    os.flatMap (fun o => o.survey.rows) =
      (ns.flatMap fun n => (c.pageAt n d.perPage).nodes).map Node.id := by
  induction h with
  | nil => rfl
  | cons h _ ih => rw [List.flatMap_cons, List.flatMap_cons, List.map_append, ih, survey_of_shows h]

theorem mem_ways {number pages : Nat} {link : String × String} (hn : 1 ≤ number) (hle : number ≤ pages)
    (h : link ∈ ways path number pages title) :
    ∃ n, 1 ≤ n ∧ n ≤ pages ∧ link.2 = ListQuery.address path n title := by
  have hback : ∀ l ∈ (if 1 < number then
      [("first", ListQuery.address path 1 title), ("previous", ListQuery.address path (number - 1) title)] else []),
      ∃ n, 1 ≤ n ∧ n ≤ pages ∧ l.2 = ListQuery.address path n title := fun l hl => by
    split at hl
    · rcases List.mem_pair.1 hl with rfl | rfl
      · exact ⟨1, by omega, by omega, rfl⟩
      · exact ⟨number - 1, by omega, by omega, rfl⟩
    · cases hl
  have hforth : ∀ l ∈ (if number < pages then
      [("next", ListQuery.address path (number + 1) title), ("last", ListQuery.address path pages title)] else []),
      ∃ n, 1 ≤ n ∧ n ≤ pages ∧ l.2 = ListQuery.address path n title := fun l hl => by
    split at hl
    · rcases List.mem_pair.1 hl with rfl | rfl
      · exact ⟨number + 1, by omega, by omega, rfl⟩
      · exact ⟨pages, by omega, by omega, rfl⟩
    · cases hl
  exact (List.mem_append.1 h).elim (hback link) (hforth link)

theorem last_of_shows {k : Nat} {os : List Outcome}
    (h : List.Forall₂ (fun n o => Shows d c path n title o) (List.range' 1 (k + 1)) os) :
    ∃ last, os.getLast? = some last ∧ Shows d c path (k + 1) title last := by
  have hreverse := List.forall₂_reverse_iff.2 h
  rw [List.range'_concat, List.reverse_append, Nat.one_mul, Nat.add_comm 1] at hreverse
  cases hos : os.reverse with
  | nil => rw [hos] at hreverse; cases hreverse
  | cons last os' =>
    rw [hos] at hreverse
    cases hreverse with
    | cons hlast _ => exact ⟨last, by rw [← List.head?_reverse, hos, List.head?_cons], hlast⟩

/-- **From the first page the links lead through all pages and back.** -/
theorem walk_from_first (hpath : path = nodesPath ∨ path = spamPath) (hc : c.size ≤ maxWord) (hp : 0 < d.perPage)
    {o : Outcome} (h : Shows d c path 1 title o) (as : List Attempt) (has : max 1 (c.size ⌈/⌉ d.perPage) ≤ as.length) :
    let pages := max 1 (c.size ⌈/⌉ d.perPage)
    let met := d.follow "next" as o
    met.length = pages ∧ List.Forall₂ (fun n o => Shows d c path n title o) (List.range' 1 pages) met ∧
    met.flatMap (fun o => o.survey.rows) = c.nodes.map Node.id ∧
    ∃ last, met.getLast? = some last ∧ last.survey.link? "next" = none ∧
      ∀ back : List Attempt, pages ≤ back.length →
        (d.follow "previous" back last).map Outcome.survey = (met.map Outcome.survey).reverse := by
  intro pages met
  obtain ⟨k, hk⟩ : ∃ k, pages = k + 1 := ⟨pages - 1, by omega⟩
  have hmet : List.Forall₂ (fun n o => Shows d c path n title o) (List.range' 1 pages) met := by
    rw [hk]
    exact follow_next hpath hc hp k h (Nat.le_refl 1) (by omega) (by omega)
  have hrows := rows_of_shows hmet
  rw [Catalogue.flatMap_pageAt hp] at hrows
  have hlength := hmet.length_eq
  rw [List.length_range'] at hlength
  rw [hk] at hmet
  obtain ⟨last, hlast, hshows⟩ := last_of_shows hmet
  have hnone : last.survey.link? "next" = none := by
    rw [survey_of_shows hshows, link?_next, if_neg (by omega)]
  rw [← hk] at hmet
  refine ⟨hlength.symm, hmet, hrows, last, hlast, hnone, fun back hback => ?_⟩
  have hprevious : List.Forall₂ (fun n o => Shows d c path n title o) (List.range' 1 (k + 1)).reverse
      (d.follow "previous" back last) := follow_previous hpath hc hp k hshows (by omega) (by omega)
  rw [← hk] at hprevious
  rw [surveys_of_shows hprevious, surveys_of_shows hmet, List.map_reverse]

end

/-- **The links of a listing lead through all of it.**  A page that is got has the links to the first and the previous
page exactly if it is not the first, and those to the next and the last page exactly if it is not the last.  Whatever is
handled in between, each of them leads to its page of the same listing, with titles or without as before.  So from the
first page the links to the next one lead through all pages, on which all nodes stand in their order, and the links to
the previous one lead back through the same pages.  By another method no links are met, as nothing is sent. -/
theorem walk_by_links (d : Desk) (c : Catalogue) (hc : c.size ≤ maxWord) (path : String)
    (hpath : path = nodesPath ∨ path = spamPath) (m : Moment) (r : Request) (hp : r.target.path = path.toList)
    (hs : (d.handle m c r).reply.status = 200) :
    ((d.handle m c r).reply.body ≠ "" ↔ r.method = "GET") ∧
    (r.method = "GET" → ∃ q, ListQuery.read r.target.query = .ok q ∧
      let number := q.page.getD 1
      let title := q.showTitle.getD d.showTitle
      let pages := max 1 (c.size ⌈/⌉ d.perPage)
      let o := d.handle m c r
      Shows d c path number title o ∧ 1 ≤ number ∧ number ≤ pages ∧
      o.survey.links = ways path number pages title ∧
      (∀ link ∈ o.survey.links, ∃ n t, link.2 = ListQuery.address path n title ∧
        Url.Target.read? link.2.toList = some t ∧ t.path = path.toList ∧
        ListQuery.read t.query = .ok ⟨some n, some title⟩ ∧
        ∀ (between : List (Moment × Request)) (later : Moment) (visit : Request), IsVisit link.2 visit →
          Shows d c path n title (d.handle later (d.after o.catalogue between) visit)) ∧
      (number = 1 → ∀ as : List Attempt, pages ≤ as.length →
        let met := d.follow "next" as o
        met.length = pages ∧ List.Forall₂ (fun n o => Shows d c path n title o) (List.range' 1 pages) met ∧
        met.flatMap (fun o => o.survey.rows) = c.nodes.map Node.id ∧
        ∃ last, met.getLast? = some last ∧ last.survey.link? "next" = none ∧
          ∀ back : List Attempt, pages ≤ back.length →
            (d.follow "previous" back last).map Outcome.survey = (met.map Outcome.survey).reverse)) := by
  refine ⟨d.body_ne_empty_iff m c hpath hp hs, fun hm => ?_⟩
  obtain ⟨q, hq, hpage, hshows⟩ := d.shows_of_status m c hpath hp hm hs
  obtain ⟨hpos, hn, hle⟩ := Catalogue.hasPage_iff.1 hpage
  have hword := Catalogue.pages_le_maxWord hc hpos
  have hlinks : (d.handle m c r).survey.links =
      ways path (q.page.getD 1) (max 1 (c.size ⌈/⌉ d.perPage)) (q.showTitle.getD d.showTitle) := by
    rw [survey_of_shows hshows]
  refine ⟨q, hq, hshows, hn, hle, hlinks, fun link hlink => ?_, fun hfirst as has => ?_⟩
  · have hmem : link ∈ ways path (q.page.getD 1) (max 1 (c.size ⌈/⌉ d.perPage)) (q.showTitle.getD d.showTitle) := by
      rw [← hlinks]
      exact hlink
    obtain ⟨n, hn, hle, haddress⟩ := mem_ways hn hle hmem
    have hnword : n ≤ maxWord := Nat.le_trans hle hword
    have htarget := read?_address_path hpath hnword (q.showTitle.getD d.showTitle)
    refine ⟨n, ⟨path.toList, some (ListQuery.asked n (q.showTitle.getD d.showTitle))⟩, haddress, ?_, rfl,
      ListQuery.read_asked hnword _, ?_⟩
    · rw [haddress, htarget]
    intro between later visit hvisit
    have ht := hvisit.target
    rw [haddress, htarget] at ht
    exact hshows.follow hpath hnword (Catalogue.hasPage_iff.2 ⟨hpos, hn, hle⟩) between later visit hvisit.method
      (Option.some.inj ht).symm
  · rw [hfirst] at hshows
    exact walk_from_first hpath hc hpos hshows as has

/-- Three nodes on pages of two: the link to the next page leads to the third node. -/
theorem walk_of_three_nodes :
    let d : Desk := ⟨{}, ⟨[], 3600⟩, 2, true, none⟩
    let node (id : String) : Node := { id := id, created := .epoch }
    let c : Catalogue := ⟨[node "a", node "b", node "<c>"], by decide, by decide⟩
    let m : Moment := ⟨.epoch, [], "", 0⟩
    let r : Request := ⟨"GET", ⟨nodesPath.toList, none⟩, [], []⟩
    let met := d.follow "next" [⟨[], m, [], []⟩, ⟨[], m, [], []⟩] (d.handle m c r)
    (d.handle m c r).reply.status = 200 ∧ met.length = 2 ∧
      met.flatMap (fun o => o.survey.rows) = ["a", "b", "<c>"] := by
  intro d node c m r met
  have hc : c.size ≤ maxWord := by decide
  have hpages : max 1 (c.size ⌈/⌉ d.perPage) = 2 := by decide
  have hread : ListQuery.read r.target.query = .ok {} := rfl
  have hpage : HasPage c.size 1 d.perPage := by unfold HasPage; decide
  have hshows := d.shows_of_get m c (.inl rfl) rfl rfl hread [] hpage
  rw [c.markAll_nil] at hshows
  obtain ⟨q, hq, -, -, -, -, -, hwalk⟩ := (d.walk_by_links c hc nodesPath (.inl rfl) m r rfl hshows.status).2 rfl
  rw [hread] at hq
  cases hq
  rw [hpages] at hwalk
  obtain ⟨hlength, -, hrows, -⟩ := hwalk rfl [⟨[], m, [], []⟩, ⟨[], m, [], []⟩] (Nat.le_refl 2)
  exact ⟨hshows.status, hlength, hrows⟩

end Desk
end Http
end NodeDesk
