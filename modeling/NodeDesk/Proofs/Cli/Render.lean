import NodeDesk.Proofs.Catalogue.Admission
import NodeDesk.Proofs.Cli.Start
import NodeDesk.Proofs.Cli.Words
import NodeDesk.Proofs.Http.RoundTrip
import NodeDesk.Proofs.View.Table
/-!
# Render — the command writes the table that the desk sends

`render` shows a page by the usual listing, and a desk shows it by a listing of its own with other links to the pages
around it, inside a layout.  The table depends on neither (`tableInside_of_alike`), so for one file of nodes both write
one table or refuse one page (`render_agrees`).
-/
namespace NodeDesk

/-! ## The table in a document -/

namespace View

open Html (Free Piece chars)
open Text (between? isClear)

/-- What stands in a document between its first `<table` and the next `</table>`. -/
def tableText? (document : String) : Option (List Char) :=
  between? "<table".toList "</table>".toList document.toList

theorem tableText?_ofList (cs : List Char) :
    tableText? (String.ofList cs) = between? "<table".toList "</table>".toList cs :=
  congrArg (between? _ _) String.toList_ofList

namespace Listing

variable (v : Listing) (showTitle selectable : Bool)

def tableInside (nodes : List Node) : List Char :=
  " class=\"table table-striped\">\n".toList ++ ("<thead>".toList ++ (headText showTitle selectable ++
    ("</thead>".toList ++ (['\n'] ++ ("<tbody>".toList ++ (v.bodyText showTitle selectable nodes ++
      ("</tbody>".toList ++ ['\n'])))))))

/-- **The table does not depend on the links to other pages.** -/
theorem tableInside_of_alike {v w : Listing} (hl : v.links = w.links) (hd : v.dateStyle = w.dateStyle)
    (nodes : List Node) : v.tableInside showTitle selectable nodes = w.tableInside showTitle selectable nodes := by
  have hcontent : ∀ n (c : Column), c.content v n = c.content w n := fun n c => by
    obtain ⟨links, pages, style⟩ := v
    obtain ⟨links', pages', style'⟩ := w
    cases hl
    cases hd
    cases c <;> rfl
  unfold tableInside bodyText cells
  simp only [hcontent]

theorem isClear_tableInside (nodes : List Node) :
    isClear "</table>".toList (v.tableInside showTitle selectable nodes) = true := by
  have hhead : isClear "</table>".toList (headText showTitle selectable) = true :=
    isClear_headText showTitle selectable "</table>" (by decide)
  have hbody : isClear "</table>".toList (v.bodyText showTitle selectable nodes) = true :=
    v.isClear_bodyText showTitle selectable nodes (by decide) rfl
  have hclose : isClear "</table>".toList ("</tbody>".toList ++ ['\n']) = true := rfl
  have hmid : isClear "</table>".toList ("</thead>".toList ++ (['\n'] ++ "<tbody>".toList)) = true := rfl
  have hopen : isClear "</table>".toList (" class=\"table table-striped\">\n".toList ++ "<thead>".toList) = true := rfl
  have h := Text.isClear_append (Text.isClear_append (Text.isClear_append (Text.isClear_append hopen hhead) hmid)
    hbody) hclose
  unfold tableInside
  simp only [List.append_assoc] at h ⊢
  exact h

/-- **The first table of a document is that of its listing**, where no table begins before it. -/
theorem tableText?_of_free {before : List Piece} (hb : Free ["<table"] before) (page : Page) (form : Option Selection)
    (after : List Char) :
    tableText? (String.ofList (chars before ++ (chars (v.pieces page showTitle form) ++ after))) =
      some (v.tableInside showTitle form.isSome page.nodes) := by
  obtain ⟨below, hpieces⟩ := v.exists_below showTitle page form
  have hopening : tableOpening = "<table".toList ++ " class=\"table table-striped\">\n".toList := by decide +kernel
  have hclosing : "\n</table>\n".toList = ['\n'] ++ ("</table>".toList ++ ['\n']) := by decide +kernel
  have hbefore : isClear "<table".toList (chars before) = true := hb.isClear_chars (by decide) rfl
  have habove : isClear "<table".toList (chars (v.above page form)) = true :=
    (v.free_above page form).isClear_chars (by decide) rfl
  have hfound := Text.between?_append (by decide) (by decide) (Text.isClear_append hbefore habove)
    (v.isClear_tableInside showTitle form.isSome page.nodes)
  rw [tableText?_ofList, hpieces, Html.chars_append, Html.chars_append, chars_table, hopening, hclosing]
  unfold tableInside at hfound ⊢
  simp only [List.append_assoc] at hfound ⊢
  exact hfound _

end Listing
end View

/-! ## The desk -/

namespace Http
namespace Desk

open Catalogue (HasPage)

section

variable (d : Desk) (m : Moment) (c : Catalogue) {number : Nat} {title : Bool} {r : Request}
variable (hnumber : number ≤ maxWord) (hvisit : IsVisit (ListQuery.address nodesPath number title) r)
include hnumber hvisit

theorem handle_nodes : ∃ headers, (d.handle m c r).reply =
    { d.nodesReply c ⟨some number, some title⟩ with headers := headers } := by
  have ht : r.target = ⟨nodesPath.toList, some (ListQuery.asked number title)⟩ :=
    Option.some.inj (hvisit.target.symm.trans (ListQuery.read?_address_nodes hnumber title))
  have hr : Route.ofPath? r.target.path = some .nodes := by rw [ht, Route.ofPath?_nodes]
  have hq : ListQuery.read r.target.query = .ok ⟨some number, some title⟩ := by
    rw [ht, ListQuery.read_asked hnumber title]
  rw [d.handle_of_get m c hr (by decide) hvisit.method, page, withQuery_of_ok c hq]
  exact ⟨_, rfl⟩

/-- **A page that there is is sent.** -/
theorem nodes_of_hasPage (h : HasPage c.size number d.perPage) :
    (d.handle m c r).reply.status = 200 ∧ (d.handle m c r).reply.body =
      Html.render (d.listingPieces nodesPath "List of Nodes" (c.pageAt number d.perPage) title none) := by
  obtain ⟨headers, hreply⟩ := d.handle_nodes m c hnumber hvisit
  have hlisting := @listingReply_of_hasPage d c nodesPath "List of Nodes" ⟨some number, some title⟩ none h
  rw [hreply, nodesReply, hlisting]
  exact ⟨rfl, rfl⟩

/-- **A page that there is not is refused.** -/
theorem nodes_of_not_hasPage (h : ¬ HasPage c.size number d.perPage) :
    (d.handle m c r).reply.status = 404 ∧ (d.handle m c r).reply.body =
      (Json.Value.object [("error", .string ("Invalid page: " ++ Decimal.text number)),
        ("code", .natural 404)]).text := by
  obtain ⟨headers, hreply⟩ := d.handle_nodes m c hnumber hvisit
  have hlisting : d.listingReply c nodesPath "List of Nodes" ⟨some number, some title⟩ none =
      .error (.invalidPage number) := by
    unfold listingReply
    dsimp only [Option.getD_some]
    rw [Catalogue.page?_eq_none_iff.2 h]
  rw [hreply, nodesReply, hlisting]
  exact ⟨rfl, rfl⟩

end

/-- The table of a page that is sent is that of its listing, as nothing above opens one. -/
theorem tableText?_listingPieces (d : Desk) (path heading : String) (page : Page) (title : Bool)
    (form : Option View.Selection) :
    View.tableText? (Html.render (d.listingPieces path heading page title form)) =
      some (d.listing.tableInside title form.isSome page.nodes) := by
  obtain ⟨head, foot, hlayout, hfree⟩ : ∃ head foot,
      (∀ body, View.layout View.siteName heading body = head ++ body ++ foot) ∧ Html.Free ["<table"] head :=
    ⟨_, _, fun _ => rfl, .of_all rfl⟩
  unfold Html.render listingPieces
  rw [hlayout, Html.chars_append, Html.chars_append, List.append_assoc, View.Listing.tableText?_of_free _ _ hfree]
  exact congrArg some (View.Listing.tableInside_of_alike title _ rfl rfl _)

end Desk
end Http

/-! ## The command -/

namespace Cli

open Catalogue (HasPage)
open Http (ListQuery nodesPath)
open Http.Desk (IsVisit)
open View (tableText?)

theorem tableText?_printed (page : Page) (title : Bool) :
    tableText? (Html.render (View.Listing.pieces {} page title none) ++ "\n") =
      some (View.Listing.tableInside {} title false page.nodes) := by
  have hfound := View.Listing.tableText?_of_free {} title Html.Free.nil page none ['\n']
  rwa [Html.chars_nil, List.nil_append, String.ofList_append] at hfound

section

variable {occasion : Occasion} {files : Files} {path : String} {c : Catalogue} {number perPage : Nat} {title : Bool}
variable {words : List String} (hload : (Fixture.load path).run files = .ok c)
variable (hwords : Command.read words = .ok (.render ⟨path, number, perPage, title, none⟩))
include hload hwords

theorem trace_of_words : (trace occasion words).run files =
    Report.trace ⟨[], renderPage occasion ⟨path, number, perPage, title, none⟩ c⟩ := by
  unfold trace
  rw [hwords]
  dsimp only
  rw [Reading.run_bind]
  unfold run render
  rw [Reading.run_bind, hload]
  rfl

/-- **A page that there is is written**, and nothing else. -/
theorem trace_of_hasPage (h : HasPage c.size number perPage) :
    (trace occasion words).run files =
      ⟨Html.render (View.Listing.pieces {} (c.pageAt number perPage) title none) ++ "\n", "", 0⟩ := by
  rw [trace_of_words hload hwords]
  unfold renderPage
  dsimp only
  rw [Catalogue.page?_of_hasPage h]
  show Trace.mk ("" ++ _) _ _ = _
  rw [String.empty_append]
  rfl

/-- **A page that there is not is refused** in the log, and nothing is written. -/
theorem trace_of_not_hasPage (h : ¬ HasPage c.size number perPage) :
    (trace occasion words).run files =
      ⟨"", (Log.Event.failed "NODEADMIN_DATA_ERROR" ("Invalid page: " ++ Decimal.text number)).record.line, 1⟩ := by
  rw [trace_of_words hload hwords]
  unfold renderPage
  dsimp only
  rw [Catalogue.page?_eq_none_iff.2 h]
  show Trace.mk "" ("" ++ _) _ = _
  rw [String.empty_append]
  rfl

end

/-- **The command and the desk render one table.**  Words ask for a page of a file of nodes that is loaded, without a
form, and a desk has a setup that names that file and as many nodes to a page, and nothing else.  Then the command
succeeds exactly if the desk sends the page, and the table is the same in both texts.  Otherwise both say that there is
no such page: the desk with 404, and the command with 1 and one line of the log, having written nothing. -/
theorem render_agrees (files : Files) (path : String) (c : Catalogue) (number perPage : Nat) (title : Bool)
    (words : List String) (fallback : Bytes) (hload : (Fixture.load path).run files = .ok c)
    (hwords : Command.read words = .ok (.render ⟨path, number, perPage, title, none⟩)) (hper : 1 ≤ perPage) :
    let config : Config := { perPage := perPage, fixture := some path }
    config.fault? = none ∧ (firstNodes config).run files = .ok (c, [.fixtureLoaded c.size path]) ∧
    (∃ r, IsVisit (ListQuery.address nodesPath number title) r) ∧
    ∃ d, Http.Desk.ofConfig? config fallback = some d ∧
      ∀ (occasion : Occasion) (m : Http.Moment) (r : Http.Request),
        IsVisit (ListQuery.address nodesPath number title) r →
        let told := (trace occasion words).run files
        let served := (d.handle m c r).reply
        (told.code = 0 ↔ served.status = 200) ∧
        (told.code = 0 → told.errors = "" ∧
          ∃ table, tableText? told.output = some table ∧ tableText? served.body = some table) ∧
        (told.code ≠ 0 →
          served.status = 404 ∧
          served.body = (Json.Value.object [("error", .string ("Invalid page: " ++ Decimal.text number)),
            ("code", .natural 404)]).text ∧
          told.code = 1 ∧ told.output = "" ∧
          told.errors =
            (Log.Event.failed "NODEADMIN_DATA_ERROR" ("Invalid page: " ++ Decimal.text number)).record.line) := by
  intro config
  have hnumber : number ≤ maxWord := Command.page_le_of_read hwords
  have hfault : config.fault? = none := by
    have hbases : Config.endsInSlash "/admin/nodes/" = true ∧ Config.endsInSlash "/admin/users/" = true := by decide
    unfold Config.fault?
    rw [if_neg (Nat.one_le_iff_ne_zero.1 hper), if_neg (not_not_intro hbases.1), if_neg (not_not_intro hbases.2),
      if_neg (show ¬ (none : Option String) = some "" from nofun), if_neg (show ¬ (3600 : Int) ≤ 0 by decide)]
  have hfirst : (firstNodes config).run files = .ok (c, [.fixtureLoaded c.size path]) := by
    unfold firstNodes
    dsimp only [config]
    rw [Reading.run_bind, hload]
    rfl
  refine ⟨hfault, hfirst, ⟨⟨"GET", _, [], []⟩, rfl, ListQuery.read?_address_nodes hnumber title⟩, ?_⟩
  obtain ⟨d, hdesk, hlisting, hpages⟩ : ∃ d, Http.Desk.ofConfig? config fallback = some d ∧ d.listing = {} ∧
      d.perPage = perPage := ⟨_, Http.Desk.ofConfig?_eq.trans (if_neg List.not_mem_nil), rfl, rfl⟩
  refine ⟨d, hdesk, fun occasion m r hvisit => ?_⟩
  intro told served
  by_cases hpage : HasPage c.size number perPage
  · have htold : told = _ := trace_of_hasPage hload hwords hpage
    obtain ⟨hstatus, hbody⟩ := d.nodes_of_hasPage m c hnumber hvisit (hpages.symm ▸ hpage)
    have hcode : told.code = 0 := by rw [htold]
    have hwritten : tableText? told.output =
        some (View.Listing.tableInside {} title false (c.pageAt number perPage).nodes) := by
      rw [htold]
      exact tableText?_printed _ _
    have hsent : tableText? served.body =
        some (View.Listing.tableInside {} title false (c.pageAt number perPage).nodes) := by
      rw [hbody, d.tableText?_listingPieces, hlisting, hpages]
      rfl
    exact ⟨iff_of_true hcode hstatus, fun _ => ⟨by rw [htold], _, hwritten, hsent⟩, fun hne => absurd hcode hne⟩
  · have htold : told = _ := trace_of_not_hasPage hload hwords hpage
    obtain ⟨hstatus, hbody⟩ := d.nodes_of_not_hasPage m c hnumber hvisit (hpages.symm ▸ hpage)
    have hcode : told.code = 1 := by rw [htold]
    have hfailed : told.code ≠ 0 := by rw [hcode]; decide
    have hrefused : served.status ≠ 200 := by rw [hstatus]; decide
    exact ⟨iff_of_false hfailed hrefused, fun hzero => absurd hzero hfailed, fun _ =>
      ⟨hstatus, hbody, hcode, by rw [htold], by rw [htold]⟩⟩

/-- One node whose id looks like the end of a table, one node to a page: the first page is written and sent with one
table, and the second is refused by both. -/
theorem render_agrees_of_one_node :
    let n : Node := { id := "</table>", created := .epoch }
    let c : Catalogue := ⟨[n], by decide, by decide⟩
    let files : Files := fun _ => .ok (Utf8.encode (Json.Value.list [n.toJson]).write)
    let words number := Rendering.words ⟨"nodes.json", number, 1, true, none⟩
    let config : Config := { perPage := 1, fixture := some "nodes.json" }
    (Fixture.load "nodes.json").run files = .ok c ∧
    ∃ d, Http.Desk.ofConfig? config [] = some d ∧ ∀ (occasion : Occasion) (m : Http.Moment),
      let told number := (trace occasion (words number)).run files
      (∃ r, (d.handle m c r).reply.status = 200 ∧
        ∃ table, tableText? (told 1).output = some table ∧ tableText? (d.handle m c r).reply.body = some table) ∧
      ∃ r, (d.handle m c r).reply.status = 404 ∧ (told 2).code = 1 ∧ (told 2).output = "" := by
  intro n c files words config
  have hload : (Fixture.load "nodes.json").run files = .ok c :=
    Fixture.load_ok_iff.2 (Fixture.holds_regular (by decide) rfl)
  have hread : Command.read (words 1) = .ok (.render ⟨"nodes.json", 1, 1, true, none⟩) :=
    Command.read_words (by decide) (by decide) (by decide)
  have hread' : Command.read (words 2) = .ok (.render ⟨"nodes.json", 2, 1, true, none⟩) :=
    Command.read_words (by decide) (by decide) (by decide)
  obtain ⟨-, -, ⟨first, hfirst⟩, d, hd, hall⟩ := render_agrees files _ c _ _ _ _ [] hload hread (by decide)
  obtain ⟨-, -, ⟨second, hsecond⟩, d', hd', hall'⟩ := render_agrees files _ c _ _ _ _ [] hload hread' (by decide)
  obtain rfl : d' = d := Option.some.inj (hd'.symm.trans hd)
  have hone : HasPage c.size 1 1 := by unfold HasPage; decide
  have htwo : ¬ HasPage c.size 2 1 := by unfold HasPage; decide
  refine ⟨hload, d', hd, fun occasion m => ?_⟩
  intro told
  have hwritten : (told 1).code = 0 := congrArg Trace.code (trace_of_hasPage hload hread hone)
  have hrefused : (told 2).code = 1 := congrArg Trace.code (trace_of_not_hasPage hload hread' htwo)
  obtain ⟨hiff, htable, -⟩ := hall occasion m first hfirst
  obtain ⟨-, -, hfailed⟩ := hall' occasion m second hsecond
  obtain ⟨hstatus, -, -, houtput, -⟩ := hfailed (by rw [hrefused]; decide)
  exact ⟨⟨first, hiff.1 hwritten, (htable hwritten).2⟩, second, hstatus, hrefused, houtput⟩

end Cli
end NodeDesk
