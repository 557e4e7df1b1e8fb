import NodeDesk.Proofs.Http.DoubleSubmit
import NodeDesk.Proofs.Http.Handout
/-!
# RoundTrip — what the desk hands out it takes back

A browser that gets the listing with the form, checks some boxes and submits it with the cookie that came along is
always confirmed, whatever else was handled in between, as long as the token lives (`spam_round_trip`).  All that it
sends is read off the document and the cookie, so the proof goes through every way of writing and reading back that
lies between the two requests.
-/
namespace NodeDesk
namespace Http

open Catalogue (HasPage)
open Submission (lastToken? named)
open View (Sheet)

theorem Request.toLower_cookie : "cookie".toLower = "cookie" := by decide +kernel

theorem Request.plainText?_encode {cs : List Char} (h : ∀ c ∈ cs, 0x20 ≤ c.toNat ∧ c.toNat < 0x7F) :
    plainText? (Utf8.encode cs) = some (String.ofList cs) := by
  have hlt : ∀ c ∈ cs, c.toNat < 0x80 := fun c hc => Nat.lt_of_lt_of_le (h c hc).2 (by decide)
  have hbyte : ∀ c ∈ cs, (UInt8.ofNat c.toNat).toNat = c.toNat := fun c hc =>
    Utf8.toNat_byte (Nat.lt_of_lt_of_le (hlt c hc) (by decide))
  have hplain : (Utf8.encode cs).all isPlain = true := List.all_eq_true.2 fun b hb => by
    obtain ⟨c, hc, hbc⟩ := Utf8.mem_encode_of_lt hlt hb
    refine isPlain_iff.2 (.inr ?_)
    rw [hbc]
    exact h c hc
  have hchars : (Utf8.encode cs).map (fun b => Char.ofNat b.toNat) = cs := by
    rw [Utf8.encode_of_lt hlt, List.map_map]
    refine (List.map_congr_left fun c hc => ?_).trans (List.map_id' cs)
    rw [Function.comp_apply, hbyte c hc, Char.ofNat_toNat]
  unfold plainText?
  rw [if_pos hplain, hchars]

namespace Desk

variable (d : Desk) (m : Moment) (c : Catalogue)

/-! ## Submitting it -/

/-- The pairs that a browser submits of a form: the boxes that are checked, and the hidden fields. -/
def submitted (s : Sheet) (checked : List String) : List (String × String) :=
  (checked.map fun name => (name, "on")) ++ s.hidden

/-- **What a browser sends when a form is submitted** with some boxes checked and with a cookie. -/
structure IsSubmit (s : Sheet) (cookie : String) (checked : List String) (r : Request) : Prop where
  method : r.method = "POST"
  target : Url.Target.read? s.action.toList = some r.target
  kind : r.header? "content-type" = some (Utf8.encode "application/x-www-form-urlencoded".toList)
  cookie : r.header? "cookie" = some (Utf8.encode cookie.toList)
  body : r.body = Utf8.encode (Url.Form.encode (submitted s checked))
  short : r.body.length ≤ maxBody

/-- What a browser sends for an address that it is led to. -/
structure IsVisit (address : String) (r : Request) : Prop where
  method : r.method = "GET"
  target : Url.Target.read? address.toList = some r.target

/-- Every form with an address that can be requested can be submitted, unless it says too much. -/
theorem exists_isSubmit {s : Sheet} {t : Url.Target} {checked : List String} (cookie : String)
    (ht : Url.Target.read? s.action.toList = some t)
    (hshort : (Utf8.encode (Url.Form.encode (submitted s checked))).length ≤ maxBody) :
    ∃ r, IsSubmit s cookie checked r := by
  have hlower : "content-type".toLower = "content-type" := by decide +kernel
  let kind := ("content-type", Utf8.encode "application/x-www-form-urlencoded".toList)
  let sent := ("cookie", Utf8.encode cookie.toList)
  refine ⟨⟨"POST", t, [kind, sent], _⟩, rfl, ht, ?_, ?_, rfl, hshort⟩
  · simp [Request.header?, kind, hlower]
  · simp [Request.header?, kind, sent, hlower, Request.toLower_cookie]

section Submit

variable {checked : List String} {token : String}

theorem named_checked (h : View.tokenField ∉ checked) :
    named ((checked.map fun name => (name, "on")) ++ [(View.tokenField, token)]) = checked := by
  have hfst : (checked.map fun name => (name, "on")).map Prod.fst = checked := by
    rw [List.map_map]
    exact List.map_id' checked
  rw [Submission.named_concat, Submission.named_of_not_mem (by rwa [hfst]), hfst]

/-- **A form is submitted as a confirmation** of the boxes that were checked. -/
theorem isConfirmation_of_isSubmit {s : Sheet} {cookie : String} {r : Request} {number : Nat} {title : Bool}
    (hs : s.action = ListQuery.address confirmPath number title) (hn : number ≤ maxWord)
    (h : IsSubmit s cookie checked r) :
    IsConfirmation r ⟨some number, some title⟩ (submitted s checked) := by
  have htarget : r.target = ⟨confirmPath.toList, some (ListQuery.asked number title)⟩ := by
    have ht := h.target
    rw [hs, ListQuery.read?_address_confirm hn title] at ht
    exact (Option.some.inj ht).symm
  have hkind : r.headerText? "content-type" = some "application/x-www-form-urlencoded" := by
    unfold Request.headerText?
    rw [h.kind]
    show Request.plainText? _ = _
    rw [Request.plainText?_encode (List.all_iff_forall_prop.1 (by decide)), String.ofList_toList]
  have hquery : ListQuery.read r.target.query = .ok ⟨some number, some title⟩ := by
    rw [htarget]
    exact ListQuery.read_asked hn title
  refine ⟨h.method, by rw [htarget], hquery, formOf_eq_ok_iff.2 ⟨?_, h.short, ?_⟩⟩
  · rw [hkind]
    decide
  · rw [h.body, Url.Form.decode_encode]

theorem cookieOf_isSubmit {s : Sheet} {r : Request} (ht : ∀ c ∈ token.toList, Token.Cookie.IsLetter c)
    (h : IsSubmit s ("csrftoken=" ++ token) checked r) : cookieOf r = some token := by
  have hletters := Token.Cookie.isLetter_of_mem_pair ht
  unfold cookieOf Request.headerText?
  rw [h.cookie]
  show (Request.plainText? _).bind Token.Cookie.token? = _
  rw [Request.plainText?_encode fun c hc => (hletters c hc).spec.2.2, String.ofList_toList]
  exact Token.Cookie.token?_pair ht

/-- **A form that is submitted in time is confirmed**: it leads back to its page, and marks what was checked. -/
theorem handle_submit {s : Sheet} {r : Request} {number : Nat} {title : Bool}
    (hs : s.action = ListQuery.address confirmPath number title) (hh : s.hidden = [(View.tokenField, token)])
    (hn : number ≤ maxWord) (hempty : token ≠ "") (ht : ∀ c ∈ token.toList, Token.Cookie.IsLetter c)
    (ha : d.guard.accepts token m.now = true) (hne : checked ≠ []) (hf : View.tokenField ∉ checked)
    (hk : ∀ id ∈ checked, c.contains id = true) (h : IsSubmit s ("csrftoken=" ++ token) checked r) :
    (d.handle m c r).reply.status = 303 ∧
      (d.handle m c r).reply.header? "location" = some (ListQuery.address spamPath number title) ∧
      (d.handle m c r).catalogue = c.markAll checked := by
  have hconf := isConfirmation_of_isSubmit hs hn h
  have hpairs : submitted s checked = (checked.map fun name => (name, "on")) ++ [(View.tokenField, token)] := by
    rw [submitted, hh]
  have hids : ∀ p ∈ submitted s checked, p.1 ≠ "" := fun p hp => by
    rw [hpairs] at hp
    rcases List.mem_append.1 hp with hp | hp
    · obtain ⟨id, hid, rfl⟩ := List.mem_map.1 hp
      obtain ⟨n, hn, rfl⟩ := Catalogue.contains_iff.1 (hk id hid)
      exact c.id_ne_empty n hn
    · rw [List.mem_singleton.1 hp]
      exact Submission.tokenField_ne_empty
  have hnamed : named (submitted s checked) = checked := by rw [hpairs, named_checked hf]
  have hverdict : verdict d.guard m.now c (cookieOf r) (submitted s checked) = .confirmed := by
    have hlast : lastToken? (submitted s checked) = some token := by
      rw [hpairs, Submission.lastToken?_concat]
    refine verdict_eq_confirmed_iff.2 ⟨hids, ⟨token, hempty, hlast, cookieOf_isSubmit ht h, ha⟩, ?_, ?_⟩
    · rw [hnamed]
      exact hne
    · rw [hnamed]
      exact hk
  rw [d.handle_of_isConfirmation c _ m hconf, hverdict, hnamed]
  exact ⟨rfl, rfl, c.markAll_congr fun id => List.mem_eraseDups⟩

/-- **The address that a confirmation leads to shows the same page**, whatever was marked since. -/
theorem handle_visit {r : Request} {number : Nat} {title : Bool} (hn : number ≤ maxWord)
    (hpage : HasPage c.size number d.perPage) (ids : List String)
    (h : IsVisit (ListQuery.address spamPath number title) r) :
    (d.handle m (c.markAll ids) r).reply.status = 200 ∧
      ∃ token, (∀ c ∈ token.toList, Token.Cookie.IsLetter c) ∧
        (d.handle m (c.markAll ids) r).reply.body =
          Html.render (d.spamPieces (c.pageAt number d.perPage) number title token) := by
  have htarget : r.target = ⟨spamPath.toList, some (ListQuery.asked number title)⟩ := by
    have ht := h.target
    rw [ListQuery.read?_address_spam hn title] at ht
    exact (Option.some.inj ht).symm
  have hq : ListQuery.read r.target.query = .ok ⟨some number, some title⟩ := by
    rw [htarget]
    exact ListQuery.read_asked hn title
  rw [← c.size_markAll ids] at hpage
  obtain ⟨hstatus, hbody, -⟩ :=
    d.handle_get_of_hasPage m (c.markAll ids) h.method (by rw [htarget]) hq hpage
  refine ⟨hstatus, d.guard.issue m.now m.nonce, fun _ => Token.Cookie.isLetter_of_mem_issue, ?_⟩
  rw [hbody]
  unfold spamPieces listingPieces
  rw [View.Listing.pieces_markAll]
  rfl

end Submit

/-- **What the desk hands out it takes back.**  When a page of the listing with the form is sent back, its hidden field
and its cookie carry the same token.  If some of its boxes are checked and the form is submitted with this cookie, no
earlier than it was sent and while the token lives, it is confirmed, whatever was handled in between: just the checked
nodes are marked, and the browser is led to an address where it finds the same page with another token.  A token is
issued with sixteen random bytes. -/
theorem spam_round_trip (d : Desk) (c : Catalogue) (m : Moment) (r : Request) (hnonce : m.nonce.length = 16)
    (hm : r.method = "GET") (hp : r.target.path = spamPath.toList) (h : (d.handle m c r).reply.status = 200) :
    ∃ q page s token setCookie,
      ListQuery.read r.target.query = .ok q ∧ c.page? (q.page.getD 1) d.perPage = some page ∧
      Sheet.read? (d.handle m c r).reply.body = some s ∧ s.boxes = page.nodes.map Node.id ∧
      s.hidden = [(View.tokenField, token)] ∧
      (d.handle m c r).reply.header? "set-cookie" = some setCookie ∧
      Token.Cookie.sent setCookie = "csrftoken=" ++ token ∧
      (∃ t, Url.Target.read? s.action.toList = some t) ∧
      ∀ (between : List (Moment × Request)) (later : Moment) (submit : Request) (checked : List String),
        checked ≠ [] → checked.Sublist s.boxes → View.tokenField ∉ checked →
        IsSubmit s (Token.Cookie.sent setCookie) checked submit →
        m.now.seconds ≤ later.now.seconds → later.now.seconds ≤ m.now.seconds + d.guard.maxAge →
        let before := d.after (d.handle m c r).catalogue between
        let o := d.handle later before submit
        let location := ListQuery.address spamPath (q.page.getD 1) (q.showTitle.getD d.showTitle)
        o.reply.status = 303 ∧ o.reply.header? "location" = some location ∧
        o.catalogue.nodes = before.nodes.map (fun n => if n.id ∈ checked then { n with spam := true } else n) ∧
        (∃ t, Url.Target.read? location.toList = some t) ∧
        ∀ (more : List (Moment × Request)) (last : Moment) (visit : Request), IsVisit location visit →
          let again := d.handle last (d.after o.catalogue more) visit
          again.reply.status = 200 ∧
          ∃ token' pre rest, Sheet.read? again.reply.body = some { s with hidden := [(View.tokenField, token')] } ∧
            (d.handle m c r).reply.body = pre ++ token ++ rest ∧ again.reply.body = pre ++ token' ++ rest := by
  obtain ⟨q, token, setCookie, hout⟩ := d.exists_handsOut m c hnonce hm hp h
  have hnumber := ListQuery.page_read hout.query
  have hpage := hout.page
  have hbody := hout.body
  have hfound := Catalogue.page?_of_hasPage hpage
  have hsheet := d.read?_spamPieces (c.pageAt (q.page.getD 1) d.perPage) (q.page.getD 1)
    (q.showTitle.getD d.showTitle) token
  rw [← hbody] at hsheet
  refine ⟨q, _, _, token, setCookie, hout.query, hfound, hsheet, rfl, rfl, hout.cookie, hout.sent,
    ⟨_, ListQuery.read?_address_confirm hnumber _⟩, ?_⟩
  intro between later submit checked hne hsub hfield hsubmit hearly hlate before o location
  -- Whatever is handled in between comes to one marking, so the nodes of the page are still there.
  obtain ⟨ids, hids⟩ := d.after_eq_markAll c between
  have hbefore : before = c.markAll ids := by
    show d.after (d.handle m c r).catalogue between = _
    rw [hout.kept, hids]
  have hknown : ∀ id ∈ checked, before.contains id = true := fun id hid => by
    obtain ⟨n, hn, rfl⟩ := List.mem_map.1 (hsub.subset hid)
    rw [hbefore, c.contains_markAll]
    exact Catalogue.contains_iff.2 ⟨n, List.mem_of_mem_drop (List.mem_of_mem_take hn), rfl⟩
  rw [hout.sent] at hsubmit
  obtain ⟨hstatus, hlocation, hmarked⟩ := d.handle_submit later before rfl rfl hnumber hout.ne_empty hout.letters
    (hout.lives later.now hearly hlate) hne hfield hknown hsubmit
  refine ⟨hstatus, hlocation, ?_, ⟨_, ListQuery.read?_address_spam hnumber _⟩, ?_⟩
  · rw [hmarked]
    exact before.nodes_markAll checked
  intro more last visit hvisit again
  -- Up to the visit all is one marking more, which a page does not show.
  obtain ⟨ids', hids'⟩ := d.after_eq_markAll o.catalogue more
  have hafter : d.after o.catalogue more = c.markAll (ids ++ checked ++ ids') := by
    rw [hids', hmarked, hbefore, c.markAll_markAll, c.markAll_markAll]
  obtain ⟨hagain, token', hletters', hbody'⟩ := d.handle_visit last c hnumber hpage (ids ++ checked ++ ids') hvisit
  rw [← hafter] at hagain hbody'
  obtain ⟨pre, rest, hrender⟩ := d.render_spamPieces (c.pageAt (q.page.getD 1) d.perPage) (q.page.getD 1)
    (q.showTitle.getD d.showTitle)
  refine ⟨hagain, token', pre, rest, ?_, ?_, ?_⟩
  · rw [hbody', d.read?_spamPieces]
  · rw [hbody, hrender token hout.letters]
  · rw [hbody', hrender token' hletters']

/-- One node, whose id means something both in markup and in a form: it is chosen, confirmed and marked. -/
theorem spam_round_trip_one :
    let d : Desk := ⟨{}, ⟨[], 3600⟩, 10, false, none⟩
    let n : Node := { id := "a&b=<\"c\">", created := .epoch }
    let c : Catalogue := ⟨[n], by decide, by decide⟩
    let m : Moment := ⟨.epoch, List.replicate 16 0, "", 0⟩
    let r : Request := ⟨"GET", ⟨spamPath.toList, none⟩, [], []⟩
    (d.handle m c r).reply.status = 200 ∧
      ∃ submit, (d.handle m c submit).reply.status = 303 ∧ (d.handle m c submit).catalogue.nodes = [n.markSpam] := by
  intro d n c m r
  have hpage : HasPage c.size 1 d.perPage := by unfold HasPage; decide
  have hquery : ListQuery.read r.target.query = .ok {} := rfl
  have hkept : (d.handle m c r).catalogue = c := (d.handle_get m c rfl rfl hquery).2
  obtain ⟨hstatus, hbody, -⟩ := d.handle_get_of_hasPage m c rfl rfl hquery hpage
  obtain ⟨q, page, s, token, setCookie, -, -, hs, -, -, -, -, ⟨t, ht⟩, hall⟩ :=
    d.spam_round_trip c m r rfl rfl rfl hstatus
  rw [hbody, d.read?_spamPieces] at hs
  obtain rfl := (Option.some.inj hs).symm
  obtain ⟨submit, hsubmit⟩ := @exists_isSubmit _ t [n.id] (Token.Cookie.sent setCookie) ht (by decide +kernel)
  obtain ⟨h303, -, hmarked, -, -⟩ := hall [] m submit [n.id] (by decide) (by decide) (by decide) hsubmit
    (by decide) (by decide)
  rw [Desk.after, hkept] at h303 hmarked
  refine ⟨hstatus, submit, h303, hmarked.trans ?_⟩
  decide

end Desk
end Http
end NodeDesk
