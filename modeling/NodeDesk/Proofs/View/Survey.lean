import NodeDesk.Proofs.View.Sheet
/-!
# Survey — what a browser finds in a listing

Of a listing a browser needs the ids of its rows and the links to the other pages.  They are read off the document
(`Survey.read`): a link to a page is one that has a class, and the id of a row is the text of its first link.  What is
found is what was put in, with a form or without (`read_listing`).
-/
namespace NodeDesk
namespace View

open Html (Each Token cellTokens settle)

/-- What a browser finds in a listing. -/
structure Survey where
  /-- The classes and addresses of the links to other pages, in their order. -/
  links : List (String × String)
  /-- The ids of the rows, in their order. -/
  rows : List String
  deriving Repr, DecidableEq

namespace Survey

def pageLink? (t : Token) : Option (String × String) :=
  if t.isNamed "a" then (t.attribute? "class").bind fun style => (t.attribute? "href").map fun href => (style, href)
  else none

/-- Where the reader of a table stands. -/
inductive Place where
  | outside
  /-- In a row, before its first link. -/
  | row
  /-- In the first link of a row. -/
  | link
  deriving Repr, DecidableEq

def Place.next : Place → Token → List String × Place
  | .link, .text raw => ([String.ofList (Html.unescapeChars raw)], .outside)
  | p, .text _ => ([], p)
  | p, .tag name _ =>
    ([], if name = "tr".toList then .row
      else if name = "/tr".toList then .outside
      else if p = .row ∧ name = "a".toList then .link
      else p)

/-- The ids of the rows among some tokens. -/
def scan (p : Place) : List Token → List String × Place
  | [] => ([], p)
  | t :: ts => ((p.next t).1 ++ (scan (p.next t).2 ts).1, (scan (p.next t).2 ts).2)

def read (document : String) : Survey :=
  let ts := Html.tokens document.toList
  ⟨ts.filterMap pageLink?, (scan .outside ts).1⟩

def link? (s : Survey) (style : String) : Option String := (s.links.find? (·.1 = style)).map Prod.snd

/-! ## Rows -/

theorem scan_append (p : Place) (ts us : List Token) :
    scan p (ts ++ us) = ((scan p ts).1 ++ (scan (scan p ts).2 us).1, (scan (scan p ts).2 us).2) := by
  induction ts generalizing p with
  | nil => rfl
  | cons t ts ih => rw [List.cons_append, scan, scan, ih, List.append_assoc]

/-- **Tokens that show these ids** on the way from one place to another, whatever the text before them is. -/
def Goes (p : Place) (ts : List Token) (ids : List String) (q : Place) : Prop :=
  ∀ raw, scan p (settle raw ts).1 = (ids, q)

namespace Goes

variable {p q r : Place} {ts us : List Token} {ids more : List String}

theorem nil : Goes p [] [] p := fun _ => rfl

theorem append (h : Goes p ts ids q) (h' : Goes q us more r) : Goes p (ts ++ us) (ids ++ more) r := fun raw => by
  rw [Html.settle_append, scan_append, h raw]
  dsimp only
  rw [h']

theorem behind (h : Goes p ts [] q) (h' : Goes q us more r) : Goes p (ts ++ us) more r := h.append h'

theorem before (h : Goes p ts ids q) (h' : Goes q us [] r) : Goes p (ts ++ us) ids r := by
  have happend := h.append h'
  rwa [List.append_nil] at happend

theorem flatMap {α : Type} {f : α → List Token} {g : α → String} (h : ∀ a, Goes p (f a) [g a] p) :
    ∀ as : List α, Goes p (as.flatMap f) (as.map g) p
  | [] => nil
  | a :: as => by
    rw [List.flatMap_cons, List.map_cons]
    exact (h a).append (flatMap h as)

theorem tag {name : List Char} {as : List (List Char × List Char)} (hp : p ≠ .link) :
    Goes p [.tag name as] [] (p.next (.tag name as)).2 := fun raw => by
  have htag : scan p [.tag name as] = ([], (p.next (.tag name as)).2) := by
    cases p <;> rfl
  have htext : scan p [.text raw] = ([], p) := by
    cases p <;> first | rfl | exact absurd rfl hp
  rw [settle, settle]
  split
  · exact htag
  · show scan p ([.text raw] ++ [.tag name as]) = _
    rw [scan_append, htext]
    dsimp only
    rw [htag]
    rfl

/-- Tokens among which no row and no link begins show nothing and lead nowhere. -/
theorem of_among {names : List String} (h : Each (Token.isAmong names) ts) (hp : p ≠ .link) (htr : "tr" ∉ names)
    (hrow : p = .row → "/tr" ∉ names ∧ "a" ∉ names) : Goes p ts [] p := by
  induction ts with
  | nil => exact nil
  | cons t ts ih =>
    have hrest := ih fun u hu => h u (List.mem_cons_of_mem t hu)
    have ht := h t List.mem_cons_self
    suffices hone : Goes p [t] [] p by exact hone.append hrest
    cases t with
    | text t => exact fun raw => rfl
    | tag name as =>
      obtain ⟨n, hin, rfl⟩ := Token.isAmong_tag_iff.1 ht
      have hne : ∀ s, s ∉ names → n.toList ≠ s.toList := fun s hs e => hs (String.toList_inj.1 e ▸ hin)
      have hnext : (p.next (.tag n.toList as)).2 = p := by
        cases p with
        | link => exact absurd rfl hp
        | outside =>
          simp only [Place.next, if_neg (hne "tr" htr)]
          split <;> rfl
        | row =>
          obtain ⟨hend, ha⟩ := hrow rfl
          simp only [Place.next, if_neg (hne "tr" htr), if_neg (hne "/tr" hend), hne "a" ha, and_false, if_false]
      have htag := @tag p n.toList as hp
      rwa [hnext] at htag

theorem outside {names : List String} (h : Each (Token.isAmong names) ts) (htr : "tr" ∉ names) :
    Goes .outside ts [] .outside := of_among h (by decide) htr fun e => nomatch e

end Goes

end Survey

/-! ## What is found -/

def PageLinks.shown (l : PageLinks) (s : PageStatus) : List (String × String) :=
  (match s.previous? with
    | none => []
    | some n => [("first", l.href 1), ("previous", l.href n)])
  ++ match s.next? with
    | none => []
    | some n => [("next", l.href n), ("last", l.href s.pages)]

namespace Survey

/-- **The links to other pages**, as they were put in. -/
theorem links_pages (l : PageLinks) (s : PageStatus) : (l.tokens s).filterMap pageLink? = l.shown s := by
  have hlink : ∀ page (label style : String), Html.unescapeChars style.toList = style.toList →
      (l.linkTokens page label style).filterMap pageLink? = [(style, l.href page)] := fun page label style hs => by
    have hshown : pageLink? (.tag "a".toList [("class".toList, style.toList),
        ("href".toList, Html.escapeChars (l.href page).toList)]) =
          some (String.ofList (Html.unescapeChars style.toList),
            String.ofList (Html.unescapeChars (Html.escapeChars (l.href page).toList))) := rfl
    have hrest : [Token.text label.toList, .tag "/a".toList []].filterMap pageLink? = [] := rfl
    unfold PageLinks.linkTokens
    rw [List.filterMap_cons_some hshown, hrest, hs, ofList_unescapeChars, String.ofList_toList]
  have hback : (l.backwardTokens s).filterMap pageLink? =
      match s.previous? with
      | none => []
      | some n => [("first", l.href 1), ("previous", l.href n)] := by
    unfold PageLinks.backwardTokens
    cases s.previous? with
    | none => rfl
    | some n =>
      dsimp only
      rw [List.filterMap_append, hlink 1 _ _ (by decide), hlink n _ _ (by decide)]
      rfl
  have hforth : (l.forwardTokens s).filterMap pageLink? =
      match s.next? with
      | none => []
      | some n => [("next", l.href n), ("last", l.href s.pages)] := by
    unfold PageLinks.forwardTokens
    cases s.next? with
    | none => rfl
    | some n =>
      dsimp only
      rw [List.filterMap_append, hlink n _ _ (by decide), hlink s.pages _ _ (by decide)]
      rfl
  have hposition : (PageLinks.positionTokens s).filterMap pageLink? = [] := rfl
  have hcount : (PageLinks.countTokens s).filterMap pageLink? = [] := rfl
  unfold PageLinks.tokens PageLinks.shown
  simp only [List.filterMap_append, hback, hforth, hposition, hcount, List.append_nil]
  rfl

theorem pageLink?_of_isCell {t : Token} (h : Listing.isCell t = true) : pageLink? t = none := by
  have hclass : t.attribute? "class" = none := Option.isNone_iff_eq_none.1 (Bool.and_eq_true_iff.1 h).2
  unfold pageLink?
  rw [hclass]
  exact ite_self none

section

variable (v : Listing) (showTitle selectable : Bool)

theorem links_cells {ts : List Token} (h : Each Listing.isCell ts) : ts.filterMap pageLink? = [] :=
  h.filterMap_eq_nil fun _ => pageLink?_of_isCell

theorem links_row (n : Node) : (v.rowTokens showTitle selectable n).filterMap pageLink? = [] := by
  have hbox : (if selectable then cellTokens [boxTag n.id] else []).filterMap pageLink? = [] := by
    cases selectable <;> rfl
  have htitle : (if showTitle then Listing.titleTokens n.title else []).filterMap pageLink? = [] := by
    cases showTitle with
    | false => rfl
    | true => exact links_cells (Listing.each_title n.title)
  have hopen : [Token.tag "tr".toList []].filterMap pageLink? = [] := rfl
  have hclose : [Token.tag "/tr".toList [], .text ['\n']].filterMap pageLink? = [] := rfl
  unfold Listing.rowTokens
  simp only [List.filterMap_append, hopen, hbox, links_cells (Listing.each_cell (Listing.each_link _ _)), htitle,
    links_cells (v.each_detail n), hclose, List.append_nil]

theorem goes_link (url id : String) : Goes .row (Html.linkTokens url id) [id] .outside := fun raw => by
  have hid : scan .row (settle raw (Html.linkTokens url id)).1 =
      ([String.ofList (Html.unescapeChars (Html.escapeChars id.toList))], .outside) := rfl
  rw [hid, ofList_unescapeChars]

theorem goes_row (n : Node) : Goes .outside (v.rowTokens showTitle selectable n) [n.id] .outside := by
  have hopen : Goes .outside [.tag "tr".toList []] [] .row := Goes.tag (by decide)
  have hcells : ∀ {ts}, Each Listing.isCell ts → Goes .outside ts [] .outside := fun h =>
    .outside (h.mono fun _ => Listing.isAmong_of_isCell) (by decide)
  have hplain : ∀ {ts}, Each (Token.isAmong ["td", "/td", "input"]) ts → Goes .row ts [] .row := fun h =>
    .of_among h (by decide) (by decide) (by decide)
  have hbox : Goes .row (if selectable then cellTokens [boxTag n.id] else []) [] .row := by
    cases selectable with
    | false => exact .nil
    | true => exact hplain (.of_all rfl)
  have hlink : Goes .row (cellTokens (Html.linkTokens (v.links.nodeUrl n.id) n.id)) [n.id] .outside := by
    have htd : Goes .row [.tag "td".toList []] [] .row := hplain (.of_all rfl)
    exact (htd.behind (goes_link _ _)).before (hcells (.of_all rfl))
  have htitle : Goes .outside (if showTitle then Listing.titleTokens n.title else []) [] .outside := by
    cases showTitle with
    | false => exact .nil
    | true => exact hcells (Listing.each_title n.title)
  have hclose : Goes .outside [.tag "/tr".toList [], .text ['\n']] [] .outside :=
    .outside (@Each.of_all (Token.isAmong ["/tr"]) _ rfl) (by decide)
  exact ((((hopen.behind hbox).behind hlink).before htitle).before (hcells (v.each_detail n))).before hclose

theorem links_table (nodes : List Node) : (v.tableTokens showTitle selectable nodes).filterMap pageLink? = [] := by
  have hhead : (Listing.headTokens showTitle selectable).filterMap pageLink? = [] := by
    cases showTitle <;> cases selectable <;> rfl
  have hrows : (nodes.flatMap (v.rowTokens showTitle selectable)).filterMap pageLink? = [] := by
    rw [List.filterMap_flatMap]
    simp only [links_row, List.flatMap_eq_nil_iff, implies_true]
  unfold Listing.tableTokens
  simp only [List.filterMap_append, hhead, hrows]
  rfl

theorem goes_table (nodes : List Node) :
    Goes .outside (v.tableTokens showTitle selectable nodes) (nodes.map Node.id) .outside := by
  have hplain : ∀ {ts}, Each (Token.isAmong ["table", "/table", "thead", "/thead", "tbody", "/tbody"]) ts →
      Goes .outside ts [] .outside := fun h => .outside h (by decide)
  have hrow : Goes .outside [.tag "tr".toList []] [] .row := Goes.tag (by decide)
  have hhead : Goes .row (Listing.headTokens showTitle selectable) [] .row := by
    have hnames : Each (Token.isAmong ["th", "/th", "input"]) (Listing.headTokens showTitle selectable) := by
      cases showTitle <;> cases selectable <;> exact .of_all rfl
    exact .of_among hnames (by decide) (by decide) (by decide)
  have hend : Goes .row [.tag "/tr".toList []] [] .outside := Goes.tag (by decide)
  have hopen : Goes .outside [.tag "table".toList [("class".toList, "table table-striped".toList)], .text ['\n'],
      .tag "thead".toList []] [] .outside := hplain (.of_all rfl)
  have hbody : Goes .outside [.tag "/thead".toList [], .text ['\n'], .tag "tbody".toList [], .text ['\n']] [] .outside :=
    hplain (.of_all rfl)
  have hclose : Goes .outside [.tag "/tbody".toList [], .text ['\n'], .tag "/table".toList [], .text ['\n']] [] .outside :=
    hplain (.of_all rfl)
  have hrows := Goes.flatMap (goes_row v showTitle selectable) nodes
  exact (((((hopen.behind hrow).behind hhead).behind (hend.behind hbody))).behind hrows).before hclose

theorem links_tokens (page : Page) (form : Option Selection) :
    (v.tokens showTitle page form).filterMap pageLink? = v.pages.shown page.status := by
  have hopen : [Token.tag "div".toList [("class".toList, "node-list".toList)], .text ['\n']].filterMap pageLink? = [] := rfl
  have hbreak : [Token.text ['\n']].filterMap pageLink? = [] := rfl
  have hopening : ∀ s : Selection, s.openingTokens.filterMap pageLink? = [] := fun _ => rfl
  have hclosing : ∀ s : Selection, s.closingTokens.filterMap pageLink? = [] := fun _ => rfl
  have hclose : [Token.tag "/div".toList []].filterMap pageLink? = [] := rfl
  unfold Listing.tokens
  cases form <;>
    simp only [List.filterMap_append, hopen, links_pages, hbreak, hopening, links_table, hclosing, hclose,
      List.nil_append, List.append_nil]

def formNames : List String :=
  ["form", "/form", "input", "button", "/button", "dialog", "/dialog", "p", "/p", "script", "/script"]

theorem goes_tokens (page : Page) (form : Option Selection) :
    Goes .outside (v.tokens showTitle page form) (page.nodes.map Node.id) .outside := by
  have hdiv : ∀ {ts}, Each (Token.isAmong PageLinks.names) ts → Goes .outside ts [] .outside := fun h =>
    .outside h (by decide)
  have hform : ∀ {ts}, Each (Token.isAmong formNames) ts → Goes .outside ts [] .outside := fun h =>
    .outside h (by decide)
  have hopen : Goes .outside [.tag "div".toList [("class".toList, "node-list".toList)], .text ['\n']] [] .outside :=
    hdiv (.of_all rfl)
  have hlinks := hopen.behind ((hdiv (v.pages.among_tokens page.status)).behind (hdiv (@Each.of_all _ [.text ['\n']] rfl)))
  have hclose : Goes .outside [.tag "/div".toList []] [] .outside := hdiv (.of_all rfl)
  have htable := goes_table v showTitle form.isSome page.nodes
  unfold Listing.tokens
  rw [List.append_assoc _ (v.pages.tokens page.status)]
  cases form with
  | none => exact (((hlinks.behind .nil).behind htable).before .nil).before hclose
  | some s =>
    have hopening : Goes .outside s.openingTokens [] .outside := hform (.of_all rfl)
    have hclosing : Goes .outside s.closingTokens [] .outside := hform (.of_all rfl)
    exact (((hlinks.behind hopening).behind htable).before hclosing).before hclose

/-- **What is found in a listing is what was put in**: the links to the other pages, and the ids of the rows. -/
theorem read_listing (page : Page) (form : Option Selection) (site title : String) :
    read (Html.render (layout site title (v.pieces page showTitle form))) =
      ⟨v.pages.shown page.status, page.nodes.map Node.id⟩ := by
  have htokens := Html.tokens_of_reads (reads_layout site title (v.reads_pieces showTitle page form))
  have htop : (topTokens site title).filterMap pageLink? = [] := rfl
  have hbottom : bottomTokens.filterMap pageLink? = [] := rfl
  have hgoes : Goes .outside (topTokens site title ++ v.tokens showTitle page form ++ bottomTokens)
      (page.nodes.map Node.id) .outside := by
    have htop : Goes .outside (topTokens site title) [] .outside :=
      .outside (@Each.of_all (Token.isAmong ["!DOCTYPE", "html", "head", "/head", "meta", "title", "/title", "body",
        "header", "/header", "h1", "/h1", "main", "h2", "/h2"]) _ rfl) (by decide)
    have hbottom : Goes .outside bottomTokens [] .outside :=
      .outside (@Each.of_all (Token.isAmong ["/main", "/body", "/html"]) _ rfl) (by decide)
    exact (htop.behind (goes_tokens v showTitle page form)).before hbottom
  unfold read
  dsimp only
  rw [htokens, Html.filterMap_settle fun _ => rfl, hgoes []]
  simp only [List.filterMap_append, htop, links_tokens, hbottom, List.nil_append, List.append_nil]

end

end Survey
end View
end NodeDesk
