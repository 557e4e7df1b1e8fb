import NodeDesk.Proofs.Http.Order
/-!
# CookieJar — a token among other cookies

A browser sends the token along with whatever else it keeps for the host, on one header line or on several.  The desk
reads the first line only, and only if it is plain ASCII.  If the token stands there, no other cookie matters, wherever
it stands and whatever it holds; if it does not, the request is answered as one without cookies (`token_among_cookies`).
-/
namespace NodeDesk

open Http (Request)

namespace Text

theorem dropWhile_map_of_agree {α β : Type} {f : α → β} {p : β → Bool} {q : α → Bool} :
    ∀ {as : List α}, (∀ a ∈ as, p (f a) = q a) → (as.map f).dropWhile p = (as.dropWhile q).map f
  | [], _ => rfl
  | a :: as, h => by
    rw [List.map_cons, List.dropWhile_cons, List.dropWhile_cons, h a List.mem_cons_self]
    cases q a
    · rfl
    · exact dropWhile_map_of_agree fun b hb => h b (List.mem_cons_of_mem a hb)

end Text

namespace Token
namespace Cookie

/-! ## One line, byte by byte -/

/-- A blank inside of a header: a space or a tab. -/
def isGap (b : UInt8) : Bool := b = 0x20 || b = 0x09

def trimGaps (bs : Bytes) : Bytes := ((bs.dropWhile isGap).reverse.dropWhile isGap).reverse

/-- **The cookies of a header line**: what stands between its semicolons, as a name and a value with an equals sign
between them. -/
def linePairs (line : Bytes) : List (Bytes × Bytes) :=
  (Text.parts 0x3B line).filterMap fun part => Text.cut? 0x3D (trimGaps part)

/-- The values of the cookies of a header line that have the token's name. -/
def lineTokens (line : Bytes) : List Bytes := ((linePairs line).filter (·.1 == Utf8.encode name)).map Prod.snd

/-- The header line that holds a token and no other cookie. -/
def tokenLine (value : Bytes) : Bytes := Utf8.encode name ++ 0x3D :: value

/-- The characters of a token: visible ASCII other than the semicolon. -/
def IsTokenByte (b : UInt8) : Prop := 0x20 < b.toNat ∧ b.toNat < 0x7F ∧ b ≠ 0x3B

theorem IsTokenByte.spec {b : UInt8} (h : IsTokenByte b) : isGap b = false ∧ Request.isPlain b = true := by
  obtain ⟨hlow, hhigh, -⟩ := h
  have hspace : b ≠ 0x20 := by rintro rfl; exact absurd hlow (by decide)
  have htab : b ≠ 0x09 := by rintro rfl; exact absurd hlow (by decide)
  exact ⟨by simp [isGap, hspace, htab], Request.isPlain_iff.2 (.inr ⟨Nat.le_of_lt hlow, hhigh⟩)⟩

theorem isTokenByte_of_mem_name : ∀ b ∈ Utf8.encode name, IsTokenByte b := by
  unfold IsTokenByte
  decide +kernel

section

variable {value : Bytes} (h : ∀ b ∈ value, IsTokenByte b)
include h

theorem isTokenByte_of_mem_tokenLine : ∀ b ∈ tokenLine value, IsTokenByte b := by
  intro b hb
  rcases List.mem_append.1 hb with hb | hb
  · exact isTokenByte_of_mem_name b hb
  · rcases List.mem_cons.1 hb with rfl | hb
    · unfold IsTokenByte
      decide
    · exact h b hb

theorem isPlain_of_mem_tokenLine : ∀ b ∈ tokenLine value, Request.isPlain b = true := fun b hb =>
  (isTokenByte_of_mem_tokenLine h b hb).spec.2

/-- **The line of a token holds it** and no other. -/
theorem lineTokens_tokenLine : lineTokens (tokenLine value) = [value] := by
  have hbytes := isTokenByte_of_mem_tokenLine h
  have hend : (0x3B : UInt8) ∉ tokenLine value := fun hm => (hbytes _ hm).2.2 rfl
  have hcut : Text.cut? 0x3D (tokenLine value) = some (Utf8.encode name, value) :=
    Text.cut?_append (by decide)
  have hpair : Text.cut? 0x3D (trimGaps (tokenLine value)) = some (Utf8.encode name, value) := by
    rw [trimGaps, Text.dropEnds_of_none fun b hb => (hbytes b hb).spec.1, hcut]
  unfold lineTokens linePairs
  rw [Text.parts_of_not_mem hend]
  simp [hpair]

end

/-! ## The text of a plain line -/

def char (b : UInt8) : Char := Char.ofNat b.toNat

theorem toNat_char (b : UInt8) : (char b).toNat = b.toNat := by
  have hlt : b.toNat < 256 := b.toNat_lt
  have hvalid : b.toNat.isValidChar := .inl (by omega)
  rw [char, Char.ofNat, dif_pos hvalid]
  rfl

theorem char_inj (a b : UInt8) (h : char a = char b) : a = b := by
  have hnat := congrArg Char.toNat h
  rw [toNat_char, toNat_char] at hnat
  exact UInt8.toNat_inj.1 hnat

/-- **In a plain line only spaces and tabs are blank.** -/
theorem isBlank_char {b : UInt8} (h : Request.isPlain b = true) : Text.isBlank (char b) = isGap b := by
  have hplain := Request.isPlain_iff.1 h
  rw [Bool.eq_iff_iff]
  simp only [Text.isBlank, isGap, toNat_char, Bool.or_eq_true, Bool.and_eq_true, decide_eq_true_eq, beq_iff_eq,
    ← UInt8.toNat_inj, UInt8.reduceToNat] at hplain ⊢
  omega

variable {bs : Bytes} (h : ∀ b ∈ bs, Request.isPlain b = true)
include h

theorem trim_map_char : Text.trim (bs.map char) = (trimGaps bs).map char := by
  have hstart : (bs.map char).dropWhile Text.isBlank = (bs.dropWhile isGap).map char :=
    Text.dropWhile_map_of_agree fun b hb => isBlank_char (h b hb)
  have hmem : ∀ b ∈ (bs.dropWhile isGap).reverse, b ∈ bs := fun b hb =>
    (List.dropWhile_sublist isGap).subset (List.mem_reverse.1 hb)
  unfold Text.trim Text.trimEnd Text.trimStart trimGaps
  rw [hstart, ← List.map_reverse, Text.dropWhile_map_of_agree fun b hb => isBlank_char (h b (hmem b hb)),
    ← List.map_reverse]

theorem pairs_map_char : pairs (bs.map char) = (linePairs bs).map fun p => (p.1.map char, p.2.map char) := by
  -- As `char` is one-to-one, no other byte becomes a mark.
  have hend : ';' = char 0x3B := by decide
  have hequals : '=' = char 0x3D := by decide
  unfold pairs linePairs
  rw [hend, Text.parts_map char_inj, List.filterMap_map, List.map_filterMap]
  refine List.filterMap_congr fun part hpart => ?_
  have hplain : ∀ b ∈ part, Request.isPlain b = true := fun b hb => h b (Text.mem_of_mem_parts hpart hb)
  rw [Function.comp_apply, pair?, trim_map_char hplain, hequals, Text.cut?_map char_inj]

/-- **The token that is read from a plain line** is the first of the line. -/
theorem token?_map_char :
    token? (String.ofList (bs.map char)) = (lineTokens bs).head?.map fun v => String.ofList (v.map char) := by
  have hname : name = (Utf8.encode name).map char := by decide
  have htest : ∀ p : Bytes × Bytes, (p.1.map char == name) = (p.1 == Utf8.encode name) := fun p => by
    rw [Bool.eq_iff_iff, beq_iff_eq, beq_iff_eq]
    conv => lhs; rw [hname]
    exact List.map_inj_right char_inj
  unfold token? lineTokens
  rw [String.toList_ofList, pairs_map_char h, List.find?_map, List.head?_map, List.head?_filter, Option.map_map,
    Option.map_map]
  have hfind : (fun p : Bytes × Bytes => p.1.map char == name) = fun p => p.1 == Utf8.encode name := funext htest
  show Option.map _ ((linePairs bs).find? fun p => p.1.map char == name) = _
  rw [hfind]
  rfl

end Cookie
end Token

namespace Http

open Submission (lastToken? named)
open Token.Cookie (lineTokens tokenLine IsTokenByte char)

namespace Request

variable (r : Request)

/-- The values of all headers of a name, whatever the case of its letters. -/
def lines (r : Request) (name : String) : List Bytes := (r.headers.filter fun h => h.1.toLower == name).map Prod.snd

/-- **The tokens that a request carries**: one for each cookie of that name, on whichever line. -/
def tokens (r : Request) : List Bytes := (r.lines "cookie").flatMap lineTokens

/-- The request with other lines of cookies. -/
def withCookies (r : Request) (lines : List Bytes) : Request :=
  { r with headers := r.headers.filter (fun h => h.1.toLower != "cookie") ++ lines.map fun line => ("cookie", line) }

/-- **Whether a token stands in front**: on the first line of cookies, and that line is plain ASCII. -/
def TokenInFront (r : Request) : Prop :=
  ∃ line, (r.lines "cookie").head? = some line ∧ line.all isPlain = true ∧ lineTokens line ≠ []

theorem header?_eq (name : String) : r.header? name = (r.lines name).head? := by
  unfold header? lines
  rw [List.head?_map, List.head?_filter]

theorem lines_withCookies (ls : List Bytes) : (r.withCookies ls).lines "cookie" = ls := by
  have hown : (r.headers.filter fun h => h.1.toLower != "cookie").filter (fun h => h.1.toLower == "cookie") = [] := by
    refine List.filter_eq_nil_iff.2 fun h hh => ?_
    simpa using (List.mem_filter.1 hh).2
  have hall : ∀ h ∈ ls.map fun line => ("cookie", line), (h.1.toLower == "cookie") = true := fun h hh => by
    obtain ⟨line, -, rfl⟩ := List.mem_map.1 hh
    simp [toLower_cookie]
  unfold lines withCookies
  rw [List.filter_append, hown, List.filter_eq_self.2 hall, List.nil_append, List.map_map]
  exact List.map_id' ls

theorem lines_withCookies_of_ne (ls : List Bytes) {name : String} (hn : name ≠ "cookie") :
    (r.withCookies ls).lines name = r.lines name := by
  have hnone : (ls.map fun line => ("cookie", line)).filter (fun h => h.1.toLower == name) = [] := by
    refine List.filter_eq_nil_iff.2 fun h hh => ?_
    obtain ⟨line, -, rfl⟩ := List.mem_map.1 hh
    simpa [toLower_cookie] using Ne.symm hn
  unfold lines withCookies
  rw [List.filter_append, hnone, List.append_nil, List.filter_filter]
  congr 1
  refine List.filter_congr fun h _ => ?_
  by_cases he : h.1.toLower = name
  · simp [he, hn]
  · simp [he]

theorem headerText?_withCookies (ls : List Bytes) {name : String} (hn : name ≠ "cookie") :
    (r.withCookies ls).headerText? name = r.headerText? name := by
  unfold headerText?
  rw [header?_eq, header?_eq, r.lines_withCookies_of_ne ls hn]

theorem plainText?_eq {line : Bytes} (h : line.all isPlain = true) :
    plainText? line = some (String.ofList (line.map char)) := by
  unfold plainText?
  rw [if_pos h]
  rfl

end Request

namespace Desk

variable (d : Desk) (m : Moment) (c : Catalogue) {r : Request}

/-! ## What is read of the cookies -/

theorem cookieOf_eq : cookieOf r = ((r.lines "cookie").head?.bind Request.plainText?).bind Token.Cookie.token? := by
  unfold cookieOf Request.headerText?
  rw [r.header?_eq]

theorem cookieOf_of_head {line : Bytes} (hl : (r.lines "cookie").head? = some line)
    (hp : line.all Request.isPlain = true) :
    cookieOf r = (lineTokens line).head?.map fun v => String.ofList (v.map char) := by
  rw [cookieOf_eq, hl]
  show (Request.plainText? line).bind _ = _
  rw [Request.plainText?_eq hp]
  exact Token.Cookie.token?_map_char (List.all_eq_true.1 hp)

/-- **The only token of a request is read** if it stands in front. -/
theorem cookieOf_of_tokenInFront {value : Bytes} (h : r.tokens = [value]) (hf : r.TokenInFront) :
    cookieOf r = some (String.ofList (value.map char)) := by
  obtain ⟨line, hl, hp, hne⟩ := hf
  obtain ⟨rest, hrest⟩ : ∃ rest, r.lines "cookie" = line :: rest := by
    cases hlines : r.lines "cookie" with
    | nil => rw [hlines] at hl; cases hl
    | cons line' rest => rw [hlines] at hl; cases hl; exact ⟨rest, rfl⟩
  obtain ⟨token, more, htoken⟩ := List.exists_cons_of_ne_nil hne
  rw [Request.tokens, hrest, List.flatMap_cons, htoken, List.cons_append] at h
  obtain rfl := (List.cons.inj h).1
  rw [cookieOf_of_head hl hp, htoken]
  rfl

/-- **No token is read** unless one stands in front. -/
theorem cookieOf_of_not_tokenInFront (hf : ¬ r.TokenInFront) : cookieOf r = none := by
  cases hl : (r.lines "cookie").head? with
  | none => rw [cookieOf_eq, hl]; rfl
  | some line =>
    by_cases hp : line.all Request.isPlain = true
    · have hnone : lineTokens line = [] := Classical.byContradiction fun hne => hf ⟨line, hl, hp, hne⟩
      rw [cookieOf_of_head hl hp, hnone]
      rfl
    · rw [cookieOf_eq, hl]
      show (Request.plainText? line).bind _ = _
      unfold Request.plainText?
      rw [if_neg hp]
      rfl

/-! ## What else of a request matters -/

theorem formOf_withCookies (ls : List Bytes) : formOf (r.withCookies ls) = formOf r := by
  unfold formOf
  rw [r.headerText?_withCookies ls (by decide)]
  rfl

theorem page_withCookies (ls : List Bytes) (h : cookieOf (r.withCookies ls) = cookieOf r) (route : Route) :
    d.page m c (r.withCookies ls) route = d.page m c r route := by
  cases route with
  | confirm =>
    unfold page
    rw [formOf_withCookies, h]
    rfl
  | _ => rfl

/-- **Of its cookies only the token that is read matters** to the answer of a request. -/
theorem handle_withCookies (ls : List Bytes) (h : cookieOf (r.withCookies ls) = cookieOf r) :
    d.handle m c (r.withCookies ls) = d.handle m c r := by
  have htarget : (r.withCookies ls).target = r.target := rfl
  have hmethod : (r.withCookies ls).method = r.method := rfl
  have hanswer : d.answer m c (r.withCookies ls) = d.answer m c r := by
    unfold answer
    rw [htarget, hmethod]
    cases Route.ofPath? r.target.path with
    | none => rfl
    | some route =>
      dsimp only
      rw [d.page_withCookies m c ls h route]
  have hheaders : ∀ cors : Cors, cors.headers (r.withCookies ls) = cors.headers r := fun cors => by
    unfold Cors.headers Cors.granted?
    rw [Request.header?_eq, Request.header?_eq, r.lines_withCookies_of_ne ls (by decide)]
  unfold handle preflight Cors.preflight Cors.grant
  rw [hanswer]
  simp only [hheaders]
  rfl

/-! ## Confirmations without a cookie -/

theorem verdict_without_cookie {g : Token.Guard} {now : Calendar.Instant} {pairs : List (String × String)}
    {token : String} (hkeys : ∀ p ∈ pairs, p.1 ≠ "") (hlast : lastToken? pairs = some token) (hne : token ≠ "")
    (hnamed : named pairs ≠ []) : verdict g now c none pairs = .noCookie := by
  unfold verdict
  rw [if_neg fun ⟨p, hp, he⟩ => hkeys p hp he, hlast]
  dsimp only
  rw [if_neg hne, if_neg hnamed]

theorem status_ne_of_no_cookie (h : cookieOf r = none) : (d.handle m c r).reply.status ≠ 303 := fun hs => by
  obtain ⟨token, -, -, hcookie, -⟩ := ((d.accepted_iff m c r).1 hs).1.double.token
  rw [h] at hcookie
  cases hcookie

/-- **What is accepted with its cookie is forbidden without.** -/
theorem status_of_accepted {ls : List Bytes} (hs : (d.handle m c (r.withCookies ls)).reply.status = 303)
    (h : cookieOf r = none) : (d.handle m c r).reply.status = 403 := by
  have ho : InOrder d m (r.withCookies ls) := ((d.accepted_iff m c _).1 hs).1
  obtain ⟨q, hq⟩ := ho.query
  obtain ⟨token, hne, hlast, -, -⟩ := ho.double.token
  have hconf : IsConfirmation r q (Url.Form.decode r.body) :=
    ⟨ho.double.method, ho.double.path, hq, (formOf_withCookies ls).symm.trans ho.double.form⟩
  have hkeys : ∀ p ∈ Url.Form.decode r.body, p.1 ≠ "" := fun p hp he => ho.keys (List.mem_map.2 ⟨p, hp, he⟩)
  rw [d.handle_of_isConfirmation c q m hconf, h, verdict_without_cookie c hkeys hlast hne ho.chosen]
  rfl

/-- **A token among other cookies.**  A request carries one cookie of the token's name, and any others on the same line
or on others.  If the token stands in front, the answer is the one to the same request with this cookie alone.  If it
does not, because its line is not the first or because some byte of that line is not plain ASCII, the answer is the one
to the same request without cookies: nothing is marked, and what would have been confirmed is forbidden. -/
theorem token_among_cookies (r : Request) (value : Bytes) (hvalue : ∀ b ∈ value, IsTokenByte b)
    (h : r.tokens = [value]) :
    let o := d.handle m c r
    let alone := d.handle m c (r.withCookies [tokenLine value])
    (r.TokenInFront → o = alone) ∧
    (¬ r.TokenInFront →
      o = d.handle m c (r.withCookies []) ∧ o.catalogue = c ∧ (alone.reply.status = 303 → o.reply.status = 403)) := by
  intro o alone
  -- Either way the token that is read is the same as of the other request, and nothing else of the cookies matters.
  constructor
  · intro hf
    have hline := Token.Cookie.lineTokens_tokenLine hvalue
    have htokens : (r.withCookies [tokenLine value]).tokens = [value] := by
      rw [Request.tokens, r.lines_withCookies, List.flatMap_cons, hline]
      rfl
    have hfront : (r.withCookies [tokenLine value]).TokenInFront := by
      refine ⟨tokenLine value, ?_, List.all_eq_true.2 (Token.Cookie.isPlain_of_mem_tokenLine hvalue), ?_⟩
      · rw [r.lines_withCookies]
        rfl
      · rw [hline]
        exact List.cons_ne_nil _ _
    have hread := (cookieOf_of_tokenInFront htokens hfront).trans (cookieOf_of_tokenInFront h hf).symm
    exact (d.handle_withCookies m c _ hread).symm
  · intro hf
    have hnone : cookieOf r = none := cookieOf_of_not_tokenInFront hf
    have hbare : cookieOf (r.withCookies []) = none := by
      rw [cookieOf_eq, r.lines_withCookies]
      rfl
    refine ⟨(d.handle_withCookies m c _ (hbare.trans hnone.symm)).symm, ?_, fun hs => ?_⟩
    · show (d.handle m c r).catalogue = c
      rw [catalogue_handle_eq, if_neg (d.status_ne_of_no_cookie m c hnone)]
    · exact d.status_of_accepted m c hs hnone

/-- A token between two others on the first line, and behind it a line that no reader of text could take: whatever the
moment and the catalogue, the answer is that to the token alone. -/
theorem token_between_others :
    let d : Desk := ⟨{}, ⟨Utf8.encode "key".toList, 3600⟩, 10, false, none⟩
    let value := Utf8.encode "1700000000.n.s".toList
    let r : Request := ⟨"POST", ⟨confirmPath.toList, none⟩,
      [("content-type", Utf8.encode "application/x-www-form-urlencoded".toList),
        ("Cookie", Utf8.encode "theme=dark; csrftoken=1700000000.n.s;csrftoken2=x".toList),
        ("cookie", [0xFF, 0x3D, 0xE9])],
      Utf8.encode "a=on&csrfmiddlewaretoken=1700000000.n.s".toList⟩
    (∀ b ∈ value, IsTokenByte b) ∧ r.tokens = [value] ∧ r.TokenInFront ∧
      ∀ m c, d.handle m c r = d.handle m c (r.withCookies [tokenLine value]) := by
  intro d value r
  have hvalue : ∀ b ∈ value, IsTokenByte b := by
    unfold IsTokenByte
    decide +kernel
  have htokens : r.tokens = [value] := by decide +kernel
  have hfront : r.TokenInFront :=
    ⟨Utf8.encode "theme=dark; csrftoken=1700000000.n.s;csrftoken2=x".toList, by decide +kernel, by decide +kernel,
      by decide +kernel⟩
  exact ⟨hvalue, htokens, hfront, fun m c => (d.token_among_cookies m c r value hvalue htokens).1 hfront⟩

/-- **Other cookies break a confirmation.**  A form with a good token is accepted if its cookie is sent alone.  It is
forbidden if another cookie comes on a line before, and if another cookie on the same line has a letter that is not
plain ASCII. -/
theorem token_behind_others :
    let d : Desk := ⟨{}, ⟨Utf8.encode "key".toList, 3600⟩, 10, false, none⟩
    let m : Moment := ⟨⟨1700000000, 0, by decide, by decide, by decide⟩, [], "", 0⟩
    let c : Catalogue := ⟨[{ id := "a", created := .epoch }], by decide, by decide⟩
    let token := "1700000000.AAAAAAAAAAAAAAAAAAAAAA.qX1GozmLb5j1LqH2yzO1yCVzGrbsd72-he1LDRnIJOE"
    let value := Utf8.encode token.toList
    let alone : Request := ⟨"POST", ⟨confirmPath.toList, none⟩,
      [("content-type", Utf8.encode "application/x-www-form-urlencoded".toList), ("cookie", tokenLine value)],
      Utf8.encode ("a=on&csrfmiddlewaretoken=" ++ token).toList⟩
    (∀ b ∈ value, IsTokenByte b) ∧ (d.handle m c alone).reply.status = 303 ∧
      ∀ lines ∈ [[Utf8.encode "a=1".toList, tokenLine value], [Utf8.encode "é=1; ".toList ++ tokenLine value]],
        let r := alone.withCookies lines
        r.tokens = [value] ∧ r.withCookies [tokenLine value] = alone ∧ (d.handle m c r).reply.status = 403 := by
  intro d m c token value alone
  have hvalue : ∀ b ∈ value, IsTokenByte b := by
    unfold IsTokenByte
    decide +kernel
  have h303 : (d.handle m c alone).reply.status = 303 := by decide +kernel
  -- Neither of the lines lets the token be read.
  have hunread : ∀ lines ∈ [[Utf8.encode "a=1".toList, tokenLine value], [Utf8.encode "é=1; ".toList ++ tokenLine value]],
      (alone.withCookies lines).tokens = [value] ∧ (alone.withCookies lines).withCookies [tokenLine value] = alone ∧
        cookieOf (alone.withCookies lines) = none := by
    decide +kernel
  refine ⟨hvalue, h303, ?_⟩
  intro lines hlines r
  obtain ⟨htokens, halone, hnone⟩ := hunread lines hlines
  have haccepted : (d.handle m c (r.withCookies [tokenLine value])).reply.status = 303 := by
    rw [halone]
    exact h303
  exact ⟨htokens, halone, d.status_of_accepted m c haccepted hnone⟩

end Desk
end Http
end NodeDesk
