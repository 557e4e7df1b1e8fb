import NodeDesk.Catalogue
import NodeDesk.Config.Basic
import NodeDesk.Http.Cors
import NodeDesk.Http.ListQuery
import NodeDesk.Http.Route
import NodeDesk.Log.Event
import NodeDesk.Node.Codec
import NodeDesk.Submission
import NodeDesk.Token.Cookie
import NodeDesk.View.Layout
import NodeDesk.View.Listing
/-!
# Desk — answering requests

A desk is set up once and does not change.  A request is answered from the catalogue as it stands and from what the
moment brings: the clock, a nonce and the number of the request.  The answer is a reply, the events to be logged in
their order, and the catalogue afterwards, which only a confirmation changes.
-/
namespace NodeDesk
namespace Http

open Log (Event)

/-- A desk that is set up. -/
structure Desk where
  listing : View.Listing
  guard : Token.Guard
  perPage : Nat
  showTitle : Bool
  /-- The origins that may read replies, if any were configured. -/
  cors : Option Cors
  deriving Repr, DecidableEq

/-- What a request finds when it comes. -/
structure Moment where
  now : Calendar.Instant
  /-- Sixteen bytes that no other moment has. -/
  nonce : Bytes
  requestId : String
  /-- How many milliseconds the answer takes. -/
  duration : Nat

/-- What a request leads to. -/
structure Outcome where
  reply : Reply
  events : List Event
  catalogue : Catalogue

namespace Desk

/-- The guard of a setup, with a secret in case it names none. -/
def guardOf (c : Config) (fallback : Bytes) : Token.Guard :=
  ⟨match c.secret with
    | some s => Utf8.encode s.toList
    | none => fallback, c.maxAge⟩

/-- The origins of a setup, if it names any. -/
def corsOf (c : Config) : Option Cors :=
  if c.corsOrigins.isEmpty then none else some ⟨Cors.legal c.corsOrigins⟩

/-- Sets a desk up, with a secret in case the setup names none; nothing if the setup lists the origin that stands for
all. -/
def ofConfig? (c : Config) (fallback : Bytes) : Option Desk :=
  if (Cors.legal c.corsOrigins).contains Cors.wildcard then none
  else some ⟨{ links := c.links, dateStyle := c.dateStyle }, guardOf c fallback, c.perPage, c.showTitle, corsOf c⟩

def refusal (p : Problem) : Reply := .json p.status p.toJson

/-- One page of the listing at a path, inside a form if there is one. -/
def listingReply (d : Desk) (c : Catalogue) (path title : String) (q : ListQuery)
    (form : Option View.Selection) : Except Problem Reply :=
  let number := q.page.getD 1
  let showTitle := q.showTitle.getD d.showTitle
  match c.page? number d.perPage with
  | none => .error (.invalidPage number)
  | some page =>
    let links : View.PageLinks := ⟨path, [("show_title", if showTitle then "true" else "false")]⟩
    let listing := { d.listing with pages := links }
    .ok (.html (View.layout View.siteName title (listing.pieces page showTitle form)))

def nodesReply (d : Desk) (c : Catalogue) (q : ListQuery) : Reply :=
  match d.listingReply c nodesPath "List of Nodes" q none with
  | .ok r => r
  | .error p => refusal p

/-- The listing with the form, whose token is handed out in the form and in a cookie. -/
def spamReply (d : Desk) (m : Moment) (c : Catalogue) (q : ListQuery) : Reply :=
  let token := d.guard.issue m.now m.nonce
  match d.listingReply c spamPath "Flag Spam" q (some ⟨confirmPath ++ q.text d.showTitle, token⟩) with
  | .ok r => r.withHeader "set-cookie" (Token.Cookie.header d.guard token spamPath)
  | .error p => refusal p

def nodeReply (c : Catalogue) (id : String) : Reply :=
  match c.get? id with
  | some n => .json 200 n.toJson
  | none => refusal (.nodeNotFound id)

def userReply (c : Catalogue) (id : String) : Reply :=
  let nodes := c.ofUser id
  if nodes.isEmpty then refusal (.userNotFound id)
  else .json 200 (.object [("id", .string id), ("nodes", .list (nodes.map Node.toJson)),
    ("total", .natural nodes.length)])

/-- The version of this program. -/
def version : String := "0.1.0"

def healthReply : Reply := .json 200 (.object [("status", .string "ok"), ("version", .string version)])

def badQuery (f : ListQuery.Fault) : Reply := .plain 400 ("Failed to deserialize query string: " ++ f.message)

/-- The reply to a segment that holds no text. -/
def badSegment : Reply := .plain 400 "Invalid URL: Invalid UTF-8 in `id`"

/-- The most bytes that the body of a form may have. -/
def maxBody : Nat := 2097152

/-- The pairs of a form, or the reply to a body that is none. -/
def formOf (r : Request) : Except Reply (List (String × String)) :=
  let kind := (r.headerText? "content-type").getD ""
  if ¬ "application/x-www-form-urlencoded".toList.isPrefixOf kind.toList then
    .error (.plain 415 "Form requests must have `Content-Type: application/x-www-form-urlencoded`")
  else if maxBody < r.body.length then
    .error (.plain 413 "Failed to buffer the request body: length limit exceeded")
  else .ok (Url.Form.decode r.body)

/-- The token in the cookie of a request. -/
def cookieOf (r : Request) : Option String := (r.headerText? "cookie").bind Token.Cookie.token?

/-- Marks the nodes of a confirmation whose token is in order. -/
def confirmed (d : Desk) (c : Catalogue) (q : ListQuery) (s : Submission) : Outcome :=
  match c.mark s.ids with
  | .error id => ⟨refusal (.nodeNotFound id), [], c⟩
  | .ok (flagged, c') => ⟨.redirect (spamPath ++ q.text d.showTitle), [.spamConfirmed flagged s.ids], c'⟩

/-- Answers a confirmation.  The form is checked first, then the two copies of its token, then the nodes. -/
def confirm (d : Desk) (now : Calendar.Instant) (c : Catalogue) (q : ListQuery) (cookie : Option String)
    (pairs : List (String × String)) : Outcome :=
  match Submission.ofPairs pairs with
  | .error .noToken => ⟨refusal .tokenRejected, [.tokenRejected .missingToken], c⟩
  | .error f => ⟨refusal f.problem, [], c⟩
  | .ok s =>
    if d.guard.acceptsPair s.token cookie now then d.confirmed c q s
    else
      let why : Log.Rejection := if cookie.isNone then .missingCookie else .mismatch
      ⟨refusal .tokenRejected, [.tokenRejected why], c⟩

/-- Answers a request that a listing reads a query from. -/
def withQuery (r : Request) (c : Catalogue) (k : ListQuery → Outcome) : Outcome :=
  match ListQuery.read r.target.query with
  | .error f => ⟨badQuery f, [], c⟩
  | .ok q => k q

/-- The reply about the id in a segment. -/
def withId (segment : List Char) (k : String → Reply) : Reply :=
  match Url.Percent.decodeText? segment with
  | none => badSegment
  | some id => k (String.ofList id)

/-- Answers a request for a page by a method that it answers. -/
def page (d : Desk) (m : Moment) (c : Catalogue) (r : Request) : Route → Outcome
  | .health => ⟨healthReply, [], c⟩
  | .nodes => withQuery r c fun q => ⟨d.nodesReply c q, [], c⟩
  | .spam => withQuery r c fun q => ⟨d.spamReply m c q, [], c⟩
  | .node id => ⟨withId id (nodeReply c), [], c⟩
  | .user id => ⟨withId id (userReply c), [], c⟩
  | .confirm => withQuery r c fun q =>
    match formOf r with
    | .error reply => ⟨reply, [], c⟩
    | .ok pairs => d.confirm m.now c q (cookieOf r) pairs

/-- Answers a request, before it is logged. -/
def answer (d : Desk) (m : Moment) (c : Catalogue) (r : Request) : Outcome :=
  match Route.ofPath? r.target.path with
  | none => ⟨.empty 404, [], c⟩
  | some route =>
    if route.answers r.method then
      let o := d.page m c r route
      if r.method = "HEAD" then { o with reply := o.reply.bodiless } else o
    else ⟨(Reply.empty 405).withHeader "allow" route.allowed, [], c⟩

/-- The event that closes the answer to a request. -/
def logged (m : Moment) (r : Request) (status : Nat) : Event :=
  .requestAnswered r.method (String.ofList r.target.path) status m.duration m.requestId

/-- The reply to a request for what is allowed, which names the methods of the page as well if there is one. -/
def preflight (cors : Cors) (r : Request) : Reply :=
  match Route.ofPath? r.target.path with
  | none => cors.preflight r
  | some route => (cors.preflight r).withHeader "allow" route.allowed

/-- Answers a request. -/
def handle (d : Desk) (m : Moment) (c : Catalogue) (r : Request) : Outcome :=
  let o := d.answer m c r
  let o := { o with events := o.events ++ [logged m r o.reply.status] }
  match d.cors with
  | none => o
  | some cors =>
    if r.method = "OPTIONS" then ⟨preflight cors r, [], c⟩
    else { o with reply := cors.grant r o.reply }

end Desk
end Http
end NodeDesk
