import NodeDesk.Calendar.Instant
import NodeDesk.Crypto.Sha256
import NodeDesk.Text.Base64
import NodeDesk.Text.Cut
import NodeDesk.Text.Decimal
/-!
# Guard — tokens that are signed and expire

A token is the second it was issued in, a nonce and a signature of both, with points between them.  It is accepted
while it is not older than its lifetime allows and not more than a minute ahead of the clock.
-/
namespace NodeDesk
namespace Token

/-- What issues and accepts tokens. -/
structure Guard where
  secret : Bytes
  /-- How many seconds a token lives. -/
  maxAge : Int
  deriving Repr, DecidableEq

/-- How many seconds a token may be ahead of the clock. -/
def maxSkew : Int := 60

namespace Guard

/-- The signature of a time stamp and a nonce. -/
def signature (g : Guard) (issued nonce : List Char) : List Char :=
  Base64.encode (Sha256.digest (g.secret ++ Utf8.encode (issued ++ '.' :: nonce)))

/-- The token of a time stamp and the bytes of a nonce. -/
def issueChars (g : Guard) (now : Calendar.Instant) (nonce : Bytes) : List Char :=
  let issued := Decimal.signed now.seconds
  let nonce := Base64.encode nonce
  issued ++ '.' :: nonce ++ '.' :: g.signature issued nonce

def issue (g : Guard) (now : Calendar.Instant) (nonce : Bytes) : String := String.ofList (g.issueChars now nonce)

/-- The time stamp, nonce and signature of a token: what stands before the first point, before the second, and after
it. -/
def fields? (token : List Char) : Option (List Char × List Char × List Char) := do
  let (issued, rest) ← Text.cut? '.' token
  let (nonce, signature) ← Text.cut? '.' rest
  return (issued, nonce, signature)

/-- How old a token of a time stamp is, in a word of 64 bits: a difference that does not fit one wraps around. -/
def age (now : Calendar.Instant) (issued : Int) : Int := (now.seconds - issued).bmod 18446744073709551616

/-- Whether a token of this age is accepted. -/
def fresh (g : Guard) (age : Int) : Bool := -maxSkew ≤ age && age ≤ g.maxAge

/-- Whether a token is accepted at this time. -/
def accepts (g : Guard) (token : String) (now : Calendar.Instant) : Bool :=
  match fields? token.toList with
  | none => false
  | some (issued, nonce, signature) =>
    !issued.isEmpty && !nonce.isEmpty && !signature.isEmpty && signature == g.signature issued nonce &&
      match Decimal.readSigned? maxSigned issued with
      | .error _ => false
      | .ok seconds => g.fresh (age now seconds)

/-- Whether a token is accepted of which the form and a cookie each carry a copy. -/
def acceptsPair (g : Guard) (field : String) (cookie : Option String) (now : Calendar.Instant) : Bool :=
  cookie == some field && g.accepts field now

/-- What a guard shows of itself: nothing of its secret. -/
def shown (g : Guard) : String := "CsrfGuard \x7b max_age_secs: " ++ toString g.maxAge ++ ", .. \x7d"

end Guard
end Token
end NodeDesk
