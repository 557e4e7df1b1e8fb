import NodeDesk.Net.Address
/-!
# Machine — where a machine lets a desk be served

A machine looks at an address and refuses it or not.  What it refuses depends on the networks that it is on and on who
uses it.
-/
namespace NodeDesk
namespace Net

/-- Why a machine refuses an address. -/
inductive Refusal where
  /-- The socket is kept for the owner of the machine. -/
  | forbidden
  /-- A host of this kind cannot be served at. -/
  | unfit
  /-- The machine has no network of this number. -/
  | noNetwork
  /-- The host is not this machine. -/
  | elsewhere
  deriving Repr, DecidableEq

def Refusal.message : Refusal → String
  | .forbidden => "Permission denied (os error 13)"
  | .unfit => "Invalid argument (os error 22)"
  | .noNetwork => "No such device (os error 19)"
  | .elsewhere => "Cannot assign requested address (os error 99)"

/-- What a machine has against an address, if anything. -/
abbrev Machine := Address → Option Refusal

namespace Machine

/-- A machine that refuses nothing. -/
def willing : Machine := fun _ => none

/-- Whether a socket is kept for the owner of the machine.  The number zero leaves the choice to the machine. -/
def isKept (socket : Nat) : Bool := 0 < socket && socket < 1024

/-- Whether a host of eight groups stands for many machines at once. -/
def isMany (groups : List Nat) : Bool := groups.head?.any (0xFF00 ≤ ·)

/-- Whether a host of eight groups is known on one network only, which must then be named by its number. -/
def isNearby (groups : List Nat) : Bool := groups.head?.any fun g => 0xFE80 ≤ g && g ≤ 0xFEBF

/-- Whether eight groups stand for every host of the machine or hold a host of four numbers. -/
def isOpen (groups : List Nat) : Bool :=
  groups.all (· == 0) || groups.take 6 == [0, 0, 0, 0, 0, 0xFFFF]

/-- What a machine that is on no network has against a host of eight groups that lies on a numbered one: it knows the
first, which is its own. -/
def aloneNearby (scope : Nat) : Refusal :=
  match scope with
  | 0 => .unfit
  | 1 => .elsewhere
  | _ => .noNetwork

/-- A machine that is on no network and is used by somebody who does not own it.  It takes every host of four numbers
for its own, and of those of eight groups only the ones that need no network. -/
def alone : Machine := fun a =>
  match a.host with
  | .v4 _ => if isKept a.socket then some .forbidden else none
  | .v6 groups scope =>
    if isMany groups then some .unfit
    else if isKept a.socket then some .forbidden
    else if isOpen groups then none
    else if isNearby groups then some (aloneNearby scope)
    else some .elsewhere

end Machine
end Net
end NodeDesk
