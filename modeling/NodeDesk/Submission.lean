import NodeDesk.Problem
import NodeDesk.View.Selection
/-!
# Submission — what a confirmation form says

The form sends a pair for each chosen node, named after it, and one for the token; the values of the former do not
matter.  An empty id is refused at once, then a missing token, then an empty choice.
-/
namespace NodeDesk

/-- A confirmation: its token, and the chosen nodes in the order in which they were first named. -/
structure Submission where
  token : String
  ids : List String
  deriving Repr, DecidableEq

namespace Submission

/-- Why a form is no confirmation. -/
inductive Fault where
  | emptyId
  | noToken
  | nothingChosen
  deriving Repr, DecidableEq

def Fault.problem : Fault → Problem
  | .emptyId => .invalidSubmission "Empty node id"
  | .noToken => .tokenRejected
  | .nothingChosen => .invalidSubmission "No nodes selected"

/-- Reads one pair onto the last token and the ids named so far. -/
def step (s : Option String × List String) (pair : String × String) : Except Fault (Option String × List String) :=
  if pair.1 = View.tokenField then .ok (some pair.2, s.2)
  else if pair.1 = "" then .error .emptyId
  else .ok (s.1, if s.2.contains pair.1 then s.2 else s.2 ++ [pair.1])

def ofPairs (pairs : List (String × String)) : Except Fault Submission := do
  let (token, ids) ← pairs.foldlM step (none, [])
  match token with
  | none => .error .noToken
  | some token =>
    if token = "" then .error .noToken
    else if ids.isEmpty then .error .nothingChosen
    else .ok ⟨token, ids⟩

end Submission
end NodeDesk
