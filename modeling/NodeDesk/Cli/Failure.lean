import NodeDesk.Json.Fault
import NodeDesk.Problem
/-!
# Failure — how a command ends that cannot be carried out

A failure has a code, by which other programs know it, and a message.
-/
namespace NodeDesk
namespace Cli

/-- What failed. -/
inductive Area where
  /-- The setup. -/
  | config
  /-- The nodes, or the page that is asked for. -/
  | data
  /-- A file or an output. -/
  | files
  /-- The service could not be started, or broke off. -/
  | service
  deriving Repr, DecidableEq

def Area.code : Area → String
  | .config => "NODEADMIN_CONFIG_ERROR"
  | .data => "NODEADMIN_DATA_ERROR"
  | .files => "NODEADMIN_IO_ERROR"
  | .service => "NODEADMIN_SERVE_FAILED"

/-- Why a command is not carried out. -/
structure Failure where
  area : Area
  message : String
  deriving Repr, DecidableEq

namespace Failure

/-- A failure in one line. -/
def text (f : Failure) : String := f.area.code ++ ": " ++ f.message

def ofProblem (p : Problem) : Failure :=
  match p with
  | .configuration _ => ⟨.config, p.message⟩
  | _ => ⟨.data, p.message⟩

def ofFault (f : Json.Fault) : Failure := ⟨.data, "JSON error: " ++ f.message⟩

end Failure
end Cli
end NodeDesk
