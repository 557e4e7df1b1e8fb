import NodeDesk.Cli.Run
import Std.Time.DateTime.Timestamp
/-!
# Main — the program

All that is done here is to read files, the clock and random bytes, and to write what a run leaves behind.
-/
namespace NodeDesk
namespace Main

/-- Why the disk does not give a file. -/
def faultOf (e : IO.Error) : FileFault :=
  match e with
  | .noFileOrDirectory .. => .absent
  | .permissionDenied .. => .forbidden
  | .inappropriateType _ 20 _ => .notDirectory
  | .inappropriateType .. => .isDirectory
  | e => .other (toString e)

def fileBytes (path : String) : IO (Except FileFault Bytes) := do
  try
    let bytes ← IO.FS.readBinFile path
    return .ok bytes.toList
  catch e => return .error (faultOf e)

/-- Carries a program out that reads files. -/
def perform {α : Type} : Reading α → IO α
  | .done a => return a
  | .ask path next => do
    let content ← fileBytes path
    perform (next content)

def clock : IO Calendar.Instant := do
  let t ← Std.Time.Timestamp.now
  let nanos := t.toNanosecondsSinceUnixEpoch.val
  return (Calendar.Instant.of? (nanos / 1000000000) (nanos % 1000000000).toNat).getD .epoch

/-- What this run finds when it comes.  Nothing is served from here, so no address is refused. -/
def occasion : IO Cli.Occasion := do
  let now ← clock
  let nonce ← IO.getRandomBytes 16
  let secret ← IO.getRandomBytes 32
  return ⟨now, nonce.toList, secret.toList, Net.Machine.willing⟩

end Main
end NodeDesk

def main (words : List String) : IO UInt32 := do
  let t ← NodeDesk.Main.perform (NodeDesk.Cli.trace (← NodeDesk.Main.occasion) words)
  (← IO.getStdout).putStr t.output
  (← IO.getStderr).putStr t.errors
  return UInt32.ofNat t.code
