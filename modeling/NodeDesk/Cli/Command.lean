import NodeDesk.Cli.Setting
/-!
# Command — what the words on the command line ask for

The first word names the command and the others are its options.
-/
namespace NodeDesk
namespace Cli

/-- One page to be written out. -/
structure Rendering where
  /-- The file that holds the nodes. -/
  nodes : String
  page : Nat
  perPage : Nat
  showTitle : Bool
  /-- Where the form is submitted to, if there is to be one. -/
  formAction : Option String
  deriving Repr, DecidableEq

/-- What the program is to do. -/
inductive Command where
  /-- To serve the desk that is set up in a file. -/
  | serve (config : String)
  | render (r : Rendering)
  deriving Repr, DecidableEq

namespace Command

/-- A path, which is not empty. -/
def path (s : String) : Except Usage String := if s = "" then .error .noValue else .ok s

/-- A number that a 64-bit word holds. -/
def number (s : String) : Except Usage Nat :=
  match Decimal.read? maxWord s.toList with
  | .ok n => .ok n
  | .error _ => .error .badValue

/-- The options of `serve`, which change the path of the setup. -/
def serveSettings : List (Setting String) := [.valued "config" fun v _ => path v]

/-- The options of `render`; the file is not known at first. -/
def renderSettings : List (Setting (Option String × Rendering)) :=
  [.valued "nodes" fun v s => do return (some (← path v), s.2),
    .valued "page" fun v s => do return (s.1, { s.2 with page := ← number v }),
    .valued "per-page" fun v s => do return (s.1, { s.2 with perPage := ← number v }),
    .switch "show-title" fun s => (s.1, { s.2 with showTitle := true }),
    .valued "form-action" fun v s => .ok (s.1, { s.2 with formAction := some v })]

/-- Reads the options of `serve`. -/
def readServe (words : List String) : Except Usage Command :=
  (Setting.read serveSettings "./nodeadmin.json" words).map .serve

/-- Reads the options of `render`. -/
def readRender (words : List String) : Except Usage Command := do
  let (nodes, r) ← Setting.read renderSettings (none, ⟨"", 1, 100, false, none⟩) words
  match nodes with
  | none => .error .missingOption
  | some nodes => .ok (.render { r with nodes := nodes })

def names : List String := ["serve", "render", "help"]

/-- What the words after `help` ask for: one command at most may be named. -/
def readHelp : List String → Usage
  | [] => .help
  | [name] => if names.contains name then .help else .unknownCommand
  | _ => .unknownCommand

/-- Reads a word that comes before any command. -/
def global : Word → Usage
  | .long name value =>
    if name = "help" ∨ name = "version" then
      if value.isSome then .extraValue else if name = "help" then .help else .version
    else .unknownWord
  | .short c _ => if c = 'h' then .help else if c = 'V' then .version else .unknownWord
  | .escape => .nothing
  | .plain _ => .unknownCommand

def read : List String → Except Usage Command
  | [] => .error .nothing
  | "--" :: w :: _ => .error (if names.contains w then .unknownWord else .unknownCommand)
  | "serve" :: ws => readServe ws
  | "render" :: ws => readRender ws
  | "help" :: ws => .error (readHelp ws)
  | w :: _ => .error (global (Word.of w))

end Command
end Cli
end NodeDesk
