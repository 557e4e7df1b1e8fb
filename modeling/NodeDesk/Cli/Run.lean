import NodeDesk.Cli.Command
import NodeDesk.Cli.Failure
import NodeDesk.Config.Codec
import NodeDesk.Fixture
import NodeDesk.Http.Desk
import NodeDesk.Net.Machine
/-!
# Run — carrying out a command

`render` writes one page of the nodes in a file.  `serve` sets the desk up and finds the address that it is to be
served at; what happens at that address is not part of the command.
-/
namespace NodeDesk
namespace Cli

open Log (Event)

/-- What a run finds when it comes: the clock, bytes that no other run has, and the machine that it runs on. -/
structure Occasion where
  now : Calendar.Instant
  nonce : Bytes
  secret : Bytes
  machine : Net.Machine

/-- A desk that is to be served. -/
structure Service where
  desk : Http.Desk
  catalogue : Catalogue
  address : Net.Address

/-- How a command ends. -/
inductive Ending where
  /-- With a text for the output. -/
  | printed (text : String)
  /-- With a desk that is ready to be served. -/
  | ready (service : Service)
  | failed (f : Failure)
  /-- At a setup that no desk can be made of. -/
  | broken

/-- The events of a command, and how it ends. -/
structure Report where
  events : List Event
  ending : Ending

/-- Writes one page of a catalogue.  The token in the form is of a guard that nobody else has. -/
def renderPage (occasion : Occasion) (r : Rendering) (c : Catalogue) : Ending :=
  match c.page? r.page r.perPage with
  | none => .failed (.ofProblem (.invalidPage r.page))
  | some page =>
    let guard : Token.Guard := ⟨occasion.secret, 3600⟩
    let form := r.formAction.map fun action => ⟨action, guard.issue occasion.now occasion.nonce⟩
    .printed (Html.render (View.Listing.pieces {} page r.showTitle form) ++ "\n")

def render (occasion : Occasion) (r : Rendering) : Reading Report := do
  match ← Fixture.load r.nodes with
  | .error p => return ⟨[], .failed (.ofProblem p)⟩
  | .ok c => return ⟨[], renderPage occasion r c⟩

/-- Why a desk cannot be served at the address in its setup. -/
inductive AddressFault where
  | unreadable (address : String)
  | refused (r : Net.Refusal)
  deriving Repr, DecidableEq

/-- What is said of an address that a desk cannot be served at. -/
def AddressFault.message : AddressFault → String
  | .unreadable address => "Invalid socket address '" ++ address ++ "': invalid socket address syntax"
  | .refused r => r.message

/-- The address of a setup, if the machine does not refuse it. -/
def addressOf (occasion : Occasion) (config : Config) : Except AddressFault Net.Address :=
  match Net.Address.read? config.address with
  | none => .error (.unreadable config.address)
  | some a =>
    match occasion.machine a with
    | some r => .error (.refused r)
    | none => .ok a

/-- Sets a desk up and finds its address. -/
def prepare (occasion : Occasion) (config : Config) (c : Catalogue) : Ending :=
  match Http.Desk.ofConfig? config occasion.secret with
  | none => .broken
  | some desk =>
    match addressOf occasion config with
    | .error f => .failed ⟨.service, f.message⟩
    | .ok address => .ready ⟨desk, c, address⟩

/-- The nodes to begin with, and the event of having read them. -/
def firstNodes (config : Config) : Reading (Except Problem (Catalogue × List Event)) := do
  match config.fixture with
  | none => return .ok (.empty, [])
  | some path =>
    match ← Fixture.load path with
    | .error p => return .error p
    | .ok c => return .ok (c, [.fixtureLoaded c.size path])

/-- Carries `serve` out, up to the start of the service. -/
def serve (occasion : Occasion) (path : String) : Reading Report := do
  match ← Config.load path with
  | .error p => return ⟨[], .failed (.ofProblem p)⟩
  | .ok config =>
    match ← firstNodes config with
    | .error p => return ⟨[], .failed (.ofProblem p)⟩
    | .ok (c, events) => return ⟨events, prepare occasion config c⟩

def run (occasion : Occasion) : Command → Reading Report
  | .serve config => serve occasion config
  | .render r => render occasion r

def Service.started (s : Service) : Event := .serverStarted s.address.text

def Failure.event (f : Failure) : Event := .failed f.area.code f.message

/-- Everything a run leaves behind: what it wrote, and the number that it ends with. -/
structure Trace where
  output : String
  errors : String
  code : Nat
  deriving Repr, DecidableEq

/-- The lines of some events on one of the two outputs. -/
def lines (errors : Bool) (events : List Event) : String :=
  String.join ((events.filter fun e => e.record.severity.isError == errors).map fun e => e.record.line)

def Report.trace (r : Report) : Trace :=
  match r.ending with
  | .printed text => ⟨lines false r.events ++ text, lines true r.events, 0⟩
  | .ready s => ⟨lines false (r.events ++ [s.started]), lines true (r.events ++ [s.started]), 0⟩
  | .failed f => ⟨lines false (r.events ++ [f.event]), lines true (r.events ++ [f.event]), 1⟩
  | .broken => ⟨lines false r.events, lines true r.events, 101⟩

/-- The line that tells the version. -/
def versionLine : String := "nodeadmin " ++ Http.Desk.version ++ "\n"

/-- How the words on the command line are to be put. -/
def usageText : String :=
  String.intercalate "\n"
    ["Usage:",
      "  nodeadmin serve [--config PATH]",
      "  nodeadmin render --nodes PATH [--page N] [--per-page N] [--show-title] [--form-action URL]",
      "  nodeadmin help [COMMAND]",
      "  nodeadmin --version",
      ""]

/-- What words leave behind that are no command. -/
def Usage.trace : Usage → Trace
  | .version => ⟨versionLine, "", 0⟩
  | .help => ⟨usageText, "", 0⟩
  | _ => ⟨"", usageText, 2⟩

/-- What the program leaves behind when it is called with some words. -/
def trace (occasion : Occasion) (words : List String) : Reading Trace := do
  match Command.read words with
  | .error u => return u.trace
  | .ok c => return (← run occasion c).trace

end Cli
end NodeDesk
