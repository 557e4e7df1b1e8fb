import NodeDesk.Text.Decimal
/-!
# Setting — the words after a command

An option is a word that begins with two hyphens.  It either stands alone or takes a value: behind an equals sign, or
as the next word, which then must not begin with a hyphen.  Each option may be given once; nothing else may stand
there.  The value of an option is looked at only when the next option or the end of the words is reached.
-/
namespace NodeDesk
namespace Cli

/-- Why words are not understood, or what else they ask for. -/
inductive Usage where
  | help
  | version
  /-- There are no words at all. -/
  | nothing
  | unknownCommand
  | unknownWord
  /-- An option without the value that it takes, or with an empty one where that may not be. -/
  | noValue
  | badValue
  /-- A value for an option that takes none. -/
  | extraValue
  | repeated
  | missingOption
  deriving Repr, DecidableEq

/-- One word. -/
inductive Word where
  /-- Two hyphens alone: no option follows. -/
  | escape
  | long (name : String) (value : Option String)
  /-- One hyphen and the letters after it, of which there is one. -/
  | short (first : Char) (more : List Char)
  | plain (s : String)
  deriving Repr, DecidableEq

def Word.of (s : String) : Word :=
  match s.toList with
  | ['-', '-'] => .escape
  | '-' :: '-' :: r =>
    match r.dropWhile (· != '=') with
    | [] => .long (String.ofList r) none
    | _ :: v => .long (String.ofList (r.takeWhile (· != '='))) (some (String.ofList v))
  | '-' :: c :: r => .short c r
  | _ => .plain s

/-- An option and what it changes. -/
inductive Setting (σ : Type) where
  /-- Stands alone. -/
  | switch (name : String) (put : σ → σ)
  /-- Takes a value. -/
  | valued (name : String) (put : String → σ → Except Usage σ)

namespace Setting

variable {σ : Type}

def name : Setting σ → String
  | .switch n _ => n
  | .valued n _ => n

/-- What is known of the words so far. -/
structure State (σ : Type) where
  /-- The names of the options that were given. -/
  given : List String
  value : σ
  /-- An option whose value was not looked at yet, with the value if it was reached. -/
  waiting : Option (String × (String → σ → Except Usage σ) × Option String)

/-- Notes that an option is given, which it may be once. -/
def note (s : State σ) (name : String) : Except Usage (State σ) :=
  if s.given.contains name then .error .repeated else .ok { s with given := name :: s.given }

/-- Looks at the value of an option that waits for it. -/
def settle (s : State σ) : Except Usage (State σ) :=
  match s.waiting with
  | none => .ok s
  | some (_, _, none) => .error .noValue
  | some (name, put, some v) => do
    let s ← note s name
    return { s with value := ← put v s.value, waiting := none }

/-- Reads an option by its name, and the value that is behind an equals sign if there is one. -/
def long (options : List (Setting σ)) (s : State σ) (name : String) (value : Option String) :
    Except Usage (State σ) :=
  match options.find? (·.name == name), value with
  | some (.valued name put), some v => do settle { ← settle s with waiting := some (name, put, some v) }
  | some (.valued name put), none => do return { ← settle s with waiting := some (name, put, none) }
  | some (.switch _ _), some _ => .error .extraValue
  | some (.switch name put), none => do
    let s ← note (← settle s) name
    return { s with value := put s.value }
  | none, value =>
    if name = "help" then
      if value.isSome then .error .extraValue
      else do
        let _ ← settle s
        .error .help
    else .error .unknownWord

/-- Reads one word, which is not the one that no option follows. -/
def step (options : List (Setting σ)) (s : State σ) : Word → Except Usage (State σ)
  | .escape => .error .unknownWord
  | .long name value => long options s name value
  | .short c _ =>
    if c = 'h' then do
      let _ ← settle s
      .error .help
    else .error .unknownWord
  | .plain v =>
    match s.waiting with
    | some (name, put, none) => .ok { s with waiting := some (name, put, some v) }
    | _ => .error .unknownWord

def readFrom (options : List (Setting σ)) : State σ → List String → Except Usage σ
  | s, [] => (settle s).map State.value
  | s, w :: ws =>
    match Word.of w with
    | .escape => if ws.isEmpty then (settle s).map State.value else .error .unknownWord
    | w => do
      let s ← step options s w
      readFrom options s ws

def read (options : List (Setting σ)) (start : σ) (words : List String) : Except Usage σ :=
  readFrom options ⟨[], start, none⟩ words

end Setting
end Cli
end NodeDesk
