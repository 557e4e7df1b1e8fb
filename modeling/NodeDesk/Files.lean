import NodeDesk.Text.Utf8
/-!
# Files — what a program asks of the disk

A program that reads files is a tree: it is done, or it asks for one file and goes on with what it gets.  The same
tree is run on files held in memory and, outside of this library's logic, on a disk.
-/
namespace NodeDesk

/-- Why a file is not read. -/
inductive FileFault where
  | absent
  | isDirectory
  | notDirectory
  | forbidden
  | nameTooLong
  | badName
  /-- Its bytes are no text. -/
  | notText
  /-- Anything else, in the words of the disk. -/
  | other (message : String)
  deriving Repr, DecidableEq

def FileFault.message : FileFault → String
  | .absent => "No such file or directory (os error 2)"
  | .isDirectory => "Is a directory (os error 21)"
  | .notDirectory => "Not a directory (os error 20)"
  | .forbidden => "Permission denied (os error 13)"
  | .nameTooLong => "File name too long (os error 36)"
  | .badName => "file name contained an unexpected NUL byte"
  | .notText => "stream did not contain valid UTF-8"
  | .other message => message

/-- The bytes at each path. -/
abbrev Files := String → Except FileFault Bytes

/-- A program that reads files. -/
inductive Reading (α : Type) where
  | done (a : α)
  | ask (path : String) (next : Except FileFault Bytes → Reading α)

namespace Reading

/-- The result of a program on given files. -/
def run {α : Type} (files : Files) : Reading α → α
  | done a => a
  | ask path next => (next (files path)).run files

/-- Goes on with the result of a program. -/
def bind {α β : Type} (p : Reading α) (k : α → Reading β) : Reading β :=
  match p with
  | done a => k a
  | ask path next => .ask path fun b => (next b).bind k

instance : Monad Reading where
  pure := done
  bind := bind

variable {α β : Type} (files : Files)

@[simp] theorem run_bind (p : Reading α) (k : α → Reading β) : (p >>= k).run files = (k (p.run files)).run files := by
  induction p with
  | done a => rfl
  | ask path next ih => exact ih (files path)

end Reading

def textOf (content : Except FileFault Bytes) : Except FileFault (List Char) :=
  match content with
  | .error f => .error f
  | .ok bytes =>
    match Utf8.decode? bytes with
    | some cs => .ok cs
    | none => .error .notText

def readText (path : String) : Reading (Except FileFault (List Char)) := .ask path fun b => .done (textOf b)

end NodeDesk
