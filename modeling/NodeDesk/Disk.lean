import NodeDesk.Files
import NodeDesk.Text.Cut
/-!
# Disk — files held in memory

A path is walked segment by segment, from the root if it begins with a slash and else from the working directory: an
empty segment or a point stays where it is, two points go back, and any other segment enters what it names.  There is
nothing before the root, so two points stay there.
-/
namespace NodeDesk

/-- Files and directories, each by the segments that lead to it from the root. -/
structure Disk where
  /-- The working directory. -/
  home : List String
  files : List (List String × Bytes)
  directories : List (List String)

namespace Disk

def segments (path : String) : List String := (Text.parts '/' path.toList).map String.ofList

/-- Whether there is a directory at some segments: one of its own, or one that something stands in. -/
def isDirectory (d : Disk) (here : List String) : Bool :=
  here.isPrefixOf d.home || d.directories.any here.isPrefixOf
    || d.files.any fun f => here.isPrefixOf f.1 && here != f.1

/-- The most bytes that a segment may have. -/
def maxSegment : Nat := 255

/-- Walks on from a directory. -/
def walk (d : Disk) : List String → List String → Except FileFault Bytes
  | _, [] => .error .isDirectory
  | here, s :: rest =>
    if s = "" ∨ s = "." then d.walk here rest
    else if s = ".." then d.walk here.dropLast rest
    else if maxSegment < s.utf8ByteSize then .error .nameTooLong
    else
      let there := here ++ [s]
      match d.files.find? (·.1 == there) with
      | some f => if rest.isEmpty then .ok f.2 else .error .notDirectory
      | none => if d.isDirectory there then d.walk there rest else .error .absent

/-- The most bytes that a path may have. -/
def maxPath : Nat := 4095

def read (d : Disk) : Files := fun path =>
  if path.toList.contains '\x00' then .error .badName
  else if path = "" then .error .absent
  else if maxPath < path.utf8ByteSize then .error .nameTooLong
  else d.walk (if path.toList.head? = some '/' then [] else d.home) (segments path)

end Disk
end NodeDesk
