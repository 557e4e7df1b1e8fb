/-!
# Cut — taking a text apart at a mark

The elements are characters or bytes.
-/
namespace NodeDesk
namespace Text

variable {α : Type} [DecidableEq α]

/-- What stands before and after the first mark, if there is one. -/
def cut? (mark : α) : List α → Option (List α × List α)
  | [] => none
  | a :: r => if a = mark then some ([], r) else (cut? mark r).map fun p => (a :: p.1, p.2)

/-- The parts between the marks, one more than there are marks. -/
def parts (mark : α) : List α → List (List α)
  | [] => [[]]
  | a :: r =>
    if a = mark then [] :: parts mark r
    else match parts mark r with
      | [] => [[a]]
      | p :: ps => (a :: p) :: ps

/-- There is always one part at least. -/
theorem parts_ne_nil (mark : α) (as : List α) : parts mark as ≠ [] := by
  cases as with
  | nil => simp [parts]
  | cons a r =>
    unfold parts
    split
    · simp
    · split <;> simp

end Text
end NodeDesk
