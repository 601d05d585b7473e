/-! # Splitting at the last match -/

namespace TypedTag.Text

variable {α : Type}

/-- The parts before and after the last element of a kind. -/
def splitLast? (p : α → Bool) : List α → Option (List α × List α)
  | [] => none
  | a :: as =>
    match splitLast? p as with
    | some (before, after) => some (a :: before, after)
    | none => if p a then some ([], as) else none

end TypedTag.Text
