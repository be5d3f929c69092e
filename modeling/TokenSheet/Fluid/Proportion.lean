import TokenSheet.Text.Blank
import TokenSheet.Text.Case

/-!
Proportions of a grid of twelve columns.

A token whose name speaks of a proportion, and not of the viewport, is written as a count of columns. The
longer words come first in `proportionWords`, so that three quarters are not taken for one.
-/

namespace TokenSheet.Fluid

open Text (lower mentions)

/-- The columns of the grid. -/
def gridColumns : Nat := 12

/-- The words for parts of the grid with their columns, the first match counting. -/
def proportionWords : List (String × Nat) := [
  ("three-quarters", 9), ("three quarters", 9), ("threequarters", 9),
  ("three-quarter", 9), ("three quarter", 9), ("threequarter", 9),
  ("two-thirds", 8), ("two thirds", 8), ("twothirds", 8),
  ("two-third", 8), ("two third", 8), ("twothird", 8),
  ("quarter", 3), ("whole", 12), ("third", 4), ("half", 6)]

/-- The columns of a token by its name, if it is a proportion. -/
def proportionColumns? (name : String) : Option Nat :=
  let low := lower name
  if mentions low "proportion" && !mentions low "viewport" then
    (proportionWords.find? fun w => mentions low w.1).map (·.2)
  else none

end TokenSheet.Fluid
