import TokenSheet.Console.CellTable

/-!
Cells of a terminal line.

Most characters take one cell, some take none and some two. A tab reaches to the next stop, and stops are eight cells
apart, which is what a console of the `rich` library has by default.
-/

namespace TokenSheet.Console

/-- Whether a number lies in one of some ranges. -/
def inRanges (ranges : List (Nat × Nat)) (n : Nat) : Bool :=
  ranges.any fun r => r.1 ≤ n && n ≤ r.2

/-- The count of cells that a character takes. -/
def cellsOf (c : Char) : Nat :=
  let n := c.toNat
  if 0x20 ≤ n && n < 0x7F then 1
  else if inRanges cellLess n then 0
  else if inRanges twoCells n then 2
  else 1

/-- The distance between tab stops. -/
def tabWidth : Nat := 8

/-- The count of cells that a tab takes at a cell: as many as it takes to the next stop. -/
def tabCells (cell : Nat) : Nat :=
  tabWidth - cell % tabWidth

/-- A text with spaces in place of its tabs; `cell` is the count of cells in front of it on its line. -/
def expandTabsFrom (cell : Nat) : List Char → List Char
  | [] => []
  | c :: rest =>
    if c == '\t' then
      List.replicate (tabCells cell) ' ' ++ expandTabsFrom (cell + tabCells cell) rest
    else if c == '\n' then c :: expandTabsFrom 0 rest
    else c :: expandTabsFrom (cell + cellsOf c) rest

/-- A text with spaces in place of its tabs. -/
def expandTabs (s : List Char) : List Char :=
  expandTabsFrom 0 s

end TokenSheet.Console
