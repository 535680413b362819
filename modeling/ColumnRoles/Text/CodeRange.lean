/-!
Sets of characters and mappings between characters, written as short lists: a set as the closed
ranges of its code points, a mapping as runs of evenly spaced code points that all move by the
same distance.
-/
namespace ColumnRoles.Text

/-- The code points from `first` to `last`, both included. -/
abbrev CodeRange := Nat × Nat

namespace CodeRange

def covers (range : CodeRange) (code : Nat) : Bool :=
  range.1 ≤ code && code ≤ range.2

def single (code : Nat) : CodeRange :=
  (code, code)

end CodeRange

def inRanges (ranges : List CodeRange) (c : Char) : Bool :=
  ranges.any (·.covers c.toNat)

/-- The code points `first`, `first + step`, ... up to `last`; the first of them maps to `target`
and the others move by the same distance. -/
structure CodeRun where
  first : Nat
  last : Nat
  step : Nat
  target : Nat
deriving DecidableEq, Repr

namespace CodeRun

def covers (run : CodeRun) (code : Nat) : Bool :=
  run.first ≤ code && code ≤ run.last && (code - run.first) % run.step == 0

def image (run : CodeRun) (code : Nat) : Nat :=
  code - run.first + run.target

def codes (run : CodeRun) : List Nat :=
  List.range' run.first ((run.last - run.first) / run.step + 1) run.step

def imagesOf (run : CodeRun) (range : CodeRange) : List Nat :=
  if range.2 < run.first || run.last < range.1 then []
  else (run.codes.filter range.covers).map run.image

def sourcesOf (run : CodeRun) (range : CodeRange) : List Nat :=
  if range.2 < run.target || run.image run.last < range.1 then []
  else run.codes.filter fun code => range.covers (run.image code)

end CodeRun

/-- The character to which the runs take `c`; a character they do not cover stays as it is. -/
def mapByRuns (runs : List CodeRun) (c : Char) : Char :=
  match runs.find? (·.covers c.toNat) with
  | some run => Char.ofNat (run.image c.toNat)
  | none => c

end ColumnRoles.Text
