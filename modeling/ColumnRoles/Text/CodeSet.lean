import ColumnRoles.Text.CodeRange

/-!
Sets of characters in a form of their own: the ranges ascend, and between any two of them lies a
code point that belongs to neither. Two sets with the same members are then the same list.
-/
namespace ColumnRoles.Text

/-- The ranges of a set with one more range; those that meet or touch it become one with it. -/
def insertRange (added : CodeRange) : List CodeRange → List CodeRange
  | [] => [added]
  | range :: rest =>
    if added.2 + 1 < range.1 then added :: range :: rest
    else if range.2 + 1 < added.1 then range :: insertRange added rest
    else insertRange (min added.1 range.1, max added.2 range.2) rest

def unionOf (ranges : List CodeRange) : List CodeRange :=
  ranges.foldr insertRange []

def lastCode : Nat := 0x10FFFF

def gapsFrom (next : Nat) : List CodeRange → List CodeRange
  | [] => if next ≤ lastCode then [(next, lastCode)] else []
  | range :: rest =>
    if next < range.1 then (next, range.1 - 1) :: gapsFrom (range.2 + 1) rest
    else gapsFrom (range.2 + 1) rest

def complement (ranges : List CodeRange) : List CodeRange :=
  gapsFrom 0 ranges

end ColumnRoles.Text
