import ColumnRoles.Text.CodeRange

/-!
Sets of characters seen as bytes. The encodings of the characters of a range are cut into a few
sequences of byte ranges, such that a character belongs to the range exactly if its bytes lie in
the byte ranges of one of the sequences, position by position.
-/
namespace ColumnRoles.Text

abbrev ByteRange := Nat × Nat

def encodeCode (code : Nat) : List Nat :=
  if code < 0x80 then [code]
  else if code < 0x800 then [0xC0 + code / 0x40, 0x80 + code % 0x40]
  else if code < 0x10000 then
    [0xE0 + code / 0x1000, 0x80 + code / 0x40 % 0x40, 0x80 + code % 0x40]
  else
    [0xF0 + code / 0x40000, 0x80 + code / 0x1000 % 0x40, 0x80 + code / 0x40 % 0x40,
      0x80 + code % 0x40]

def lengthEnds : List Nat :=
  [0x7F, 0x7FF, 0xFFFF]

def blockSizes : List Nat :=
  [0x40, 0x1000, 0x40000]

/-- Where to cut a range that begins or ends within a block of the given size and goes beyond it:
the last code point of the first part. -/
def blockCut? (first last size : Nat) : Option Nat :=
  if first / size = last / size then none
  else if first % size ≠ 0 then some (first - first % size + size - 1)
  else if last % size ≠ size - 1 then some (last - last % size - 1)
  else none

/-- Where to cut a range whose members are not all encoded by bytes of the same ranges, each
independent of the others. -/
def cut? (first last : Nat) : Option Nat :=
  match lengthEnds.find? fun stop => first ≤ stop && stop < last with
  | some stop => some stop
  | none => if last < 0x80 then none else blockSizes.findSome? (blockCut? first last)

def pieces (first last : Nat) : List CodeRange :=
  match cut? first last with
  | some stop =>
    if h : first ≤ stop ∧ stop < last then
      have : stop - first < last - first := by omega
      have : last - (stop + 1) < last - first := by omega
      pieces first stop ++ pieces (stop + 1) last
    else [(first, last)]
  | none => [(first, last)]
termination_by last - first

def withoutSurrogates (range : CodeRange) : List CodeRange :=
  [(range.1, min range.2 0xD7FF), (max range.1 0xE000, range.2)].filter fun part => part.1 ≤ part.2

/-- The sequences of byte ranges for the characters of a set, in the order of the characters. -/
def byteSequences (ranges : List CodeRange) : List (List ByteRange) :=
  ((ranges.flatMap withoutSurrogates).flatMap fun range => pieces range.1 range.2).map fun piece =>
    (encodeCode piece.1).zip (encodeCode piece.2)

end ColumnRoles.Text
