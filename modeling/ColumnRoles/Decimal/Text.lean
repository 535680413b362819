import ColumnRoles.Decimal.Shortest

/-!
Numbers as text: the shortest digits that read back, always positional, without a point where
there is no fraction.
-/
namespace ColumnRoles.Decimal

def positional (d : Decimal) : List Char :=
  let written := Nat.toDigits 10 d.digits
  let zeros := (written.reverse.takeWhile (· = '0')).length
  let digits := written.take (written.length - zeros)
  let unit := d.exponent + zeros
  if 0 ≤ unit then digits ++ List.replicate unit.toNat '0'
  else
    let places := (-unit).toNat
    if places < digits.length then
      digits.take (digits.length - places) ++ '.' :: digits.drop (digits.length - places)
    else '0' :: '.' :: List.replicate (places - digits.length) '0' ++ digits

/-- The text of a number. Zero keeps its sign. -/
def text (x : Float) : String :=
  match Parts.ofFloat x with
  | .notANumber => "NaN"
  | .infinite negative => if negative then "-inf" else "inf"
  | .finite negative mantissa exponent evenGap =>
    let digits :=
      if mantissa = 0 then ['0'] else (shortest mantissa exponent evenGap).positional
    String.ofList (if negative then '-' :: digits else digits)

end ColumnRoles.Decimal
