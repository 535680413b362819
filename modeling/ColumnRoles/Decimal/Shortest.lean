/-!
The shortest decimal that reads back as a given binary64 number. A finite number is a mantissa
times a power of two, and the decimals that read back as it fill an interval around it. The grids
of one, two, three, ... significant digits are tried in turn; on each only the two neighbours of
the number can lie in the interval, and the nearer one is taken, of two equally near ones the
greater.
-/
namespace ColumnRoles

structure Decimal where
  digits : Nat
  exponent : Int
deriving DecidableEq, Repr

namespace Decimal

/-- The parts of a binary64 number; a finite one is `mantissa` times two to the power of
`exponent`, and `evenGap` says whether its lower neighbour is as near as its upper one. -/
inductive Parts where
  | notANumber
  | infinite (negative : Bool)
  | finite (negative : Bool) (mantissa : Nat) (exponent : Int) (evenGap : Bool)
deriving DecidableEq, Repr

def Parts.ofFloat (x : Float) : Parts :=
  let bits := x.toBits
  let negative := bits >>> 63 == 1
  let power := (bits >>> 52 &&& 0x7FF).toNat
  let fraction := (bits &&& 0xFFFFFFFFFFFFF).toNat
  if power = 0x7FF then
    if fraction = 0 then .infinite negative else .notANumber
  else if power = 0 then .finite negative fraction (-1074) true
  else
    .finite negative (fraction + 0x10000000000000) ((power : Int) - 1075)
      (fraction != 0 || power == 1)

def powerOfTen (n : Nat) : Nat :=
  Nat.pow 10 n

def measure (count : Nat) (power unit : Int) : Nat × Nat :=
  ((count <<< power.toNat) * powerOfTen (-unit).toNat,
    (1 <<< (-power).toNat) * powerOfTen unit.toNat)

def zerosAfterPoint (num den : Nat) : Nat → Nat → Nat
  | 0, start => start
  | fuel + 1, start =>
    if den ≤ num * powerOfTen start then start else zerosAfterPoint num den fuel (start + 1)

/-- The `e` for which the number lies from `10 ^ (e - 1)` up to, but not including, `10 ^ e`. -/
def magnitude (mantissa : Nat) (exponent : Int) : Int :=
  let (num, den) := measure mantissa exponent 0
  if den ≤ num then (Nat.toDigits 10 (num / den)).length
  else 1 - (zerosAfterPoint num den 400 1 : Int)

/-- Lies `candidate * 10 ^ unit` among the decimals that read back as the number? All three are
compared in quarters of the distance to the upper neighbour; the ends of the interval belong to
it when the mantissa is even. -/
def readsBack (mantissa : Nat) (exponent : Int) (evenGap : Bool) (candidate : Nat) (unit : Int) :
    Bool :=
  let below := if evenGap then 2 else 1
  let (low, den) := measure (4 * mantissa - below) (exponent - 2) unit
  let (high, _) := measure (4 * mantissa + 2) (exponent - 2) unit
  if mantissa % 2 = 0 then low ≤ candidate * den && candidate * den ≤ high
  else low < candidate * den && candidate * den < high

def onGrid? (mantissa : Nat) (exponent : Int) (evenGap : Bool) (unit : Int) : Option Decimal :=
  let (num, den) := measure mantissa exponent unit
  let down := num / den
  let up := down + 1
  let downHits := readsBack mantissa exponent evenGap down unit
  let upHits := readsBack mantissa exponent evenGap up unit
  let downNearer := 2 * (num % den) < den
  if downHits && (downNearer || !upHits) then some ⟨down, unit⟩
  else if upHits then some ⟨up, unit⟩
  else none

def firstHit (mantissa : Nat) (exponent : Int) (evenGap : Bool) (top : Int) : Nat → Nat → Decimal
  | 0, _ => ⟨mantissa, exponent⟩
  | fuel + 1, count =>
    match onGrid? mantissa exponent evenGap (top - count) with
    | some d => d
    | none => firstHit mantissa exponent evenGap top fuel (count + 1)

/-- The shortest decimal that reads back as a positive number; seventeen digits always suffice. -/
def shortest (mantissa : Nat) (exponent : Int) (evenGap : Bool) : Decimal :=
  firstHit mantissa exponent evenGap (magnitude mantissa exponent) 17 1

end Decimal

end ColumnRoles
