/-!
JSON values as they stand in a document: numbers with their digits, records with their members in
order, keys repeated or not. A string literal may denote no text, because of half a surrogate pair
or a stray byte; such a literal is harmless where nobody asks for its text.
-/
namespace ColumnRoles

structure Numeral where
  negative : Bool
  /-- The digits before the point, most significant first. -/
  whole : List Nat
  /-- The digits behind the point; none if there is no point. -/
  fraction : List Nat
  /-- The power of ten, if one is written. -/
  exponent : Option Int
deriving DecidableEq, Repr

namespace Numeral

def ofNat (n : Nat) : Numeral where
  negative := false
  whole := (Nat.toDigits 10 n).map fun c => c.toNat - '0'.toNat
  fraction := []
  exponent := none

def valueFrom (start : Nat) (digits : List Nat) : Nat :=
  digits.foldl (fun n d => 10 * n + d) start

def nat? (n : Numeral) : Option Nat :=
  if n.negative || !n.fraction.isEmpty || n.exponent.isSome then none
  else some (valueFrom 0 n.whole)

def count? (n : Numeral) : Option UInt64 :=
  match n.nat? with
  | some value => if value < UInt64.size then some (UInt64.ofNat value) else none
  | none => none

def gather (significand : Nat) : List Nat → Nat × List Nat
  | [] => (significand, [])
  | d :: rest =>
    if 10 * significand + d < UInt64.size then gather (10 * significand + d) rest
    else (significand, d :: rest)

def powerOfTen (n : Nat) : Float :=
  Float.ofScientific 1 false n

def topPower : Nat := 308

/-- A significand times a power of ten, by one multiplication or division where the power can be
held. What is too large is no number; what is too small is zero. -/
def scale? (significand : Float) (exponent : Int) : Option Float :=
  if 0 ≤ exponent then
    if exponent.toNat ≤ topPower then
      let product := significand * powerOfTen exponent.toNat
      if product.isInf then none else some product
    else if significand == 0 then some significand
    else none
  else
    let places := (-exponent).toNat
    if places ≤ topPower then some (significand / powerOfTen places)
    else if places ≤ 2 * topPower then
      some (significand / powerOfTen topPower / powerOfTen (places - topPower))
    else some 0

/-- The binary64 number that a numeral is read as. Whole digits that the significand has no room
for raise the power of ten, and further digits behind the point are dropped. -/
def toFloat? (n : Numeral) : Option Float := do
  let (significand, leftOver) := gather 0 n.whole
  let (significand, dropped) := gather significand n.fraction
  let places := n.fraction.length - dropped.length
  let exponent : Int := leftOver.length - places + n.exponent.getD 0
  let size ← scale? (UInt64.ofNat significand).toFloat exponent
  some (if n.negative then -size else size)

end Numeral

/-- The text of a string literal; none if the literal denotes no text. -/
abbrev Literal := Option String

inductive Json where
  | null
  | bool (value : Bool)
  | number (value : Numeral)
  | text (value : Literal)
  | list (items : List Json)
  | record (members : List (Literal × Json))
deriving Repr

namespace Json

def ofText (text : String) : Json :=
  .text (some text)

def ofNat (n : Nat) : Json :=
  .number (.ofNat n)

def ofMembers (members : List (String × Json)) : Json :=
  .record (members.map fun m => (some m.1, m.2))

end Json

end ColumnRoles
