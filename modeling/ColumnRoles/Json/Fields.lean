import ColumnRoles.Json

/-!
Taking JSON values apart. A structure with named fields is written as a record, whose unknown
members do not matter, or as a list of the values in the order of the fields. What cannot be taken
apart gives nothing; no cause is kept.
-/
namespace ColumnRoles.Json

/-- What is written for one field of a structure. -/
inductive Slot where
  | given (value : Json)
  /-- The record has no such member. -/
  | absent
  /-- The list ends before the field. -/
  | cut
deriving Repr

def slot? (members : List (Literal × Json)) (name : String) : Option Slot :=
  match members.filter (·.1 = some name) with
  | [] => some .absent
  | [member] => some (.given member.2)
  | _ => none

/-- The fields of the given names. Every key must denote a text, and a list must not be longer than
the fields. -/
def slots? (names : List String) : Json → Option (List Slot)
  | .list items =>
    if items.length ≤ names.length then
      some (items.map .given ++ List.replicate (names.length - items.length) .cut)
    else none
  | .record members =>
    if members.all (·.1.isSome) then names.mapM (slot? members) else none
  | _ => none

namespace Slot

variable {α : Type}

def required (decode : Json → Option α) : Slot → Option α
  | given value => decode value
  | absent | cut => none

def orElse (default : α) (decode : Json → Option α) : Slot → Option α
  | given value => decode value
  | absent | cut => some default

end Slot

variable {α : Type}

def nullable (decode : Json → Option α) : Json → Option (Option α)
  | .null => some none
  | value => (decode value).map some

/-- A field that a record may leave out, but a list may not. -/
def Slot.optional (decode : Json → Option α) : Slot → Option (Option α)
  | given value => nullable decode value
  | absent => some none
  | cut => none

def text? : Json → Option String
  | .text t => t
  | _ => none

def bool? : Json → Option Bool
  | .bool b => some b
  | _ => none

def count? : Json → Option UInt64
  | .number n => n.count?
  | _ => none

def float? : Json → Option Float
  | .number n => n.toFloat?
  | _ => none

def list? (decode : Json → Option α) : Json → Option (List α)
  | .list items => items.mapM decode
  | _ => none

/-- One of several names: the name itself, or a record in which it is the only key and has no
value to speak of. -/
def named? (isUnit : Json → Bool) (ofName? : String → Option α) : Json → Option α
  | .text (some name) => ofName? name
  | .record [(some name, value)] => if isUnit value then ofName? name else none
  | _ => none

def isNull : Json → Bool
  | .null => true
  | _ => false

def isNullOrEmpty : Json → Bool
  | .null | .record [] => true
  | _ => false

end ColumnRoles.Json
