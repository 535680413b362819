/-!
The four tiers of confidence. Tiers are compared and never added up: a tier outweighs any number
of signals below it.
-/
namespace ColumnRoles

inductive Confidence where
  | low
  | medium
  | high
  | forSure
deriving DecidableEq, Repr

namespace Confidence

def rank : Confidence → Nat
  | low => 0
  | medium => 1
  | high => 2
  | forSure => 3

instance : LT Confidence := ⟨fun a b => a.rank < b.rank⟩

instance : LE Confidence := ⟨fun a b => a.rank ≤ b.rank⟩

instance (a b : Confidence) : Decidable (a < b) :=
  inferInstanceAs (Decidable (a.rank < b.rank))

instance (a b : Confidence) : Decidable (a ≤ b) :=
  inferInstanceAs (Decidable (a.rank ≤ b.rank))

instance : Ord Confidence := ⟨fun a b => compare a.rank b.rank⟩

def all : List Confidence :=
  [low, medium, high, forSure]

def descending : List Confidence :=
  [forSure, high, medium, low]

theorem mem_descending (c : Confidence) : c ∈ descending := by
  cases c <;> decide

theorem rank_injective {a b : Confidence} (h : a.rank = b.rank) : a = b := by
  cases a <;> cases b <;> simp_all [rank]

def name : Confidence → String
  | low => "LOW"
  | medium => "MEDIUM"
  | high => "HIGH"
  | forSure => "FOR_SURE"

def ofName? (text : String) : Option Confidence :=
  all.find? (·.name = text)

theorem ofName?_name (c : Confidence) : ofName? c.name = some c := by
  cases c <;> decide

def label : Confidence → String
  | low => "low"
  | medium => "medium"
  | high => "high"
  | forSure => "for sure"

def tag : Confidence → String
  | low => "Low"
  | medium => "Medium"
  | high => "High"
  | forSure => "ForSure"

end Confidence

end ColumnRoles
