/-!
The semantic roles a warehouse column can play. Roles form a small forest: each category has a
generic role at its root, and every other role of the category refines it, directly or through
one role between them. Two roles are compatible only when one refines the other, so compatible
roles always lie on one path from a root.
-/
namespace ColumnRoles

inductive Category where
  | id
  | dimension
  | measure
deriving DecidableEq, Repr

/-- What a column is for. -/
inductive Role where
  | idUnknown
  | idForeign
  | idUnique
  | idPrimary
  | dimensionUnknown
  | dimensionTime
  | dimensionPrimaryTime
  | dimensionCategorical
  | measureUnknown
deriving DecidableEq, Repr

namespace Category

def generic : Category → Role
  | id => .idUnknown
  | dimension => .dimensionUnknown
  | measure => .measureUnknown

def label : Category → String
  | id => "ID"
  | dimension => "DIMENSION"
  | measure => "MEASURE"

end Category

namespace Role

def all : List Role :=
  [idUnknown, idForeign, idUnique, idPrimary,
    dimensionUnknown, dimensionTime, dimensionPrimaryTime, dimensionCategorical,
    measureUnknown]

theorem mem_all (r : Role) : r ∈ all := by
  cases r <;> decide

def category : Role → Category
  | idUnknown | idForeign | idUnique | idPrimary => .id
  | dimensionUnknown | dimensionTime | dimensionPrimaryTime | dimensionCategorical => .dimension
  | measureUnknown => .measure

def parent : Role → Option Role
  | idUnknown | dimensionUnknown | measureUnknown => none
  | idForeign | idUnique => some idUnknown
  | idPrimary => some idUnique
  | dimensionTime | dimensionCategorical => some dimensionUnknown
  | dimensionPrimaryTime => some dimensionTime

def above : Nat → Role → List Role
  | 0, _ => []
  | steps + 1, r =>
    match r.parent with
    | none => []
    | some p => p :: above steps p

/-- The roles above `r`, from the root down to its parent. No path is longer than the number of
roles, so the bound is never reached. -/
def ancestors (r : Role) : List Role :=
  (above all.length r).reverse

def depth (r : Role) : Nat :=
  r.ancestors.length

def StrictlyRefines (r s : Role) : Prop :=
  s ∈ r.ancestors

/-- `r` is `s` or more specific than `s`. -/
def Refines (r s : Role) : Prop :=
  r = s ∨ r.StrictlyRefines s

/-- No column can play both roles at once. -/
def Conflicts (r s : Role) : Prop :=
  ¬(r.Refines s ∨ s.Refines r)

instance (r s : Role) : Decidable (r.StrictlyRefines s) :=
  inferInstanceAs (Decidable (s ∈ r.ancestors))

instance (r s : Role) : Decidable (r.Refines s) :=
  inferInstanceAs (Decidable (r = s ∨ r.StrictlyRefines s))

instance (r s : Role) : Decidable (r.Conflicts s) :=
  inferInstanceAs (Decidable (¬(r.Refines s ∨ s.Refines r)))

def name : Role → String
  | idUnknown => "ID.UNKNOWN"
  | idForeign => "ID.FOREIGN"
  | idUnique => "ID.UNIQUE"
  | idPrimary => "ID.PRIMARY"
  | dimensionUnknown => "DIMENSION.UNKNOWN"
  | dimensionTime => "DIMENSION.TIME"
  | dimensionPrimaryTime => "DIMENSION.PRIMARY_TIME"
  | dimensionCategorical => "DIMENSION.CATEGORICAL"
  | measureUnknown => "MEASURE.UNKNOWN"

def ofName? (text : String) : Option Role :=
  all.find? (·.name = text)

theorem ofName?_name (r : Role) : ofName? r.name = some r := by
  cases r <;> decide

def tag : Role → String
  | idUnknown => "IdUnknown"
  | idForeign => "IdForeign"
  | idUnique => "IdUnique"
  | idPrimary => "IdPrimary"
  | dimensionUnknown => "DimensionUnknown"
  | dimensionTime => "DimensionTime"
  | dimensionPrimaryTime => "DimensionPrimaryTime"
  | dimensionCategorical => "DimensionCategorical"
  | measureUnknown => "MeasureUnknown"

theorem Refines.refl (r : Role) : r.Refines r :=
  Or.inl rfl

theorem Conflicts.symm {r s : Role} (h : r.Conflicts s) : s.Conflicts r :=
  fun hsr => h hsr.symm

theorem not_conflicts_self (r : Role) : ¬r.Conflicts r :=
  fun h => h (Or.inl (Refines.refl r))

end Role

end ColumnRoles
