import ColumnRoles.Signal

/-!
The decision about one column: its role, or why it has none, with the evidence for and against.
-/
namespace ColumnRoles

/-- Why a column is left without a role. -/
inductive Unresolved where
  /-- No rule said anything about the column. -/
  | noSignals
  /-- There is only complimentary evidence, and it disagrees. -/
  | conflictingComplimentary
  /-- The most confident definitive signals contradict each other. -/
  | tiedDefinitive
deriving DecidableEq, Repr

namespace Unresolved

def all : List Unresolved :=
  [noSignals, conflictingComplimentary, tiedDefinitive]

def name : Unresolved → String
  | noSignals => "no_signals"
  | conflictingComplimentary => "conflicting_complementary"
  | tiedDefinitive => "tied_definitive"

def ofName? (text : String) : Option Unresolved :=
  all.find? (·.name = text)

def label : Unresolved → String
  | noSignals => "no signals"
  | conflictingComplimentary => "conflicting hints"
  | tiedDefinitive => "tied evidence"

end Unresolved

inductive Resolution where
  | resolved (role : Role)
  | unresolved (cause : Unresolved)
deriving DecidableEq, Repr

namespace Resolution

def role? : Resolution → Option Role
  | resolved role => some role
  | unresolved _ => none

def isResolved : Resolution → Bool
  | resolved _ => true
  | unresolved _ => false

end Resolution

structure Decision where
  column : ColumnRef
  resolution : Resolution
  /-- The confidence of the signal that supplied the role. -/
  confidence : Option Confidence
  /-- The reasons of the signals that support the outcome. -/
  reasons : List String
  /-- Evidence that was overruled, ignored or contradictory. -/
  problems : List String
  /-- Every signal about the column, in the order in which they were emitted. -/
  signals : List Signal
deriving DecidableEq, Repr

namespace Decision

def unresolved (column : ColumnRef) (cause : Unresolved) (signals : List Signal) : Decision :=
  { column, resolution := .unresolved cause, confidence := none, reasons := [], problems := [],
    signals }

def role? (decision : Decision) : Option Role :=
  decision.resolution.role?

def isResolved (decision : Decision) : Bool :=
  decision.resolution.isResolved

/-- Somebody should look at the column before its role is relied on: it has none, or one that is
held with less than high confidence. -/
def needsReview (decision : Decision) : Bool :=
  !decision.isResolved ||
    match decision.confidence with
    | none => true
    | some confidence => confidence < .high

end Decision

end ColumnRoles
