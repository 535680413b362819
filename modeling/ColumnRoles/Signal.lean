import ColumnRoles.Role
import ColumnRoles.Confidence
import ColumnRoles.Column

/-!
Signals: what one rule claims about one column. A definitive signal can settle a column's role by
itself. A complimentary one only supports or deepens a decision, and decides where there is no
definitive signal at all.
-/
namespace ColumnRoles

structure Signal where
  column : ColumnRef
  role : Role
  confidence : Confidence
  complimentary : Bool
  /-- Why the rule says so, in words for people. -/
  reason : String
deriving DecidableEq, Repr

namespace Signal

def Definitive (signal : Signal) : Prop :=
  signal.complimentary = false

instance (signal : Signal) : Decidable signal.Definitive :=
  inferInstanceAs (Decidable (signal.complimentary = false))

/-- The two signals cannot both be right. -/
def Conflicts (signal other : Signal) : Prop :=
  signal.role.Conflicts other.role

instance (signal other : Signal) : Decidable (signal.Conflicts other) :=
  inferInstanceAs (Decidable (signal.role.Conflicts other.role))

def describe (signal : Signal) : String :=
  let role := signal.role.name
  let label := signal.confidence.label
  s!"{role} ({signal.reason}, {label} confidence)"

end Signal

def describeAll (signals : List Signal) : String :=
  " vs ".intercalate (signals.map Signal.describe)

end ColumnRoles
