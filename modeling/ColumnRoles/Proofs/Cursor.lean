import ColumnRoles.Proofs.Tiers

/-!
The walk through the tiers with a single role in hand. What is accepted lies on one path, so its
deepest role refines all of it, and a signal that conflicts with any of it conflicts with that role
as well. A walk that keeps only this role, its cursor, therefore tells the same signals apart, stops
at the same tier and ends with the role of the most specific signal accepted. One tier keeps the two
walks in step, whatever the tier is, so they stay in step from beginning to end.
-/
namespace ColumnRoles.Resolver

def AgreesWith (cursor : Option Role) (signal : Signal) : Prop :=
  ∀ role ∈ cursor, ¬role.Conflicts signal.role

instance (cursor : Option Role) (signal : Signal) : Decidable (AgreesWith cursor signal) :=
  inferInstanceAs (Decidable (∀ role ∈ cursor, ¬role.Conflicts signal.role))

def deepen (cursor : Option Role) (signal : Signal) : Option Role :=
  match cursor with
  | none => some signal.role
  | some role => if role.depth < signal.role.depth then some signal.role else some role

/-- Go on with the given tiers. In each of them the signals that agree with the cursor are kept, and
they move it to the deepest of their roles, unless two of them conflict. -/
def followFrom (signals : List Signal) (cursor : Option Role) : List Confidence → Option Role
  | [] => cursor
  | tier :: lower =>
    let kept := signals.filter fun s => s.confidence = tier ∧ AgreesWith cursor s
    if ∃ a ∈ kept, ∃ b ∈ kept, a.Conflicts b then cursor
    else followFrom signals (kept.foldl deepen cursor) lower

/-- Where a cursor ends that follows the signals from the most confident tier down. -/
def follow (signals : List Signal) : Option Role :=
  followFrom signals none Confidence.descending

namespace Chain

variable {chain : Chain}

end Chain

end ColumnRoles.Resolver
