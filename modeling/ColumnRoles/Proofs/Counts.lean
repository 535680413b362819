import ColumnRoles.Report
import Mathlib.Algebra.BigOperators.Group.List.Basic
import Mathlib.Algebra.Ring.Nat

/-!
The counts of a report. Each role is counted by a search of its own through all decisions, and roles
that no column has are left out. The list of roles is complete and names none twice, so a decision
is found by one of these searches if it is resolved and by none if it is not: nothing is counted
twice, and together with the unresolved decisions the counts make up all decisions.
-/
namespace ColumnRoles

theorem Role.nodup_all : all.Nodup := by decide

namespace Decision

theorem role?_eq_some_iff {decision : Decision} {role : Role} :
    decision.role? = some role ↔ decision.resolution = .resolved role := by
  unfold role?
  cases decision.resolution <;> simp [Resolution.role?]

/-- A decision is counted for one role if it is resolved, and for none if it is not. -/
theorem sum_counted (decision : Decision) :
    (Role.all.map fun role => if decision.role? = some role then 1 else 0).sum =
      if decision.isResolved then 1 else 0 := by
  unfold role? isResolved
  cases decision.resolution with
  | unresolved cause => rfl
  | resolved role => cases role <;> rfl

end Decision

/-- Counting role by role counts every resolved decision, and each of them once. -/
theorem sum_countP_role (decisions : List Decision) :
    (Role.all.map fun role => decisions.countP fun d => d.role? = some role).sum =
      decisions.countP (·.isResolved) := by
  -- on the decisions; one more adds the same to both sides
  induction decisions with
  | nil => rfl
  | cons first rest ih =>
    simp only [List.countP_cons, decide_eq_true_eq]
    rw [List.sum_map_add, ih, first.sum_counted]

/-- What counts nothing adds nothing. -/
theorem sum_map_filter_pos {α : Type} (f : α → Nat) (l : List α) :
    ((l.filter fun a => 0 < f a).map f).sum = (l.map f).sum := by
  induction l with
  | nil => rfl
  | cons a rest ih =>
    by_cases hpos : 0 < f a
    · rw [List.filter_cons_of_pos (by simpa using hpos), List.map_cons, List.map_cons,
        List.sum_cons, List.sum_cons, ih]
    · rw [List.filter_cons_of_neg (by simpa using hpos), List.map_cons, List.sum_cons, ih]
      omega

namespace Report

variable (report : Report)

theorem countOf_eq_length (role : Role) :
    report.countOf role =
      (report.decisions.values.filter (·.resolution = .resolved role)).length := by
  simp only [countOf, List.countP_eq_length_filter, Decision.role?_eq_some_iff]

/-- The roles that are listed are those that some column has, in the order of all roles. -/
theorem countsByRole_eq :
    report.countsByRole =
      (Role.all.filter fun role => 0 < report.countOf role).map fun role =>
        (role, report.countOf role) := by
  rw [countsByRole, ← List.filterMap_eq_map, List.filterMap_filter]
  simp only [decide_eq_true_eq, Function.comp_apply]

theorem mem_countsByRole {role : Role} {count : Nat} :
    (role, count) ∈ report.countsByRole ↔ 0 < count ∧ count = report.countOf role := by
  simp only [countsByRole_eq, List.mem_map, List.mem_filter, decide_eq_true_eq, Prod.mk.injEq]
  constructor
  · rintro ⟨same, ⟨_, hpos⟩, rfl, rfl⟩
    exact ⟨hpos, rfl⟩
  · rintro ⟨hpos, rfl⟩
    exact ⟨role, ⟨role.mem_all, hpos⟩, rfl, rfl⟩

theorem roles_countsByRole :
    report.countsByRole.map Prod.fst = Role.all.filter fun role => 0 < report.countOf role := by
  simp [countsByRole_eq, Function.comp_def]

theorem sum_countsByRole :
    (report.countsByRole.map Prod.snd).sum = report.decisions.values.countP (·.isResolved) := by
  rw [countsByRole_eq, List.map_map]
  exact (sum_map_filter_pos report.countOf Role.all).trans (sum_countP_role _)

theorem length_unresolved :
    report.unresolved.length = report.decisions.values.countP fun d => ¬d.isResolved := by
  simp [unresolved, List.countP_eq_length_filter]

/-- The counts of a report say of every decision, and once, what became of it. -/
structure Accounted (report : Report) : Prop where
  in_order : (report.countsByRole.map Prod.fst).Sublist Role.all
  nodup : (report.countsByRole.map Prod.fst).Nodup
  mem_iff : ∀ role count, (role, count) ∈ report.countsByRole ↔ 0 < count ∧
    count = (report.decisions.values.filter (·.resolution = .resolved role)).length
  balanced : (report.countsByRole.map Prod.snd).sum + report.unresolved.length =
    report.decisions.size

theorem accounted : report.Accounted where
  in_order := by
    rw [roles_countsByRole]
    exact List.filter_sublist
  nodup := by
    rw [roles_countsByRole]
    exact Role.nodup_all.filter _
  mem_iff role count := by
    rw [mem_countsByRole, countOf_eq_length]
  balanced := by
    rw [sum_countsByRole, length_unresolved, ← OrderedMap.length_values]
    exact (List.length_eq_countP_add_countP Decision.isResolved).symm

end Report

end ColumnRoles
