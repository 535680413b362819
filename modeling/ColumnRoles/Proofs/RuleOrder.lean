import ColumnRoles.Proofs.Rearrangement
import ColumnRoles.Proofs.Run

/-!
The order of rules. Rules do not see each other, so other orders of the same rules emit the same
signals in another order, all in all and about each column, and leave the same failures. Columns
that only signals mention are met in another order, but they are the same columns, and those of the
warehouse come before them in any case. As the resolution of a column does not depend on the order
of its signals, neither does it depend on the order of the rules.
-/
namespace ColumnRoles

namespace Ruleset

variable {left right : Ruleset} (h : left.Perm right) (warehouse : Warehouse)
include h

theorem emitted_perm : (emitted left warehouse).Perm (emitted right warehouse) :=
  h.flatMap_right _

theorem failures_perm : (failures left warehouse).Perm (failures right warehouse) :=
  h.flatMap_right _

end Ruleset

namespace Runner

section Rearranged

variable {left right : Runner} (h : left.rules.Perm right.rules) (warehouse : Warehouse)
include h

theorem mem_keys_of_perm {c : ColumnRef} :
    c ∈ (left.run warehouse).decisions.keys ↔ c ∈ (right.run warehouse).decisions.keys := by
  have hemitted := Ruleset.emitted_perm h warehouse
  rw [keys_run, keys_run, List.mem_append, List.mem_append, Evidence.mem_newcomers,
    Evidence.mem_newcomers]
  simp only [hemitted.mem_iff]

/-- The same columns are decided, each once. -/
theorem keys_perm :
    (left.run warehouse).decisions.keys.Perm (right.run warehouse).decisions.keys :=
  (List.perm_ext_iff_of_nodup (left.run warehouse).decisions.nodup_keys
    (right.run warehouse).decisions.nodup_keys).mpr fun _ => mem_keys_of_perm h warehouse

end Rearranged

/-- The order of execution of rules does not matter. Runs of the same rules in another order decide
the same columns, those of the warehouse first and in its order; each column has the same role and
the same confidence in both, for the same reasons and with as many problems, and rests on the same
signals; and as many signals and the same failures are reported for as many rules. -/
theorem run_order_insensitive {left right : Runner} (hrules : left.rules.Perm right.rules)
    (hleft : left.solver = Resolver.solve) (hright : right.solver = Resolver.solve)
    (warehouse : Warehouse) :
    (left.run warehouse).decisions.keys.Perm (right.run warehouse).decisions.keys ∧
    warehouse.columns.map (·.ref) <+: (left.run warehouse).decisions.keys ∧
    warehouse.columns.map (·.ref) <+: (right.run warehouse).decisions.keys ∧
    (∀ c ∈ (left.run warehouse).decisions.keys, ∃ decision other,
      (left.run warehouse).decision? c = some decision ∧
      (right.run warehouse).decision? c = some other ∧
      decision.resolution = other.resolution ∧ decision.confidence = other.confidence ∧
      decision.signals.Perm other.signals ∧ decision.reasons.Perm other.reasons ∧
      decision.problems.length = other.problems.length) ∧
    (left.run warehouse).failures.Perm (right.run warehouse).failures ∧
    (left.run warehouse).signalCount = (right.run warehouse).signalCount ∧
    (left.run warehouse).ruleCount = (right.run warehouse).ruleCount := by
  have hemitted := Ruleset.emitted_perm hrules warehouse
  refine ⟨keys_perm hrules warehouse, left.refs_prefix_keys warehouse,
    right.refs_prefix_keys warehouse, ?_, ?_, ?_, ?_⟩
  · intro c hc
    have hown := hemitted.filter (·.column = c)
    have hsame := Resolver.blindTo_perm.sameStances hown
    obtain ⟨hresolution, hconfidence⟩ := Resolver.resolution_same c hsame
    obtain ⟨hreasons, hproblems⟩ := Resolver.solve_perm c hown
    refine ⟨_, _, decision?_run hc, decision?_run ((mem_keys_of_perm hrules warehouse).mp hc), ?_⟩
    rw [hleft, hright]
    refine ⟨hresolution, hconfidence, ?_, hreasons, hproblems⟩
    rw [Resolver.signals_solve, Resolver.signals_solve]
    exact hown
  · rw [failures_run, failures_run]
    exact Ruleset.failures_perm hrules warehouse
  · rw [run_eq, run_eq]
    exact hemitted.length_eq
  · rw [run_eq, run_eq]
    exact hrules.length_eq

def noisyReversed : Runner where
  rules := noisy.rules.reverse
  config := { parallel := true }
  rules_ne_nil := by decide

theorem run_order_insensitive_shop :
    noisy.rules.Perm noisyReversed.rules ∧
      (noisy.run shop).decisions.keys.Perm (noisyReversed.run shop).decisions.keys ∧
      [orderId.ref, amount.ref] <+: (noisyReversed.run shop).decisions.keys ∧
      (∃ decision other, (noisy.run shop).decision? orderId.ref = some decision ∧
        (noisyReversed.run shop).decision? orderId.ref = some other ∧
        decision.resolution = other.resolution ∧ decision.signals.Perm other.signals) ∧
      (noisy.run shop).failures.Perm (noisyReversed.run shop).failures ∧
      (noisyReversed.run shop).signalCount = 6 := by
  have hperm : noisy.rules.Perm noisyReversed.rules := (List.reverse_perm _).symm
  obtain ⟨hkeys, _, hfirst, hdecisions, hfailures, hcount, _⟩ :=
    run_order_insensitive hperm rfl rfl shop
  have hmem : orderId ∈ shop.columns := by decide +kernel
  obtain ⟨decision, other, hdecision, hother, hresolution, _, hsignals, _⟩ :=
    hdecisions _ (mem_keys_of_mem_columns hmem)
  have hsix : (noisy.run shop).signalCount = 6 := by
    rw [run_eq]
    decide +kernel
  exact ⟨hperm, hkeys, hfirst, ⟨decision, other, hdecision, hother, hresolution, hsignals⟩,
    hfailures, hcount.symm.trans hsix⟩

end Runner

end ColumnRoles
