import ColumnRoles.Proofs.Judgement

/-!
Decisions under built-in rules are local. Each of these rules says at most one thing of a column,
and what it says depends on the column and on whether it is the only time column of its table. So
does everything that is filed under the reference of the column, and with it the decision. Other
tables and other columns have no part in it, not even those that go by the same name elsewhere.
-/
namespace ColumnRoles

/-- All that built-in rules say of a column, given whether it is the only time column of its
table. The rest of the warehouse is not asked. -/
def Builtin.testimony (tuning : Tuning) (builtins : List Builtin) (only : Bool)
    (profile : ColumnProfile) : List Signal :=
  builtins.filterMap fun b => (b.rule tuning).signalOn? only profile

namespace Runner

variable {runner : Runner} {warehouse : Warehouse}

/-- Under built-in rules a column is decided by what they say of it. -/
theorem decision?_builtins {tuning : Tuning} {builtins : List Builtin}
    (hrules : runner.rules = builtins.map (Builtin.rule tuning)) {profile : ColumnProfile}
    (h : profile ∈ warehouse.columns) :
    (runner.run warehouse).decision? profile.ref = some (runner.solver profile.ref
      (Builtin.testimony tuning builtins (warehouse.IsOnlyTime profile) profile)) := by
  have hfiled := Ruleset.filter_emitted_builtins tuning builtins h
  rw [← hrules] at hfiled
  rw [decision?_run (mem_keys_of_mem_columns h), hfiled]
  rfl

/-- Decisions are local under the built-in rules. Whatever compiles patterns, and whatever
configuration is accepted and leaves any rule at all, a column that two warehouses have in common is
decided in the same way in both, down to the last word, as long as both or neither have it as the
only time column of its table. -/
theorem decision_local {compile : Naming.Compiler} {config : RulesetConfig} {rules : Ruleset}
    (hrules : config.ruleset compile = .ok rules) (hne : rules ≠ []) (how : RunnerConfig) :
    ∃ runner, Runner.create rules how = .ok runner ∧
      ∀ (left right : Warehouse) (c : ColumnRef) (profile : ColumnProfile),
        left.column? c = some profile → right.column? c = some profile →
        (left.IsOnlyTime profile ↔ right.IsOnlyTime profile) →
        ∃ decision, (runner.run left).decision? c = some decision ∧
          (runner.run right).decision? c = some decision := by
  refine ⟨{ rules, config := how, rules_ne_nil := hne }, dif_neg hne, ?_⟩
  intro left right c profile hleft hright honly
  obtain ⟨_, tuning, _, hbuiltin⟩ := RulesetConfig.ruleset_eq_ok_iff.mp hrules
  obtain ⟨hmemLeft, rfl⟩ := Warehouse.column?_eq_some_iff.mp hleft
  obtain ⟨hmemRight, _⟩ := Warehouse.column?_eq_some_iff.mp hright
  have hsame : decide (left.IsOnlyTime profile) = decide (right.IsOnlyTime profile) :=
    decide_eq_decide.mpr honly
  refine ⟨_, decision?_builtins hbuiltin.symm hmemLeft, ?_⟩
  rw [decision?_builtins hbuiltin.symm hmemRight, hsame]

def placedAt : ColumnProfile where
  ref := ⟨"orders", "placed_at"⟩
  type := .dateTime

def counter : Warehouse where
  tables := [((Table.named "orders").add orderId).add placedAt]
  consistent := consistent_of_firstFault? rfl

def depot : Warehouse where
  tables :=
    [((Table.named "deliveries").add { ref := ⟨"deliveries", "placed_at"⟩, type := .dateTime }).add
        { ref := ⟨"deliveries", "arrived_at"⟩, type := .dateTime },
      ((Table.named "orders").add placedAt).add amount]
  consistent := consistent_of_firstFault? rfl

def sparing : RulesetConfig where
  disabledRules :=
    ["measure-by-integer-type", "time-dimension-by-time-type", "measure-by-integer-type"]

theorem decision_local_placedAt :
    sparing.ruleset = .ok (sparing.enabled.map (Builtin.rule .usual)) ∧
      counter.column? placedAt.ref = some placedAt ∧ depot.column? placedAt.ref = some placedAt ∧
      counter.IsOnlyTime placedAt ∧ depot.IsOnlyTime placedAt ∧
      ∃ runner, Runner.create (sparing.enabled.map (Builtin.rule .usual)) {} = .ok runner ∧
        ∃ decision, (runner.run counter).decision? placedAt.ref = some decision ∧
          (runner.run depot).decision? placedAt.ref = some decision := by
  have hfault : sparing.fault? = none := Option.isNone_iff_eq_none.mp (by decide +kernel)
  have htuning : sparing.tuning? = some .usual := by
    have hpattern : sparing.primaryTimePattern = Naming.NamePattern.usualTime.source := rfl
    rw [RulesetConfig.tuning?, hpattern, Naming.NamePattern.compile?_usualTime, Option.map_some]
    rfl
  have hrules := RulesetConfig.ruleset_eq_ok_iff.mpr ⟨hfault, _, htuning, rfl⟩
  have hne : sparing.enabled.map (Builtin.rule .usual) ≠ [] :=
    mt List.map_eq_nil_iff.mp (by decide +kernel)
  have hcounter : counter.column? placedAt.ref = some placedAt := by decide +kernel
  have hdepot : depot.column? placedAt.ref = some placedAt := by decide +kernel
  have honly : counter.IsOnlyTime placedAt := by decide +kernel
  have honlyDepot : depot.IsOnlyTime placedAt := by decide +kernel
  obtain ⟨runner, hrunner, hlocal⟩ := decision_local hrules hne {}
  exact ⟨hrules, hcounter, hdepot, honly, honlyDepot, runner, hrunner,
    hlocal counter depot _ _ hcounter hdepot (iff_of_true honly honlyDepot)⟩

end Runner

end ColumnRoles
