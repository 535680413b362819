import ColumnRoles.Proofs.Filing
import ColumnRoles.Proofs.Outcome

/-!
What a run reports, in terms of the evaluations of its rules. The signals of all rules are put one
after the other, and whether rules are evaluated side by side makes no difference. Every column of
the warehouse is decided, and so is every other column that a signal mentions; each is decided by
its own signals alone, and these are all accounted for.
-/
namespace ColumnRoles

/-- The signals of a rule's evaluation; a rule that breaks off has none. -/
def Rule.emitted (rule : Rule) (warehouse : Warehouse) : List Signal :=
  match rule.evaluate warehouse with
  | .ok evaluation => evaluation.signals
  | .error _ => []

theorem Rule.signals_outcome (rule : Rule) (warehouse : Warehouse) :
    (rule.outcome warehouse).signals = rule.emitted warehouse := by
  simp only [Rule.outcome, Rule.attempt, Rule.emitted]
  cases rule.evaluate warehouse <;> rfl

namespace Ruleset

def emitted (rules : Ruleset) (warehouse : Warehouse) : List Signal :=
  rules.flatMap (·.emitted warehouse)

def failures (rules : Ruleset) (warehouse : Warehouse) : List RuleFailure :=
  rules.flatMap fun rule => (rule.outcome warehouse).failures

@[simp] theorem emitted_append (rules more : Ruleset) (warehouse : Warehouse) :
    emitted (rules ++ more) warehouse = emitted rules warehouse ++ emitted more warehouse :=
  List.flatMap_append

@[simp] theorem failures_append (rules more : Ruleset) (warehouse : Warehouse) :
    failures (rules ++ more) warehouse = failures rules warehouse ++ failures more warehouse :=
  List.flatMap_append

@[simp] theorem emitted_cons (rule : Rule) (rules : Ruleset) (warehouse : Warehouse) :
    emitted (rule :: rules) warehouse = rule.emitted warehouse ++ emitted rules warehouse :=
  List.flatMap_cons

@[simp] theorem failures_cons (rule : Rule) (rules : Ruleset) (warehouse : Warehouse) :
    failures (rule :: rules) warehouse =
      (rule.outcome warehouse).failures ++ failures rules warehouse :=
  List.flatMap_cons

theorem mem_emitted {rules : Ruleset} {warehouse : Warehouse} {signal : Signal} :
    signal ∈ emitted rules warehouse ↔ ∃ rule ∈ rules, signal ∈ rule.emitted warehouse :=
  List.mem_flatMap

end Ruleset

namespace Resolver

theorem column_solve (column : ColumnRef) (signals : List Signal) :
    (solve column signals).column = column := by
  have h := outcome_solve column signals
  generalize solve column signals = decision at h
  cases h <;> rfl

/-- A decision keeps the signals on which it rests. -/
theorem signals_solve (column : ColumnRef) (signals : List Signal) :
    (solve column signals).signals = signals := by
  have h := outcome_solve column signals
  generalize solve column signals = decision at h
  cases h <;> rfl

end Resolver

namespace Runner

variable (runner : Runner) (warehouse : Warehouse)

def evidence : Evidence :=
  Evidence.gather warehouse (Ruleset.emitted runner.rules warehouse)

theorem signals_outcomes (parallel : Bool) :
    (runner.rules.outcomes parallel warehouse).flatMap (·.signals) =
      Ruleset.emitted runner.rules warehouse := by
  rw [Ruleset.outcomes_eq, List.flatMap_map]
  exact congrArg (runner.rules.flatMap ·) (funext fun rule => rule.signals_outcome warehouse)

theorem failures_outcomes (parallel : Bool) :
    (runner.rules.outcomes parallel warehouse).flatMap (·.failures) =
      Ruleset.failures runner.rules warehouse := by
  rw [Ruleset.outcomes_eq, List.flatMap_map]
  rfl

theorem run_eq :
    runner.run warehouse =
      { decisions := (runner.evidence warehouse).mapEntries runner.solver
        failures := Ruleset.failures runner.rules warehouse
        signalCount := (Ruleset.emitted runner.rules warehouse).length
        ruleCount := runner.rules.length } := by
  simp only [run, evidence, signals_outcomes, failures_outcomes]

theorem evidence_files :
    Evidence.Files warehouse.refs (Ruleset.emitted runner.rules warehouse)
      (runner.evidence warehouse) :=
  Evidence.gather_files _ _

theorem keys_run :
    (runner.run warehouse).decisions.keys =
      warehouse.refs ++
        Evidence.newcomers warehouse.refs (Ruleset.emitted runner.rules warehouse) := by
  rw [run_eq, OrderedMap.keys_mapEntries, (runner.evidence_files warehouse).keys_eq]

/-- The columns of the warehouse are decided first, in its order. -/
theorem refs_prefix_keys : warehouse.refs <+: (runner.run warehouse).decisions.keys := by
  rw [keys_run]
  exact List.prefix_append _ _

theorem failures_run :
    (runner.run warehouse).failures = Ruleset.failures runner.rules warehouse := by
  rw [run_eq]

variable {runner warehouse}

/-- Each column is decided by its own signals, in the order of emission. -/
theorem decision?_run {c : ColumnRef} (h : c ∈ (runner.run warehouse).decisions.keys) :
    (runner.run warehouse).decision? c = some (runner.solver c
      ((Ruleset.emitted runner.rules warehouse).filter (·.column = c))) := by
  rw [run_eq, OrderedMap.keys_mapEntries] at h
  rw [run_eq, Report.decision?, OrderedMap.get?_mapEntries,
    (runner.evidence_files warehouse).get?_eq c h, Option.map_some]

theorem mem_keys_of_decision? {c : ColumnRef} {decision : Decision}
    (h : (runner.run warehouse).decision? c = some decision) :
    c ∈ (runner.run warehouse).decisions.keys := by
  by_cases hmem : c ∈ (runner.run warehouse).decisions.keys
  · exact hmem
  · rw [Report.decision?, OrderedMap.get?_eq_none_iff.mpr hmem] at h
    cases h

theorem mem_keys_of_mem_columns {profile : ColumnProfile} (h : profile ∈ warehouse.columns) :
    profile.ref ∈ (runner.run warehouse).decisions.keys :=
  (runner.refs_prefix_keys warehouse).subset (List.mem_map_of_mem h)

/-- Nothing that was emitted is missing from the decisions, and nothing is there twice. -/
theorem signals_decisions_perm (hsolver : runner.solver = Resolver.solve) :
    ((runner.run warehouse).decisions.values.flatMap (·.signals)).Perm
      (Ruleset.emitted runner.rules warehouse) := by
  have hvalues : (runner.run warehouse).decisions.values.flatMap (·.signals) =
      (runner.evidence warehouse).values.flatten := by
    simp only [run_eq, hsolver, OrderedMap.values, OrderedMap.mapEntries, List.map_map,
      List.flatMap_map, List.flatten_eq_flatMap]
    refine congrArg (List.flatMap · _) (funext fun entry => ?_)
    exact Resolver.signals_solve _ _
  rw [hvalues]
  exact (runner.evidence_files warehouse).perm

/-- No signal of a run is lost, repeated or misfiled. The columns that are decided are those of the
warehouse in their order, followed by the others that signals mention, in the order of first
mention. Each is decided on exactly its own signals, in the order of emission. The reported number
of signals is the number of all signals that were emitted, and of all that decisions rest on. -/
theorem run_files_every_signal (runner : Runner) (hsolver : runner.solver = Resolver.solve)
    (warehouse : Warehouse) :
    (runner.run warehouse).decisions.keys =
        warehouse.columns.map (·.ref) ++ Evidence.newcomers (warehouse.columns.map (·.ref))
          (Ruleset.emitted runner.rules warehouse) ∧
    (runner.run warehouse).decisions.keys.Nodup ∧
    (∀ c ∈ (runner.run warehouse).decisions.keys, ∃ decision,
      (runner.run warehouse).decision? c = some decision ∧ decision.column = c ∧
        decision.signals =
          (Ruleset.emitted runner.rules warehouse).filter (·.column = c)) ∧
    (runner.run warehouse).signalCount = (Ruleset.emitted runner.rules warehouse).length ∧
    (runner.run warehouse).signalCount =
      ((runner.run warehouse).decisions.values.map (·.signals.length)).foldr (· + ·) 0 := by
  have hcount : (runner.run warehouse).signalCount =
      (Ruleset.emitted runner.rules warehouse).length := by rw [run_eq]
  refine ⟨runner.keys_run warehouse, (runner.run warehouse).decisions.nodup_keys, ?_, hcount, ?_⟩
  · intro c hc
    refine ⟨_, decision?_run hc, ?_⟩
    rw [hsolver]
    exact ⟨Resolver.column_solve _ _, Resolver.signals_solve _ _⟩
  · rw [hcount, ← (signals_decisions_perm hsolver).length_eq, List.length_flatMap,
      List.sum_eq_foldr]

def orderId : ColumnProfile where
  ref := ⟨"orders", "order_id"⟩
  type := .integer
  rows := some 100
  distinct := some 100

def amount : ColumnProfile where
  ref := ⟨"orders", "amount"⟩
  type := .float

def shop : Warehouse where
  tables := [((Table.named "orders").add orderId).add amount]
  consistent := consistent_of_firstFault? rfl

def hearsay (column : ColumnRef) : Signal where
  column := column
  role := .idUnknown
  confidence := .low
  complimentary := true
  reason := "Hearsay"

def chatter : CustomRule where
  name := "chatter"
  process _ := .ok (.ok
    [hearsay ⟨"archive", "order_id"⟩, hearsay orderId.ref, hearsay ⟨"archive", "order_id"⟩])

def picky : ColumnMatcher where
  name := "whole-numbers"
  role := .measureUnknown
  confidence := .high
  reason := "Values are whole numbers"
  test profile := if profile.type = .float then .error (.text "not whole") else .ok true

def broken : CustomRule where
  name := "broken"
  process _ := .error (.text "out of memory")

def noisy : Runner where
  rules := [.custom chatter, .matcher picky, .custom broken,
    Builtin.anyIdentifierByName.rule .usual, Builtin.primaryIdentifierByName.rule .usual]
  rules_ne_nil := by decide

theorem run_files_every_signal_shop :
    noisy.solver = Resolver.solve ∧
      (noisy.run shop).decisions.keys =
        [orderId.ref, amount.ref, ⟨"archive", "order_id"⟩] ∧
      (noisy.run shop).signalCount = 6 ∧
      ((noisy.run shop).decisions.values.map (·.signals.length)).foldr (· + ·) 0 = 6 := by
  obtain ⟨hkeys, _, _, hcount, hsum⟩ := run_files_every_signal noisy rfl shop
  have hlength : (noisy.run shop).signalCount = 6 := hcount.trans (by decide +kernel)
  exact ⟨rfl, hkeys.trans (by decide +kernel), hlength, hsum.symm.trans hlength⟩

end Runner

end ColumnRoles
