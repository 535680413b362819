import ColumnRoles.Resolver
import ColumnRoles.Ruleset

/-!
A run of a ruleset over a warehouse, and the report it makes. The signals of all rules are gathered
in the order of the rules and filed by column; then every column is decided by itself.
-/
namespace ColumnRoles

abbrev Solver := ColumnRef → List Signal → Decision

structure Report where
  /-- The columns of the warehouse in their order, and then those that only signals mention. -/
  decisions : OrderedMap ColumnRef Decision
  failures : List RuleFailure
  signalCount : Nat
  ruleCount : Nat
deriving DecidableEq, Repr

namespace Report

def decision? (report : Report) (ref : ColumnRef) : Option Decision :=
  report.decisions.get? ref

def resolved (report : Report) : List Decision :=
  report.decisions.values.filter (·.isResolved)

def unresolved (report : Report) : List Decision :=
  report.decisions.values.filter (!·.isResolved)

def countOf (report : Report) (role : Role) : Nat :=
  report.decisions.values.countP fun d => d.role? = some role

def countsByRole (report : Report) : List (Role × Nat) :=
  Role.all.filterMap fun role =>
    let count := report.countOf role
    if 0 < count then some (role, count) else none

def isClean (report : Report) : Bool :=
  report.failures.isEmpty

end Report

namespace Ruleset

/-- Every outcome of a ruleset, in order. Rules do not see each other, so it makes no difference
whether they are evaluated side by side. -/
def outcomes (rules : Ruleset) (parallel : Bool) (warehouse : Warehouse) : List Outcome :=
  if parallel then
    (rules.map fun rule => Task.spawn fun _ => rule.outcome warehouse).map Task.get
  else rules.map (·.outcome warehouse)

theorem outcomes_eq (rules : Ruleset) (parallel : Bool) (warehouse : Warehouse) :
    rules.outcomes parallel warehouse = rules.map (·.outcome warehouse) := by
  cases parallel
  · rfl
  · simp only [outcomes, if_true, List.map_map]
    rfl

end Ruleset

abbrev Evidence := OrderedMap ColumnRef (List Signal)

namespace Evidence

def start (warehouse : Warehouse) : Evidence :=
  .ofList (warehouse.columns.map fun profile => (profile.ref, []))

def file (evidence : Evidence) (signal : Signal) : Evidence :=
  evidence.update signal.column fun known => known.getD [] ++ [signal]

def gather (warehouse : Warehouse) (signals : List Signal) : Evidence :=
  signals.foldl file (start warehouse)

end Evidence

structure RunnerConfig where
  /-- Evaluate the rules side by side. -/
  parallel : Bool := false
deriving DecidableEq, Repr

/-- What is needed for a run. A runner has at least one rule. -/
structure Runner where
  rules : Ruleset
  solver : Solver := Resolver.solve
  config : RunnerConfig := {}
  rules_ne_nil : rules ≠ []

namespace Runner

def create (rules : Ruleset) (config : RunnerConfig) : Except Error Runner :=
  if h : rules = [] then .error .emptyRuleset
  else .ok { rules, config, rules_ne_nil := h }

def withSolver (runner : Runner) (solver : Solver) : Runner :=
  { runner with solver }

def run (runner : Runner) (warehouse : Warehouse) : Report :=
  let outcomes := runner.rules.outcomes runner.config.parallel warehouse
  let signals := outcomes.flatMap (·.signals)
  { decisions := (Evidence.gather warehouse signals).mapEntries runner.solver
    failures := outcomes.flatMap (·.failures)
    signalCount := signals.length
    ruleCount := runner.rules.length }

end Runner

end ColumnRoles
