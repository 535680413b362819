import ColumnRoles.Proofs.Run

/-!
Rules that fail. What a run decides depends on the signals that its rules emit and on nothing else,
so a rule can only harm a run by the signals it does not emit. A rule that refuses or breaks off as
a whole is as good as absent, but for one failure in its place. A matcher whose test breaks off on
some columns is as good as one that rejects them, but for a failure for each of them.
-/
namespace ColumnRoles

theorem Crash.report_eq (crash : Crash) : crash.report = "rule panicked: " ++ crash.message :=
  rfl

namespace ColumnMatcher

variable (matcher : ColumnMatcher)

def crash? (profile : ColumnProfile) : Option Crash :=
  match matcher.test profile with
  | .ok _ => none
  | .error crash => some crash

def crashes (warehouse : Warehouse) : List (ColumnProfile × Crash) :=
  warehouse.columns.filterMap fun profile => (matcher.crash? profile).map (profile, ·)

/-- The same matcher, with a test that rejects the columns on which this one breaks off. -/
def calmed : ColumnMatcher :=
  { matcher with
    test := fun profile =>
      match matcher.test profile with
      | .ok passed => .ok passed
      | .error _ => .ok false }

theorem signal?_calmed (profile : ColumnProfile) :
    matcher.calmed.signal? profile = matcher.signal? profile := by
  cases h : matcher.test profile with
  | error crash => simp only [signal?, calmed, h]
  | ok passed => simp only [signal?, calmed, h]

theorem fault?_eq (profile : ColumnProfile) :
    matcher.fault? profile = (matcher.crash? profile).map fun crash =>
      { column := some profile.ref, message := "rule panicked: " ++ crash.message } := by
  unfold fault? crash?
  cases matcher.test profile with
  | ok passed => rfl
  | error crash => rw [Option.map_some, ← crash.report_eq]

theorem faults_evaluate (warehouse : Warehouse) :
    (matcher.evaluate warehouse).faults = (matcher.crashes warehouse).map fun (profile, crash) =>
      { column := some profile.ref, message := "rule panicked: " ++ crash.message } := by
  unfold evaluate crashes
  rw [List.map_filterMap]
  refine List.filterMap_congr fun profile _ => ?_
  rw [matcher.fault?_eq, Option.map_map]
  rfl

theorem signals_evaluate_calmed (warehouse : Warehouse) :
    (matcher.calmed.evaluate warehouse).signals = (matcher.evaluate warehouse).signals :=
  List.filterMap_congr fun profile _ => matcher.signal?_calmed profile

end ColumnMatcher

namespace Rule

def matcher? : Rule → Option ColumnMatcher
  | matcher m => some m
  | lowCardinality r => some r.matcher
  | onlyTimeColumn | custom _ => none

theorem cases_of_matcher? {rule : Rule} {m : ColumnMatcher} (h : rule.matcher? = some m) :
    rule = .matcher m ∨ ∃ r, rule = .lowCardinality r ∧ r.matcher = m := by
  cases rule with
  | matcher => exact Or.inl (congrArg Rule.matcher (Option.some.inj h))
  | lowCardinality r => exact Or.inr ⟨r, rfl, Option.some.inj h⟩
  | onlyTimeColumn => cases h
  | custom => cases h

/-- Evaluation keeps no more of the rule than its processing gives. -/
def Plain (rule : Rule) (warehouse : Warehouse) : Prop :=
  rule.evaluate warehouse = (rule.process warehouse).map Evaluation.ofResult

/-- A rule given by its processing alone is plain. -/
theorem plain_custom (name : String)
    (process : Warehouse → Except Crash (Except RuleFault (List Signal))) (warehouse : Warehouse) :
    (Rule.custom { name, process }).Plain warehouse :=
  rfl

/-- What the rule as a whole complains of: its own fault, or that it broke off. -/
def complaint? (rule : Rule) (warehouse : Warehouse) : Option RuleFault :=
  match rule.process warehouse with
  | .ok (.ok _) => none
  | .ok (.error fault) => some fault
  | .error crash => some { column := none, message := "rule panicked: " ++ crash.message }

section Complaint

variable {rule : Rule} {warehouse : Warehouse} {fault : RuleFault}

/-- A plain rule that complains has found nothing, and its complaint is all that is left of it. -/
theorem attempt_of_complaint (hplain : rule.Plain warehouse)
    (hfault : rule.complaint? warehouse = some fault) :
    rule.attempt warehouse = { signals := [], faults := [fault] } := by
  unfold attempt
  rw [hplain]
  unfold complaint? at hfault
  cases hprocess : rule.process warehouse with
  | error crash =>
    rw [hprocess] at hfault
    obtain rfl := Option.some.inj hfault
    rw [← crash.report_eq]
    rfl
  | ok result =>
    rw [hprocess] at hfault
    cases result with
    | ok signals => cases hfault
    | error own =>
      obtain rfl := Option.some.inj hfault
      rfl

theorem emitted_of_complaint (hplain : rule.Plain warehouse)
    (hfault : rule.complaint? warehouse = some fault) : rule.emitted warehouse = [] := by
  rw [← rule.signals_outcome, outcome, attempt_of_complaint hplain hfault]

theorem failures_of_complaint (hplain : rule.Plain warehouse)
    (hfault : rule.complaint? warehouse = some fault) :
    (rule.outcome warehouse).failures =
      [{ rule := rule.name, column := fault.column, message := fault.message }] := by
  rw [outcome, attempt_of_complaint hplain hfault]
  rfl

end Complaint

section Matcher

variable {rule : Rule} {matcher : ColumnMatcher} (h : rule.matcher? = some matcher)
include h

theorem evaluate_of_matcher (warehouse : Warehouse) :
    rule.evaluate warehouse = .ok (matcher.evaluate warehouse) := by
  rcases cases_of_matcher? h with rfl | ⟨r, rfl, rfl⟩ <;> rfl

theorem process_of_matcher (warehouse : Warehouse) :
    rule.process warehouse = .ok (matcher.evaluate warehouse).toResult := by
  rcases cases_of_matcher? h with rfl | ⟨r, rfl, rfl⟩ <;> rfl

theorem emitted_of_matcher (warehouse : Warehouse) :
    rule.emitted warehouse = (matcher.evaluate warehouse).signals := by
  rw [emitted, evaluate_of_matcher h]

theorem emitted_calmed (warehouse : Warehouse) :
    (Rule.matcher matcher.calmed).emitted warehouse = rule.emitted warehouse := by
  rw [emitted_of_matcher h]
  exact matcher.signals_evaluate_calmed warehouse

theorem failures_of_matcher (warehouse : Warehouse) :
    (rule.outcome warehouse).failures = (matcher.crashes warehouse).map fun (profile, crash) =>
      { rule := rule.name, column := some profile.ref,
        message := "rule panicked: " ++ crash.message } := by
  rw [outcome, attempt, evaluate_of_matcher h]
  simp only [matcher.faults_evaluate, List.map_map]
  rfl

/-- Processing answers with the first failure, or with all that evaluation found. -/
theorem process_answer (warehouse : Warehouse) :
    match matcher.crashes warehouse with
    | [] => ∃ evaluation, rule.evaluate warehouse = .ok evaluation ∧
        rule.process warehouse = .ok (.ok evaluation.signals)
    | (profile, crash) :: _ => rule.process warehouse = .ok (.error
        { column := some profile.ref,
          message := "rule panicked: " ++ crash.message }) := by
  rw [process_of_matcher h, evaluate_of_matcher h, Evaluation.toResult, matcher.faults_evaluate]
  cases matcher.crashes warehouse with
  | nil => exact ⟨_, rfl, rfl⟩
  | cons first others => rfl

end Matcher

end Rule

namespace Runner

/-- A run is decided by the signals that its rules emit. -/
theorem run_eq_of_emitted {one other : Runner} {warehouse : Warehouse}
    (hsolver : one.solver = other.solver)
    (h : Ruleset.emitted one.rules warehouse = Ruleset.emitted other.rules warehouse) :
    (one.run warehouse).decisions = (other.run warehouse).decisions ∧
      (one.run warehouse).signalCount = (other.run warehouse).signalCount := by
  simp only [run_eq, evidence, hsolver, h, and_self]

section Place

variable {before behind : Ruleset} {rule : Rule} {warehouse : Warehouse} {whole other : Runner}
  (hwhole : whole.rules = before ++ [rule] ++ behind) (hsolver : other.solver = whole.solver)
include hwhole

theorem failures_run_of_place :
    (whole.run warehouse).failures = Ruleset.failures before warehouse ++
      (rule.outcome warehouse).failures ++ Ruleset.failures behind warehouse := by
  rw [failures_run, hwhole]
  simp

include hsolver

/-- A rule that emits nothing might as well be left out. -/
theorem run_of_silent (hother : other.rules = before ++ behind)
    (hsilent : rule.emitted warehouse = []) :
    (whole.run warehouse).decisions = (other.run warehouse).decisions ∧
      (whole.run warehouse).signalCount = (other.run warehouse).signalCount := by
  refine run_eq_of_emitted hsolver.symm ?_
  simp [hwhole, hother, hsilent]

/-- A rule may be replaced by one that emits the same. -/
theorem run_of_replaced {substitute : Rule} (hother : other.rules = before ++ [substitute] ++ behind)
    (hsame : substitute.emitted warehouse = rule.emitted warehouse) :
    (whole.run warehouse).decisions = (other.run warehouse).decisions ∧
      (whole.run warehouse).signalCount = (other.run warehouse).signalCount := by
  refine run_eq_of_emitted hsolver.symm ?_
  simp [hwhole, hother, hsame]

end Place

/-- Misbehaving rules are isolated, and their failures name them. A rule that refuses or breaks off
changes nothing in the decisions that are made without it, and leaves one failure in its place, with
its own words and the column it names, or with what is left of it. A matcher whose test breaks off
on some columns finds what it would find if it rejected these, and leaves one failure for each of
them in their order; asked for its signals alone, it answers with the first of these, and with all
its signals if there is none. -/
theorem misbehaving_rule_isolated (before behind : Ruleset) (rule : Rule) (warehouse : Warehouse)
    (whole : Runner) (hwhole : whole.rules = before ++ [rule] ++ behind) :
    (∀ (fault : RuleFault) (rest : Runner), rule.Plain warehouse →
      rule.complaint? warehouse = some fault →
      rest.rules = before ++ behind → rest.solver = whole.solver →
      (whole.run warehouse).decisions = (rest.run warehouse).decisions ∧
      (whole.run warehouse).signalCount = (rest.run warehouse).signalCount ∧
      (rest.run warehouse).failures =
        Ruleset.failures before warehouse ++ Ruleset.failures behind warehouse ∧
      (whole.run warehouse).failures = Ruleset.failures before warehouse ++
        [{ rule := rule.name, column := fault.column, message := fault.message }] ++
        Ruleset.failures behind warehouse) ∧
    (∀ (matcher : ColumnMatcher) (calm : Runner), rule.matcher? = some matcher →
      calm.rules = before ++ [.matcher matcher.calmed] ++ behind → calm.solver = whole.solver →
      (whole.run warehouse).decisions = (calm.run warehouse).decisions ∧
      (whole.run warehouse).signalCount = (calm.run warehouse).signalCount ∧
      (whole.run warehouse).failures = Ruleset.failures before warehouse ++
        ((matcher.crashes warehouse).map fun (profile, crash) =>
          { rule := rule.name, column := some profile.ref,
            message := "rule panicked: " ++ crash.message }) ++
        Ruleset.failures behind warehouse ∧
      match matcher.crashes warehouse with
      | [] => ∃ evaluation, rule.evaluate warehouse = .ok evaluation ∧
          rule.process warehouse = .ok (.ok evaluation.signals)
      | (profile, crash) :: _ => rule.process warehouse = .ok (.error
          { column := some profile.ref,
            message := "rule panicked: " ++ crash.message })) := by
  constructor
  · intro fault rest hplain hfault hrest hsolver
    obtain ⟨hdecisions, hcount⟩ := run_of_silent hwhole hsolver hrest
      (Rule.emitted_of_complaint hplain hfault)
    refine ⟨hdecisions, hcount, ?_, ?_⟩
    · rw [failures_run, hrest, Ruleset.failures_append]
    · rw [failures_run_of_place hwhole, Rule.failures_of_complaint hplain hfault]
  · intro matcher calm hmatcher hcalm hsolver
    obtain ⟨hdecisions, hcount⟩ := run_of_replaced hwhole hsolver hcalm
      (Rule.emitted_calmed hmatcher warehouse)
    refine ⟨hdecisions, hcount, ?_, Rule.process_answer hmatcher warehouse⟩
    rw [failures_run_of_place hwhole, Rule.failures_of_matcher hmatcher]

def withoutBroken : Runner where
  rules := [.custom chatter, .matcher picky,
    Builtin.anyIdentifierByName.rule .usual, Builtin.primaryIdentifierByName.rule .usual]
  rules_ne_nil := by decide

def withCalmed : Runner where
  rules := [.custom chatter, .matcher picky.calmed, .custom broken,
    Builtin.anyIdentifierByName.rule .usual, Builtin.primaryIdentifierByName.rule .usual]
  rules_ne_nil := by decide

theorem misbehaving_rule_isolated_shop :
    ((Rule.custom broken).Plain shop ∧
      (noisy.run shop).decisions = (withoutBroken.run shop).decisions ∧
      (noisy.run shop).failures =
        [{ rule := "whole-numbers", column := some amount.ref,
            message := "rule panicked: not whole" },
          { rule := "broken", column := none, message := "rule panicked: out of memory" }]) ∧
    (noisy.run shop).decisions = (withCalmed.run shop).decisions ∧
      (Rule.matcher picky).process shop = .ok (.error
        { column := some amount.ref, message := "rule panicked: not whole" }) := by
  have hplain : (Rule.custom broken).Plain shop := Rule.plain_custom _ _ shop
  have hfault : (Rule.custom broken).complaint? shop =
      some { column := none, message := "rule panicked: out of memory" } := by decide +kernel
  have hcrashes : picky.crashes shop = [(amount, .text "not whole")] := by decide +kernel
  constructor
  · obtain ⟨hdecisions, _, _, hfailures⟩ := (misbehaving_rule_isolated
      [.custom chatter, .matcher picky] [Builtin.anyIdentifierByName.rule .usual,
        Builtin.primaryIdentifierByName.rule .usual] (.custom broken) shop noisy rfl).1
      _ withoutBroken hplain hfault rfl rfl
    exact ⟨hplain, hdecisions, hfailures.trans (by decide +kernel)⟩
  · obtain ⟨hdecisions, _, _, hprocess⟩ := (misbehaving_rule_isolated
      [.custom chatter] [.custom broken, Builtin.anyIdentifierByName.rule .usual,
        Builtin.primaryIdentifierByName.rule .usual] (.matcher picky) shop noisy rfl).2
      picky withCalmed rfl rfl rfl
    rw [hcrashes] at hprocess
    exact ⟨hdecisions, hprocess⟩

end Runner

end ColumnRoles
