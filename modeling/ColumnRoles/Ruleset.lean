import ColumnRoles.Rule.Builtin

/-!
Rulesets, and the configuration that tunes the built-in one. Main statement: the rules of a
configuration are the built-in ones in their own order, the disabled ones left out.
-/
namespace ColumnRoles

abbrev Ruleset := List Rule

namespace Ruleset

def adding (rules : Ruleset) (rule : Rule) : Ruleset :=
  rules ++ [rule]

def without (rules : Ruleset) (name : String) : Ruleset :=
  rules.filter fun rule => rule.name ≠ name

def names (rules : Ruleset) : List String :=
  rules.map Rule.name

def builtin (tuning : Tuning) : Ruleset :=
  Builtin.all.map (Builtin.rule tuning)

def usual : Ruleset :=
  builtin .usual

end Ruleset

/-- What people can ask of the built-in rules. -/
structure RulesetConfig where
  foreignIdentifierRatio : Float := Tuning.usualForeignIdentifierRatio
  categoricalRatio : Float := Tuning.usualCategoricalRatio
  /-- Column names that mark a primary time dimension. -/
  primaryTimePattern : String := Naming.NamePattern.usualTime.source
  /-- The names of the rules to leave out. -/
  disabledRules : List String := []

namespace RulesetConfig

/-- A ratio of distinct values to rows lies between zero and one; no comparison holds of what is
not a number. -/
def isRatio (x : Float) : Bool :=
  0 ≤ x && x ≤ 1

/-- The first thing that may not be asked for, if anything: ratios first, then names. -/
def fault? (config : RulesetConfig) : Option ConfigFault :=
  if !isRatio config.foreignIdentifierRatio then
    some (.ratioOutOfRange .foreignIdentifier config.foreignIdentifierRatio)
  else if !isRatio config.categoricalRatio then
    some (.ratioOutOfRange .categorical config.categoricalRatio)
  else
    (config.disabledRules.find? fun name => name ∉ Builtin.all.map Builtin.name).map .unknownRule

def validate (config : RulesetConfig) : Except Error Unit :=
  match config.fault? with
  | some fault => .error (.config fault)
  | none => .ok ()

/-- The tuning that a configuration asks for, if its pattern compiles. -/
def tuning? (config : RulesetConfig) (compile : Naming.Compiler := .reader) : Option Tuning :=
  (Naming.NamePattern.compile? compile config.primaryTimePattern).map fun primaryTime =>
    { foreignIdentifierRatio := config.foreignIdentifierRatio,
      categoricalRatio := config.categoricalRatio, primaryTime }

def ruleset (config : RulesetConfig) (compile : Naming.Compiler := .reader) :
    Except Error Ruleset := do
  config.validate
  match config.tuning? compile with
  | some tuning => .ok (config.disabledRules.foldl Ruleset.without (Ruleset.builtin tuning))
  | none => .error .badPattern

end RulesetConfig

namespace Ruleset

/-- Leaving out several names, one after the other, leaves the rules of any other name. -/
theorem foldl_without (rules : Ruleset) (names : List String) :
    names.foldl without rules = rules.filter fun rule => rule.name ∉ names := by
  induction names generalizing rules with
  | nil => exact (List.filter_eq_self.2 (by simp)).symm
  | cons name rest ih =>
    rw [List.foldl_cons, ih, without, List.filter_filter]
    congr 1
    funext rule
    by_cases h : rule.name = name <;> simp [h]

end Ruleset

namespace RulesetConfig

def enabled (config : RulesetConfig) : List Builtin :=
  Builtin.all.filter fun b => b.name ∉ config.disabledRules

theorem foldl_without_builtin (config : RulesetConfig) (tuning : Tuning) :
    config.disabledRules.foldl Ruleset.without (Ruleset.builtin tuning) =
      config.enabled.map (Builtin.rule tuning) := by
  rw [Ruleset.foldl_without, Ruleset.builtin, List.filter_map, enabled]
  refine congrArg (List.map _) (List.filter_congr fun b _ => ?_)
  rw [Function.comp_apply, Builtin.name_rule]

/-- A configuration without faults and with a pattern that compiles yields the enabled rules, tuned
as it asks for; no other configuration yields any. -/
theorem ruleset_eq_ok_iff {config : RulesetConfig} {compile : Naming.Compiler} {rules : Ruleset} :
    config.ruleset compile = .ok rules ↔ config.fault? = none ∧
      ∃ tuning, config.tuning? compile = some tuning ∧
        config.enabled.map (Builtin.rule tuning) = rules := by
  unfold ruleset validate
  cases config.fault? with
  | some fault => exact ⟨nofun, nofun⟩
  | none =>
    cases config.tuning? compile with
    | none => exact ⟨nofun, nofun⟩
    | some tuning =>
      have hok : ((Except.ok () : Except Error Unit) >>= fun _ =>
          .ok (config.disabledRules.foldl Ruleset.without (Ruleset.builtin tuning))) =
            Except.ok (config.enabled.map (Builtin.rule tuning)) :=
        congrArg Except.ok (config.foldl_without_builtin tuning)
      simp [hok]

end RulesetConfig

end ColumnRoles
