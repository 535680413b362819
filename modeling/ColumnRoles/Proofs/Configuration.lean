import ColumnRoles.Engine
import ColumnRoles.Proofs.NumericValue

/-!
Which configurations are accepted. A configuration is refused for the first thing that is wrong with
it: a ratio that does not lie between zero and one, a name that no built-in rule has, a pattern that
does not compile, or that no rule is left. There is nothing else to refuse it for, and an engine of
an accepted configuration has the built-in rules that are not disabled, in their own order. What
compiles the pattern may be anything.
-/
namespace ColumnRoles

namespace RulesetConfig

open Ratio (WithinUnit)
open Naming (Compiler NamePattern)

/-- No ratio is out of range, and only built-in rules are disabled. -/
structure Faultless (config : RulesetConfig) : Prop where
  foreignIdentifierRatio : WithinUnit config.foreignIdentifierRatio
  categoricalRatio : WithinUnit config.categoricalRatio
  disabledRules : ∀ name ∈ config.disabledRules, name ∈ Builtin.all.map Builtin.name

/-- What is wrong with the ratios and names of a configuration, everything before it being right. -/
inductive FirstFault (config : RulesetConfig) : ConfigFault → Prop where
  | foreignIdentifierRatio (h : ¬WithinUnit config.foreignIdentifierRatio) :
      FirstFault config (.ratioOutOfRange .foreignIdentifier config.foreignIdentifierRatio)
  | categoricalRatio (hforeign : WithinUnit config.foreignIdentifierRatio)
      (h : ¬WithinUnit config.categoricalRatio) :
      FirstFault config (.ratioOutOfRange .categorical config.categoricalRatio)
  | unknownRule {before behind : List String} {name : String}
      (hforeign : WithinUnit config.foreignIdentifierRatio)
      (hcategorical : WithinUnit config.categoricalRatio)
      (hdisabled : config.disabledRules = before ++ name :: behind)
      (hbefore : ∀ known ∈ before, known ∈ Builtin.all.map Builtin.name)
      (h : name ∉ Builtin.all.map Builtin.name) :
      FirstFault config (.unknownRule name)

/-- Every requirement on a configuration is met. -/
structure Usable (config : RulesetConfig) (compile : Compiler) : Prop extends
    Faultless config where
  primaryTimePattern : (compile config.primaryTimePattern).isSome
  enabled : ∃ name ∈ Builtin.all.map Builtin.name, name ∉ config.disabledRules

/-- The first requirement on a configuration that is not met, by the error that tells of it. -/
inductive Refused (config : RulesetConfig) (compile : Compiler) : Error → Prop where
  | fault {fault : ConfigFault} (h : config.FirstFault fault) :
      Refused config compile (.config fault)
  | primaryTimePattern (hfaultless : config.Faultless)
      (h : compile config.primaryTimePattern = none) : Refused config compile .badPattern
  | enabled (hfaultless : config.Faultless)
      (hpattern : (compile config.primaryTimePattern).isSome)
      (h : ∀ name ∈ Builtin.all.map Builtin.name, name ∈ config.disabledRules) :
      Refused config compile .emptyRuleset

variable {config : RulesetConfig} {compile : Compiler}

theorem not_isRatio_iff {x : Float} : (!isRatio x) = true ↔ ¬WithinUnit x := by
  rw [← isRatio_iff, Bool.not_eq_true', Bool.not_eq_true]

/-- The checks come upon the first fault. -/
theorem firstFault_of_fault? {fault : ConfigFault} (h : config.fault? = some fault) :
    config.FirstFault fault := by
  unfold fault? at h
  split at h
  · next hforeign =>
    obtain rfl := Option.some.inj h
    exact .foreignIdentifierRatio (not_isRatio_iff.mp hforeign)
  · next hforeign =>
    rw [not_isRatio_iff, not_not] at hforeign
    split at h
    · next hcategorical =>
      obtain rfl := Option.some.inj h
      exact .categoricalRatio hforeign (not_isRatio_iff.mp hcategorical)
    · next hcategorical =>
      rw [not_isRatio_iff, not_not] at hcategorical
      obtain ⟨name, hfind, rfl⟩ := Option.map_eq_some_iff.mp h
      obtain ⟨hname, before, behind, hdisabled, hbefore⟩ := List.find?_eq_some_iff_append.mp hfind
      refine .unknownRule hforeign hcategorical hdisabled ?_ (of_decide_eq_true hname)
      intro known hknown
      simpa using hbefore known hknown

theorem fault?_of_firstFault {fault : ConfigFault} (h : config.FirstFault fault) :
    config.fault? = some fault := by
  unfold fault?
  cases h with
  | foreignIdentifierRatio h => rw [if_pos (not_isRatio_iff.mpr h)]
  | categoricalRatio hforeign h =>
    rw [if_neg (mt not_isRatio_iff.mp (not_not.mpr hforeign)), if_pos (not_isRatio_iff.mpr h)]
  | @unknownRule before behind name hforeign hcategorical hdisabled hbefore h =>
    have hfind : config.disabledRules.find? (fun name => name ∉ Builtin.all.map Builtin.name) =
        some name := by
      refine List.find?_eq_some_iff_append.mpr ⟨decide_eq_true h, before, behind, hdisabled, ?_⟩
      intro known hknown
      simpa using hbefore known hknown
    rw [if_neg (mt not_isRatio_iff.mp (not_not.mpr hforeign)),
      if_neg (mt not_isRatio_iff.mp (not_not.mpr hcategorical)), hfind, Option.map_some]

theorem fault?_eq_none_iff : config.fault? = none ↔ config.Faultless := by
  unfold fault?
  split
  · next hforeign =>
    exact ⟨nofun, fun h => absurd h.foreignIdentifierRatio (not_isRatio_iff.mp hforeign)⟩
  · next hforeign =>
    split
    · next hcategorical =>
      exact ⟨nofun, fun h => absurd h.categoricalRatio (not_isRatio_iff.mp hcategorical)⟩
    · next hcategorical =>
      rw [not_isRatio_iff, not_not] at hforeign hcategorical
      rw [Option.map_eq_none_iff, List.find?_eq_none]
      constructor
      · intro h
        exact ⟨hforeign, hcategorical, fun name hname => by simpa using h name hname⟩
      · intro h name hname
        simpa using h.disabledRules name hname

theorem enabled_eq_nil_iff :
    config.enabled = [] ↔ ∀ name ∈ Builtin.all.map Builtin.name, name ∈ config.disabledRules := by
  simp [enabled, List.filter_eq_nil_iff]

/-- The names that are left stand in the order of the built-in rules, however they are disabled. -/
theorem names_enabled (tuning : Tuning) :
    Ruleset.names (config.enabled.map (Builtin.rule tuning)) =
      (Builtin.all.map Builtin.name).filter (· ∉ config.disabledRules) := by
  rw [Ruleset.names, List.map_map, List.filter_map, enabled]
  exact List.map_congr_left fun b _ => Builtin.name_rule tuning b

/-- Either every requirement is met, or one is the first that is not. -/
theorem usable_or_refused (config : RulesetConfig) (compile : Compiler) :
    config.Usable compile ∨ ∃ error, config.Refused compile error := by
  cases hfault : config.fault? with
  | some fault => exact Or.inr ⟨_, .fault (firstFault_of_fault? hfault)⟩
  | none =>
    have hfaultless := fault?_eq_none_iff.mp hfault
    cases hpattern : compile config.primaryTimePattern with
    | none => exact Or.inr ⟨_, .primaryTimePattern hfaultless hpattern⟩
    | some finds =>
      have hcompiles := Option.isSome_of_eq_some hpattern
      by_cases hleft : ∃ name ∈ Builtin.all.map Builtin.name, name ∉ config.disabledRules
      · exact Or.inl ⟨hfaultless, hcompiles, hleft⟩
      · refine Or.inr ⟨_, .enabled hfaultless hcompiles fun name hname => ?_⟩
        exact Decidable.not_not.mp fun hnot => hleft ⟨name, hname, hnot⟩

/-- Nothing but the pattern stands in the way of a tuning. -/
theorem tuning?_eq_none_iff :
    config.tuning? compile = none ↔ compile config.primaryTimePattern = none := by
  rw [tuning?, NamePattern.compile?, Option.map_eq_none_iff, Option.map_eq_none_iff]

/-- A configuration without faults and with a pattern that compiles has its rules, though there may
be none left. -/
theorem Faultless.exists_ruleset (h : config.Faultless)
    (hpattern : (compile config.primaryTimePattern).isSome) :
    ∃ tuning, config.ruleset compile = .ok (config.enabled.map (Builtin.rule tuning)) := by
  rw [Option.isSome_iff_ne_none, Ne, ← tuning?_eq_none_iff] at hpattern
  obtain ⟨tuning, htuning⟩ := Option.ne_none_iff_exists'.mp hpattern
  exact ⟨tuning, ruleset_eq_ok_iff.mpr ⟨fault?_eq_none_iff.mpr h, tuning, htuning, rfl⟩⟩

end RulesetConfig

namespace Engine

open Naming (Compiler NamePattern)

variable {config : EngineConfig} {compile : Compiler} {error : Error}

theorem create_of_error (h : config.ruleset.ruleset compile = .error error) :
    create config compile = .error error := by
  rw [create, h]
  rfl

/-- The engine has the rules of its configuration, if there are any. -/
theorem create_of_ok {rules : Ruleset} (h : config.ruleset.ruleset compile = .ok rules) :
    create config compile =
      (Runner.create rules config.runner).map fun runner => { config, runner } := by
  rw [create, h]
  change Runner.create rules config.runner >>= _ = _
  cases Runner.create rules config.runner <;> rfl

theorem create_of_refused (h : config.ruleset.Refused compile error) :
    create config compile = .error error := by
  cases h with
  | fault h =>
    refine create_of_error ?_
    rw [RulesetConfig.ruleset, RulesetConfig.validate, RulesetConfig.fault?_of_firstFault h]
    rfl
  | primaryTimePattern hfaultless h =>
    refine create_of_error ?_
    rw [RulesetConfig.ruleset, RulesetConfig.validate,
      RulesetConfig.fault?_eq_none_iff.mpr hfaultless, RulesetConfig.tuning?_eq_none_iff.mpr h]
    rfl
  | enabled hfaultless hpattern h =>
    obtain ⟨tuning, hruleset⟩ := hfaultless.exists_ruleset hpattern
    rw [RulesetConfig.enabled_eq_nil_iff.mpr h] at hruleset
    exact create_of_ok hruleset

theorem create_of_usable (h : config.ruleset.Usable compile) :
    ∃ engine, create config compile = .ok engine ∧ engine.rules.names =
      (Builtin.all.map Builtin.name).filter (· ∉ config.ruleset.disabledRules) := by
  obtain ⟨tuning, hruleset⟩ := h.toFaultless.exists_ruleset h.primaryTimePattern
  have hne : config.ruleset.enabled.map (Builtin.rule tuning) ≠ [] := by
    obtain ⟨name, hname, hleft⟩ := h.enabled
    rw [Ne, List.map_eq_nil_iff, RulesetConfig.enabled_eq_nil_iff]
    exact fun hnone => hleft (hnone name hname)
  refine ⟨{ config, runner := { rules := _, config := config.runner, rules_ne_nil := hne } }, ?_,
    RulesetConfig.names_enabled tuning⟩
  rw [create_of_ok hruleset, Runner.create, dif_neg hne]
  rfl

/-- An engine has the enabled rules of its configuration, tuned as it asks for. -/
theorem runner_of_create {engine : Engine} (h : create config compile = .ok engine) :
    ∃ tuning, config.ruleset.tuning? compile = some tuning ∧
      engine.runner.rules = config.ruleset.enabled.map (Builtin.rule tuning) ∧
      engine.runner.solver = Resolver.solve := by
  cases hruleset : config.ruleset.ruleset compile with
  | error error => cases h.symm.trans (create_of_error hruleset)
  | ok rules =>
    obtain ⟨_, tuning, htuning, hrules⟩ := RulesetConfig.ruleset_eq_ok_iff.mp hruleset
    rw [create_of_ok hruleset, Runner.create] at h
    split at h
    · cases h
    · obtain rfl := Except.ok.inj h
      exact ⟨tuning, htuning, hrules.symm, rfl⟩

theorem usable_of_create {engine : Engine} (h : create config compile = .ok engine) :
    config.ruleset.Usable compile := by
  refine (config.ruleset.usable_or_refused compile).resolve_right fun ⟨error, hrefused⟩ => ?_
  cases h.symm.trans (create_of_refused hrefused)

theorem refused_of_create (h : create config compile = .error error) :
    config.ruleset.Refused compile error := by
  rcases config.ruleset.usable_or_refused compile with husable | ⟨first, hrefused⟩
  · obtain ⟨engine, hok, _⟩ := create_of_usable husable
    cases hok.symm.trans h
  · obtain rfl := Except.error.inj ((create_of_refused hrefused).symm.trans h)
    exact hrefused

/-- Whatever compiles patterns, a configuration is accepted exactly if every requirement on it is
met: both ratios lie between zero and one, only names of built-in rules are disabled, the pattern
compiles, and some rule is left. Any other is refused with the error of the first requirement that
is not met. The engine of an accepted configuration has the rules that are not disabled, in the
order of the built-in rules. -/
theorem create_ok_iff_usable (compile : Compiler) (config : EngineConfig) :
    ((∃ engine, create config compile = .ok engine) ↔ config.ruleset.Usable compile) ∧
    (∀ error, create config compile = .error error ↔ config.ruleset.Refused compile error) ∧
    ∀ engine, create config compile = .ok engine → engine.rules.names =
      (Builtin.all.map Builtin.name).filter (· ∉ config.ruleset.disabledRules) := by
  refine ⟨⟨?_, ?_⟩, fun error => ⟨refused_of_create, create_of_refused⟩, ?_⟩
  · rintro ⟨engine, h⟩
    exact usable_of_create h
  · intro h
    obtain ⟨engine, hok, _⟩ := create_of_usable h
    exact ⟨engine, hok⟩
  · intro engine h
    obtain ⟨same, hok, hnames⟩ := create_of_usable (usable_of_create h)
    obtain rfl := Except.ok.inj (hok.symm.trans h)
    exact hnames

def atBounds : EngineConfig where
  ruleset :=
    { foreignIdentifierRatio := 1, categoricalRatio := -0
      disabledRules :=
        ["measure-by-integer-type", "any-identifier-by-name", "measure-by-integer-type"] }

def hopeless : EngineConfig where
  ruleset := { foreignIdentifierRatio := 0 / 0, disabledRules := ["everything"] }

theorem create_ok_iff_usable_at_bounds :
    atBounds.ruleset.Usable .reader ∧
      (∃ engine, create atBounds = .ok engine ∧
        engine.rules.names = Builtin.all.tail.dropLast.map Builtin.name) ∧
      create hopeless = .error (.config (.ratioOutOfRange .foreignIdentifier (0 / 0))) := by
  have hzero : Ratio.value (-0) = some 0 := rfl
  have hnumber : Ratio.value (0 / 0) = none := rfl
  have husable : atBounds.ruleset.Usable .reader :=
    { foreignIdentifierRatio := ⟨1, Ratio.value_one, by norm_num⟩
      categoricalRatio := ⟨0, hzero, by norm_num⟩
      disabledRules := by decide
      primaryTimePattern := Option.isSome_of_eq_some NamePattern.reader_usualTime
      enabled := by decide }
  obtain ⟨engine, hok⟩ := (create_ok_iff_usable .reader atBounds).1.mpr husable
  have hnames := (create_ok_iff_usable .reader atBounds).2.2 engine hok
  have hrefused : hopeless.ruleset.Refused .reader
      (.config (.ratioOutOfRange .foreignIdentifier (0 / 0))) := by
    refine .fault (.foreignIdentifierRatio ?_)
    rintro ⟨q, hq, _⟩
    cases hnumber.symm.trans hq
  exact ⟨husable, ⟨engine, hok, hnames.trans (by decide)⟩,
    ((create_ok_iff_usable .reader hopeless).2.1 _).mpr hrefused⟩

end Engine

end ColumnRoles
