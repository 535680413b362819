import ColumnRoles.Proofs.Configuration
import ColumnRoles.Proofs.DecisionTable
import ColumnRoles.Proofs.FurtherEvidence
import ColumnRoles.Proofs.Locality
import ColumnRoles.Proofs.Strongest

/-!
What another ratio changes. Each ratio belongs to one rule, and no other rule looks at it. A column
therefore hears the same before and behind what this rule says of it, and the rule says the same,
up to its words, under two ratios that the column does not lie between. A column that does can only
gain one hint by the greater ratio. A hint makes no ties and breaks none, and where definitive
evidence decides, it can only deepen what that evidence comes to by itself.
-/
namespace ColumnRoles

def RatioSetting.builtin : RatioSetting → Builtin
  | foreignIdentifier => .foreignIdentifierByCardinalityRatio
  | categorical => .categoricalDimensionByCardinalityRatio

def RatioSetting.role : RatioSetting → Role
  | foreignIdentifier => .idForeign
  | categorical => .dimensionCategorical

def Tuning.withRatio (tuning : Tuning) (ratio : Float) : RatioSetting → Tuning
  | .foreignIdentifier => { tuning with foreignIdentifierRatio := ratio }
  | .categorical => { tuning with categoricalRatio := ratio }

def RulesetConfig.withRatio (config : RulesetConfig) (ratio : Float) :
    RatioSetting → RulesetConfig
  | .foreignIdentifier => { config with foreignIdentifierRatio := ratio }
  | .categorical => { config with categoricalRatio := ratio }

/-- The configuration with another ratio, and otherwise as it is. Configurations that differ in one
ratio alone are one configuration with two such ratios. -/
def EngineConfig.withRatio (config : EngineConfig) (ratio : Float) (setting : RatioSetting) :
    EngineConfig :=
  { config with ruleset := config.ruleset.withRatio ratio setting }

namespace RulesetConfig

variable (config : RulesetConfig) (compile : Naming.Compiler) (ratio : Float)
  (setting : RatioSetting)

theorem tuning?_withRatio :
    (config.withRatio ratio setting).tuning? compile =
      (config.tuning? compile).map (·.withRatio ratio setting) := by
  cases setting <;> simp only [tuning?, withRatio, Tuning.withRatio, Option.map_map] <;> rfl

theorem enabled_withRatio : (config.withRatio ratio setting).enabled = config.enabled := by
  cases setting <;> rfl

variable {config compile ratio setting} in
/-- Any ratio from zero to one may take the place of another. -/
theorem Usable.withRatio (h : config.Usable compile) (hratio : isRatio ratio = true) :
    (config.withRatio ratio setting).Usable compile := by
  cases setting with
  | foreignIdentifier => exact { h with foreignIdentifierRatio := isRatio_iff.mp hratio }
  | categorical => exact { h with categoricalRatio := isRatio_iff.mp hratio }

theorem nodup_enabled : config.enabled.Nodup := by
  have hall : Builtin.all.Nodup := by decide
  exact hall.filter _

end RulesetConfig

namespace ColumnProfile

variable {profile : ColumnProfile} {low high : Float}

/-- The ratio of the column, if it has one, does not lie between the two thresholds. -/
def RatioOutside (profile : ColumnProfile) (low high : Float) : Prop :=
  ∀ ratio ∈ profile.cardinalityRatio, ratio ≤ low ∨ high < ratio

instance (profile : ColumnProfile) (low high : Float) :
    Decidable (profile.RatioOutside low high) :=
  inferInstanceAs (Decidable (∀ ratio ∈ profile.cardinalityRatio, ratio ≤ low ∨ high < ratio))

/-- Two thresholds on the same side of the ratio find the same. -/
theorem RatioOutside.hasLowCardinality_eq (h : profile.RatioOutside low high) (hle : low ≤ high) :
    profile.hasLowCardinality low = profile.hasLowCardinality high := by
  cases hratio : profile.cardinalityRatio with
  | none => simp [hasLowCardinality, hratio]
  | some ratio =>
    rcases h ratio hratio with hwithin | hbeyond
    · have hlow : profile.hasLowCardinality low = true := by simpa [hasLowCardinality, hratio]
      rw [hlow, hasLowCardinality_mono hle hlow]
    · have hhigh : ¬profile.hasLowCardinality high = true := by
        simpa [hasLowCardinality, hratio] using Ratio.not_le_of_lt hbeyond
      rw [Bool.eq_false_of_not_eq_true hhigh,
        Bool.eq_false_of_not_eq_true (mt (hasLowCardinality_mono hle) hhigh)]

theorem not_hasLowCardinality_of_between (h : ¬profile.RatioOutside low high) :
    profile.hasLowCardinality low = false := by
  refine Bool.eq_false_of_not_eq_true fun hlow => h fun ratio hratio => Or.inl ?_
  rw [Option.mem_def] at hratio
  simpa [hasLowCardinality, hratio] using hlow

end ColumnProfile

/-- What a rule says stands between what the rules before it and behind it say. -/
theorem Builtin.testimony_middle (tuning : Tuning) (front : List Builtin) (b : Builtin)
    (back : List Builtin) (only : Bool) (profile : ColumnProfile) :
    testimony tuning (front ++ b :: back) only profile =
      testimony tuning front only profile ++ ((b.rule tuning).signalOn? only profile).toList ++
        testimony tuning back only profile := by
  simp only [testimony, List.filterMap_append, List.filterMap_cons]
  cases (b.rule tuning).signalOn? only profile <;> simp

namespace Resolver

/-- Definitive evidence ties, or all of the evidence comes to a role that refines what the
definitive evidence comes to by itself. -/
theorem tied_or_refines_definitive (column : ColumnRef) {signals : List Signal}
    (h : ∃ s ∈ signals, s.Definitive) :
    (solve column signals).resolution = .unresolved .tiedDefinitive ∨
      ∃ base role,
        (solve column (signals.filter fun s => s.Definitive)).resolution = .resolved base ∧
        (solve column signals).resolution = .resolved role ∧ role.Refines base := by
  obtain ⟨s, hs, hdef⟩ := h
  rcases tied_or_decided column hs hdef with htied | ⟨base, hbase, hsolve⟩
  · exact Or.inl htied
  · have hdefinitive : ∀ s ∈ signals.filter fun s => s.Definitive, s.Definitive := fun s hs =>
      (mem_definitive.mp hs).2
    have halone : mostSpecific (ground (signals.filter fun s => s.Definitive)).accepted =
        some base := by
      rw [ground_of_definitive hdefinitive]
      exact hbase
    have hresolved := congrArg Decision.resolution (solve_decided column halone)
    obtain ⟨same, hsame, hrole, _⟩ := base_of_definitive hdefinitive hresolved
    obtain rfl := Option.some.inj (hsame.symm.trans halone)
    exact Or.inr ⟨same.role, _, hresolved.trans (congrArg Resolution.resolved hrole.symm),
      congrArg Decision.resolution hsolve, finalist_refines signals same⟩

end Resolver

namespace RatioSetting

section Testimony

variable (setting : RatioSetting)

/-- What the rule of the ratio says of a column, if it is among the given rules. It does not ask
whether the column is the only time column of its table. -/
def told? (builtins : List Builtin) (ratio : Float) (profile : ColumnProfile) : Option Signal :=
  if setting.builtin ∈ builtins then
    (setting.builtin.repetitionHint setting.role ratio).signalOn? false profile
  else none

theorem rule_withRatio (tuning : Tuning) (ratio : Float) :
    setting.builtin.rule (tuning.withRatio ratio setting) =
      setting.builtin.repetitionHint setting.role ratio := by
  cases setting <;> rfl

/-- No other rule looks at the ratio. -/
theorem rule_withRatio_of_ne (tuning : Tuning) (ratio : Float) {b : Builtin}
    (h : b ≠ setting.builtin) : b.rule (tuning.withRatio ratio setting) = b.rule tuning := by
  cases setting <;> cases b <;> first | rfl | exact absurd rfl h

theorem testimony_withRatio_of_not_mem (tuning : Tuning) (ratio : Float) {builtins : List Builtin}
    (h : setting.builtin ∉ builtins) (only : Bool) (profile : ColumnProfile) :
    Builtin.testimony (tuning.withRatio ratio setting) builtins only profile =
      Builtin.testimony tuning builtins only profile := by
  refine List.filterMap_congr fun b hb => ?_
  rw [setting.rule_withRatio_of_ne tuning ratio fun heq => h (heq ▸ hb)]

/-- Whatever the ratio is, the same is said before and behind what its rule says. -/
theorem testimony_withRatio (tuning : Tuning) {builtins : List Builtin} (hnodup : builtins.Nodup)
    (only : Bool) (profile : ColumnProfile) :
    ∃ before behind, ∀ ratio,
      Builtin.testimony (tuning.withRatio ratio setting) builtins only profile =
        before ++ (setting.told? builtins ratio profile).toList ++ behind := by
  by_cases hmem : setting.builtin ∈ builtins
  · obtain ⟨front, back, rfl⟩ := List.append_of_mem hmem
    have hother := (List.nodup_cons.mp (List.nodup_middle.mp hnodup)).1
    rw [List.mem_append, not_or] at hother
    obtain ⟨hfront, hback⟩ := hother
    refine ⟨Builtin.testimony tuning front only profile,
      Builtin.testimony tuning back only profile, fun ratio => ?_⟩
    rw [Builtin.testimony_middle, setting.testimony_withRatio_of_not_mem tuning ratio hfront,
      setting.testimony_withRatio_of_not_mem tuning ratio hback, setting.rule_withRatio, told?,
      if_pos hmem]
    rfl
  · refine ⟨Builtin.testimony tuning builtins only profile, [], fun ratio => ?_⟩
    rw [setting.testimony_withRatio_of_not_mem tuning ratio hmem, told?, if_neg hmem]
    simp

theorem stance_told? (builtins : List Builtin) (ratio : Float) (profile : ColumnProfile) :
    (setting.told? builtins ratio profile).map Signal.stance =
      if setting.builtin ∈ builtins ∧ profile.hasLowCardinality ratio = true then
        some (setting.role, .medium, true)
      else none := by
  rw [told?]
  by_cases hmem : setting.builtin ∈ builtins
  · rw [if_pos hmem]
    simp only [hmem, true_and]
    exact ColumnMatcher.stance_signal? rfl
  · simp [hmem]

end Testimony

variable {setting : RatioSetting} {builtins : List Builtin} {profile : ColumnProfile}
  {ratio low high : Float} {s : Signal}

theorem told?_eq_none (h : profile.hasLowCardinality ratio = false) :
    setting.told? builtins ratio profile = none := by
  rw [← Option.map_eq_none_iff, stance_told?, if_neg (by simp [h])]

/-- All that the rule ever says is a hint at its role. -/
theorem hint_of_told? (h : setting.told? builtins ratio profile = some s) :
    s.role = setting.role ∧ ¬s.Definitive := by
  have hstance := setting.stance_told? builtins ratio profile
  rw [h, Option.map_some] at hstance
  split at hstance
  · have hsays : s.stance = (setting.role, .medium, true) := Option.some.inj hstance
    have hkind : s.complimentary = true := congrArg (fun stance => stance.2.2) hsays
    exact ⟨congrArg (fun stance => stance.1) hsays, by simp [Signal.Definitive, hkind]⟩
  · cases hstance

/-- What is said under a ratio is said, in other words, under a greater one. -/
theorem exists_told? (hle : low ≤ high) (h : setting.told? builtins low profile = some s) :
    ∃ t, setting.told? builtins high profile = some t := by
  have hlow := setting.stance_told? builtins low profile
  have hhigh := setting.stance_told? builtins high profile
  rw [h, Option.map_some] at hlow
  split at hlow
  · next hspeaks =>
    rw [if_pos ⟨hspeaks.1, ColumnProfile.hasLowCardinality_mono hle hspeaks.2⟩] at hhigh
    obtain ⟨t, ht, _⟩ := Option.map_eq_some_iff.mp hhigh
    exact ⟨t, ht⟩
  · cases hlow

theorem exists_role_mono (hle : low ≤ high) {before behind : List Signal}
    (h : ∃ s ∈ before ++ (setting.told? builtins low profile).toList ++ behind,
      s.role = setting.role) :
    ∃ s ∈ before ++ (setting.told? builtins high profile).toList ++ behind,
      s.role = setting.role := by
  obtain ⟨s, hs, hrole⟩ := h
  simp only [List.mem_append, Option.mem_toList] at hs ⊢
  rcases hs with (hs | hs) | hs
  · exact ⟨s, Or.inl (Or.inl hs), hrole⟩
  · obtain ⟨t, ht⟩ := exists_told? hle hs
    exact ⟨t, Or.inl (Or.inr ht), (hint_of_told? ht).1⟩
  · exact ⟨s, Or.inr hs, hrole⟩

/-- The same is said, up to words, under two ratios that the column does not lie between. -/
theorem sameStances_of_outside (h : profile.RatioOutside low high) (hle : low ≤ high)
    (before behind : List Signal) :
    Resolver.SameStances (before ++ (setting.told? builtins low profile).toList ++ behind)
      (before ++ (setting.told? builtins high profile).toList ++ behind) := by
  have hsame : (setting.told? builtins low profile).map Signal.stance =
      (setting.told? builtins high profile).map Signal.stance := by
    rw [stance_told?, stance_told?, h.hasLowCardinality_eq hle]
  intro stance
  simp only [List.map_append, ← Option.toList_map, hsame]

/-- What becomes of a column that comes to lie within a ratio. It gains at most one hint at the role
of the ratio. Where there is definitive evidence, the column is tied before and after, or resolved
to a role that refines what that evidence comes to by itself. -/
structure Touches (setting : RatioSetting) (old new : Decision) : Prop where
  gains : ∃ (before behind : List Signal) (gained : Option Signal),
    old.signals = before ++ behind ∧ new.signals = before ++ gained.toList ++ behind ∧
      ∀ s ∈ gained, s.role = setting.role ∧ ¬s.Definitive
  rests : (∃ s ∈ new.signals, s.Definitive) →
    old.resolution = .unresolved .tiedDefinitive ∧
        new.resolution = .unresolved .tiedDefinitive ∨
      ∃ base role, (Resolver.solve new.column
          (new.signals.filter fun s => s.Definitive)).resolution = .resolved base ∧
        new.resolution = .resolved role ∧ role.Refines base

/-- A hint that is gained touches the column in no other way. -/
theorem touches_of_gained (column : ColumnRef) (before behind : List Signal)
    {gained : Option Signal} (h : ∀ s ∈ gained, s.role = setting.role ∧ ¬s.Definitive) :
    setting.Touches (Resolver.solve column (before ++ behind))
      (Resolver.solve column (before ++ gained.toList ++ behind)) where
  gains := ⟨before, behind, gained, Resolver.signals_solve _ _, Resolver.signals_solve _ _, h⟩
  rests := by
    rw [Resolver.signals_solve, Resolver.column_solve]
    intro hdefinitive
    refine (Resolver.tied_or_refines_definitive column hdefinitive).imp_left fun htied => ?_
    refine ⟨?_, htied⟩
    have hnone : (gained.toList.filter fun s => s.Definitive) = [] := by
      simpa using fun s hs => (h s hs).2
    rw [Resolver.tied_iff_topTied, ← Resolver.topTied_filter_iff] at htied ⊢
    simpa [hnone] using htied

end RatioSetting

namespace Engine

variable {config : EngineConfig} {compile : Naming.Compiler} {engine : Engine}
  {warehouse : Warehouse}

theorem create_withRatio (config : EngineConfig) (h : config.ruleset.Usable compile)
    (setting : RatioSetting) (ratio : Float) (hratio : RulesetConfig.isRatio ratio = true) :
    ∃ engine, create (config.withRatio ratio setting) compile = .ok engine := by
  have husable : (config.withRatio ratio setting).ruleset.Usable compile := h.withRatio hratio
  obtain ⟨engine, hok, _⟩ := create_of_usable husable
  exact ⟨engine, hok⟩

/-- The engine decides the columns of the warehouse and no others. -/
theorem keys_infer (h : create config compile = .ok engine) :
    (engine.infer warehouse).decisions.keys = warehouse.refs := by
  obtain ⟨tuning, _, hrules, _⟩ := runner_of_create h
  rw [infer, Runner.keys_run, hrules, Ruleset.newcomers_builtins, List.append_nil]

/-- Under another ratio a column is decided on what the same rules say of it, tuned to that
ratio. -/
theorem decision?_withRatio {tuning : Tuning}
    (htuning : config.ruleset.tuning? compile = some tuning) {ratio : Float}
    {setting : RatioSetting} (h : create (config.withRatio ratio setting) compile = .ok engine)
    {profile : ColumnProfile}
    (hmem : profile ∈ warehouse.columns) :
    (engine.infer warehouse).decision? profile.ref = some (Resolver.solve profile.ref
      (Builtin.testimony (tuning.withRatio ratio setting) config.ruleset.enabled
        (warehouse.IsOnlyTime profile) profile)) := by
  obtain ⟨retuned, hretuned, hrules, hsolver⟩ := runner_of_create h
  rw [EngineConfig.withRatio, RulesetConfig.tuning?_withRatio, htuning] at hretuned
  rw [EngineConfig.withRatio, RulesetConfig.enabled_withRatio] at hrules
  obtain rfl := Option.some.inj hretuned
  rw [infer, Runner.decision?_builtins hrules hmem, hsolver]

/-- A greater ratio touches only the columns that lie between the two. Whatever compiles patterns,
and whatever an accepted configuration asks for, with a lower and with a greater ratio of one
setting, both engines decide the columns of any warehouse and no others. A column with a signal of
the setting's role under the lower ratio has one under the greater. If the ratio of the column is
absent, or does not exceed the lower, or exceeds the greater, the column has the same role and the
same confidence in both runs. Any other column gains at most one hint, which leaves a tie of
definitive evidence a tie, and otherwise has it deepened or as it is. -/
theorem greater_ratio_touches_between (compile : Naming.Compiler) (setting : RatioSetting)
    (config : EngineConfig) {low high : Float} (hle : low ≤ high) {first second : Engine}
    (hfirst : create (config.withRatio low setting) compile = .ok first)
    (hsecond : create (config.withRatio high setting) compile = .ok second)
    (warehouse : Warehouse) :
    (first.infer warehouse).decisions.keys = warehouse.columns.map (·.ref) ∧
    (second.infer warehouse).decisions.keys = warehouse.columns.map (·.ref) ∧
    ∀ profile ∈ warehouse.columns, ∃ old new,
      (first.infer warehouse).decision? profile.ref = some old ∧
      (second.infer warehouse).decision? profile.ref = some new ∧
      ((∃ s ∈ old.signals, s.role = setting.role) →
        ∃ s ∈ new.signals, s.role = setting.role) ∧
      (profile.RatioOutside low high →
        old.resolution = new.resolution ∧ old.confidence = new.confidence) ∧
      (¬profile.RatioOutside low high → setting.Touches old new) := by
  refine ⟨keys_infer hfirst, keys_infer hsecond, fun profile hmem => ?_⟩
  obtain ⟨_, hretuned, _, _⟩ := runner_of_create hfirst
  rw [EngineConfig.withRatio, RulesetConfig.tuning?_withRatio] at hretuned
  obtain ⟨tuning, htuning, _⟩ := Option.map_eq_some_iff.mp hretuned
  obtain ⟨before, behind, hheard⟩ := setting.testimony_withRatio tuning
    config.ruleset.nodup_enabled (warehouse.IsOnlyTime profile) profile
  refine ⟨_, _, decision?_withRatio htuning hfirst hmem, decision?_withRatio htuning hsecond hmem,
    ?_, ?_, ?_⟩
  · rw [Resolver.signals_solve, Resolver.signals_solve, hheard, hheard]
    exact RatioSetting.exists_role_mono hle
  · intro houtside
    rw [hheard, hheard]
    exact Resolver.resolution_same _ (RatioSetting.sameStances_of_outside houtside hle _ _)
  · intro hbetween
    have hsilent := ColumnProfile.not_hasLowCardinality_of_between hbetween
    rw [hheard, hheard, RatioSetting.told?_eq_none hsilent, Option.toList_none, List.append_nil]
    exact RatioSetting.touches_of_gained _ _ _ fun s hs => RatioSetting.hint_of_told? hs

def customerId : ColumnProfile where
  ref := ⟨"orders", "customer_id"⟩
  type := .integer
  rows := some 100
  distinct := some 30

def channel : ColumnProfile where
  ref := ⟨"orders", "channel"⟩
  type := .string
  rows := some 100
  distinct := some 5

def orderBook : Warehouse where
  tables := [((Table.named "orders").add customerId).add channel]
  consistent := consistent_of_firstFault? rfl

theorem greater_ratio_touches_between_order_book :
    (0.1 : Float) ≤ 0.4 ∧ ∃ first second,
      create (({} : EngineConfig).withRatio 0.1 .foreignIdentifier) = .ok first ∧
      create (({} : EngineConfig).withRatio 0.4 .foreignIdentifier) = .ok second ∧
      ¬customerId.RatioOutside 0.1 0.4 ∧
      (∃ old new, (first.infer orderBook).decision? customerId.ref = some old ∧
        (second.infer orderBook).decision? customerId.ref = some new ∧
        RatioSetting.foreignIdentifier.Touches old new) ∧
      channel.RatioOutside 0.1 0.4 ∧
      ∃ old new, (first.infer orderBook).decision? channel.ref = some old ∧
        (second.infer orderBook).decision? channel.ref = some new ∧
        old.resolution = new.resolution ∧ old.confidence = new.confidence := by
  have husual : ({} : RulesetConfig).Usable .reader :=
    { foreignIdentifierRatio := RulesetConfig.isRatio_iff.mp (by decide)
      categoricalRatio := RulesetConfig.isRatio_iff.mp (by decide)
      disabledRules := by decide
      primaryTimePattern := Option.isSome_of_eq_some Naming.NamePattern.reader_usualTime
      enabled := by decide }
  obtain ⟨first, hfirst⟩ := create_withRatio {} husual .foreignIdentifier 0.1 (by decide)
  obtain ⟨second, hsecond⟩ := create_withRatio {} husual .foreignIdentifier 0.4 (by decide)
  have hle : (0.1 : Float) ≤ 0.4 := by decide
  obtain ⟨_, _, hcolumns⟩ := greater_ratio_touches_between .reader .foreignIdentifier {} hle hfirst
    hsecond orderBook
  have hbetween : ¬customerId.RatioOutside 0.1 0.4 := by decide +kernel
  have houtside : channel.RatioOutside 0.1 0.4 := by decide +kernel
  obtain ⟨old, new, hold, hnew, _, _, htouches⟩ := hcolumns customerId (by decide +kernel)
  obtain ⟨old', new', hold', hnew', _, hsame, _⟩ := hcolumns channel (by decide +kernel)
  exact ⟨hle, first, second, hfirst, hsecond, hbetween, ⟨old, new, hold, hnew, htouches hbetween⟩,
    houtside, old', new', hold', hnew', hsame houtside⟩

end Engine

end ColumnRoles
