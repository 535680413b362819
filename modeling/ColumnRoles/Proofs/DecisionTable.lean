import ColumnRoles.Proofs.Judgement
import ColumnRoles.Proofs.Names
import ColumnRoles.Proofs.Ratio
import ColumnRoles.Proofs.Rearrangement

/-!
The decisions of the usual rules, as a table. What these rules say of a column depends on its
declared type and on a handful of facts about it, its findings. Not all findings go together: a
primary identifier is an identifier, no identifier has the usual name of a time column, only a
column that holds times can be the only one of its table that does, what counts as few distinct
values by the lower threshold counts as few by the higher, and values that never repeat are not
few. As neither words nor order decide anything, findings determine the role of a column and the
confidence in it, and there are finitely many of them.
-/
namespace ColumnRoles

/-- What the usual rules find out about a column. -/
structure Findings where
  type : ColumnType
  /-- It is the only column of its table that holds times. -/
  onlyTime : Bool
  identifier : Bool
  primary : Bool
  /-- It has one of the usual names of a primary time column. -/
  timeName : Bool
  allDistinct : Bool
  /-- Few distinct values, as in a foreign identifier. -/
  few : Bool
  /-- Fewer distinct values, as in a category. -/
  fewer : Bool
  type_of_onlyTime : onlyTime = true → type = .dateTime
  identifier_of_primary : primary = true → identifier = true
  timeName_of_identifier : identifier = true → timeName = false
  few_of_fewer : fewer = true → few = true
  few_of_allDistinct : allDistinct = true → few = false

def Builtin.stance : Builtin → Role × Confidence × Bool
  | anyIdentifierByName => (.idUnknown, .forSure, false)
  | primaryIdentifierByName => (.idPrimary, .forSure, false)
  | uniqueIdentifierByDistinctCount => (.idUnique, .forSure, true)
  | foreignIdentifierByCardinalityRatio => (.idForeign, .medium, true)
  | timeDimensionByTimeType => (.dimensionTime, .forSure, false)
  | primaryTimeDimensionByName => (.dimensionPrimaryTime, .forSure, false)
  | primaryTimeDimensionIfOnlyTime => (.dimensionPrimaryTime, .forSure, false)
  | categoricalDimensionByBooleanType => (.dimensionCategorical, .forSure, false)
  | categoricalDimensionByStringType => (.dimensionCategorical, .medium, true)
  | categoricalDimensionByIntegerType => (.dimensionCategorical, .medium, true)
  | categoricalDimensionByCardinalityRatio => (.dimensionCategorical, .medium, true)
  | measureByRealType => (.measureUnknown, .forSure, false)
  | measureByIntegerType => (.measureUnknown, .medium, true)

namespace Findings

def prompt (f : Findings) : Builtin → Bool
  | .anyIdentifierByName => f.identifier
  | .primaryIdentifierByName => f.primary
  | .uniqueIdentifierByDistinctCount => f.allDistinct
  | .foreignIdentifierByCardinalityRatio => f.few
  | .timeDimensionByTimeType => f.type = .dateTime
  | .primaryTimeDimensionByName => f.timeName
  | .primaryTimeDimensionIfOnlyTime => f.onlyTime
  | .categoricalDimensionByBooleanType => f.type = .boolean
  | .categoricalDimensionByStringType => f.type = .string
  | .categoricalDimensionByIntegerType => f.type = .integer
  | .categoricalDimensionByCardinalityRatio => f.fewer
  | .measureByRealType => f.type = .float
  | .measureByIntegerType => f.type = .integer

/-- All that the usual rules say of a column with these findings. -/
def stances (f : Findings) : List (Role × Confidence × Bool) :=
  Builtin.all.filterMap fun b => if f.prompt b then some b.stance else none

def held (role : Role) (confidence : Confidence) : Resolution × Option Confidence :=
  (.resolved role, some confidence)

def undecided (cause : Unresolved) : Resolution × Option Confidence :=
  (.unresolved cause, none)

/-- The role of a column with these findings, and the confidence in it. -/
def verdict (f : Findings) : Resolution × Option Confidence :=
  if f.identifier ∧ f.type ∈ [.dateTime, .boolean, .float] ∨
      f.timeName ∧ f.type ∈ [.boolean, .float] then
    undecided .tiedDefinitive
  else if f.identifier then
    if f.primary then held .idPrimary .forSure
    else if f.allDistinct then held .idUnique .forSure
    else if f.few then held .idForeign .medium
    else held .idUnknown .forSure
  else if f.timeName then held .dimensionPrimaryTime .forSure
  else
    match f.type with
    | .dateTime =>
      if f.onlyTime then held .dimensionPrimaryTime .forSure else held .dimensionTime .forSure
    | .boolean => held .dimensionCategorical .forSure
    | .float => held .measureUnknown .forSure
    | .integer => undecided .conflictingComplimentary
    | .string =>
      if f.allDistinct ∨ f.few then undecided .conflictingComplimentary
      else held .dimensionCategorical .medium
    | .unknown =>
      if f.fewer then undecided .conflictingComplimentary
      else if f.allDistinct then held .idUnique .forSure
      else if f.few then held .idForeign .medium
      else undecided .noSignals

def wordless (column : ColumnRef) (stance : Role × Confidence × Bool) : Signal :=
  { column, role := stance.1, confidence := stance.2.1, complimentary := stance.2.2, reason := "" }

theorem stances_wordless (f : Findings) (column : ColumnRef) :
    (f.stances.map (wordless column)).map Signal.stance = f.stances := by
  rw [List.map_map]
  exact List.map_id _

/-- What the rules say comes to what the table has, for each type and all facts that go together.
This leaves finitely many resolutions to be carried out. -/
theorem verdict_of_wordless (f : Findings) :
    let decision := Resolver.solve ⟨"", ""⟩ (f.stances.map (wordless ⟨"", ""⟩))
    (decision.resolution, decision.confidence) = f.verdict := by
  obtain ⟨type, onlyTime, identifier, primary, timeName, allDistinct, few, fewer, _, _, _, _, _⟩ :=
    f
  revert onlyTime identifier primary timeName allDistinct few fewer
  cases type <;> decide +kernel

end Findings

namespace Resolver

/-- The name of a column does not decide its role. -/
theorem verdict_column (column other : ColumnRef) (signals : List Signal) :
    (solve column signals).resolution = (solve other signals).resolution ∧
      (solve column signals).confidence = (solve other signals).confidence := by
  unfold solve
  split
  · simp only [solveDefinitive]
    cases mostSpecific (Chain.walk (signals.filter fun s => s.Definitive)).accepted with
    | none => exact ⟨rfl, rfl⟩
    | some base => exact ⟨rfl, rfl⟩
  · unfold solveComplimentary
    split
    · cases mostConfident signals with
      | none => exact ⟨rfl, rfl⟩
      | some winner => exact ⟨rfl, rfl⟩
    · exact ⟨rfl, rfl⟩

/-- Whoever says what the usual rules say of a column is answered by the table. -/
theorem verdict_of_stances (f : Findings) (column : ColumnRef) {signals : List Signal}
    (h : signals.map Signal.stance = f.stances) :
    ((solve column signals).resolution, (solve column signals).confidence) = f.verdict := by
  have hsame : SameStances signals (f.stances.map (Findings.wordless ⟨"", ""⟩)) := by
    intro stance
    rw [h, f.stances_wordless]
  obtain ⟨hresolution, hconfidence⟩ := resolution_same column hsame
  obtain ⟨hresolution', hconfidence'⟩ := verdict_column column ⟨"", ""⟩
    (f.stances.map (Findings.wordless ⟨"", ""⟩))
  rw [← f.verdict_of_wordless, hresolution, hconfidence, hresolution', hconfidence']

end Resolver

def Warehouse.findings (warehouse : Warehouse) (profile : ColumnProfile) : Findings where
  type := profile.type
  onlyTime := warehouse.IsOnlyTime profile
  identifier := Naming.isIdentifier profile.ref
  primary := Naming.isPrimaryIdentifier profile.ref
  timeName := Tuning.usual.primaryTime.accepts profile.ref
  allDistinct := profile.allValuesDistinct
  few := profile.hasLowCardinality Tuning.usual.foreignIdentifierRatio
  fewer := profile.hasLowCardinality Tuning.usual.categoricalRatio
  type_of_onlyTime h := (of_decide_eq_true h).1
  identifier_of_primary := Naming.isIdentifier_of_isPrimaryIdentifier
  timeName_of_identifier := Naming.not_usualTime_of_isIdentifier
  few_of_fewer := ColumnProfile.hasLowCardinality_mono (by decide)
  few_of_allDistinct := ColumnProfile.not_hasLowCardinality (by decide)

theorem ColumnMatcher.stance_signal? {matcher : ColumnMatcher} {profile : ColumnProfile}
    {passed : Bool} (h : matcher.test profile = .ok passed) :
    (matcher.signal? profile).map Signal.stance =
      if passed then some (matcher.role, matcher.confidence, matcher.complimentary) else none := by
  rw [signal?, h]
  cases passed <;> rfl

namespace Builtin

variable (warehouse : Warehouse) (profile : ColumnProfile)

theorem test_usual {b : Builtin} {m : ColumnMatcher} (h : (b.rule .usual).matcher? = some m) :
    m.test profile = .ok ((warehouse.findings profile).prompt b) := by
  cases b with
  | primaryTimeDimensionIfOnlyTime => cases h
  | primaryTimeDimensionByName =>
    obtain rfl := Option.some.inj h
    -- both sides are brought to the same pattern first, which is not to be unfolded
    dsimp only [Findings.prompt, Warehouse.findings]
  | _ =>
    obtain rfl := Option.some.inj h
    rfl

theorem stance_usual {b : Builtin} {m : ColumnMatcher} (h : (b.rule .usual).matcher? = some m) :
    (m.role, m.confidence, m.complimentary) = b.stance := by
  cases b with
  | primaryTimeDimensionIfOnlyTime => cases h
  | _ => obtain rfl := Option.some.inj h; rfl

/-- A usual rule speaks up when the findings prompt it, and says what it always says. -/
theorem stance_signalOn? (b : Builtin) :
    ((b.rule .usual).signalOn? (warehouse.IsOnlyTime profile) profile).map Signal.stance =
      if (warehouse.findings profile).prompt b then some b.stance else none := by
  cases hm : (b.rule .usual).matcher? with
  | some m =>
    rw [Rule.signalOn?_of_matcher hm, ColumnMatcher.stance_signal? (test_usual warehouse profile hm),
      stance_usual hm]
  | none =>
    cases b with
    | primaryTimeDimensionIfOnlyTime =>
      by_cases honly : warehouse.IsOnlyTime profile <;>
        simp [rule, Rule.signalOn?, Rule.onlyTimeSignal, Findings.prompt, Warehouse.findings,
          stance, Signal.stance, honly]
    | _ => cases hm

theorem stances_signalOn? :
    (all.filterMap fun b => (b.rule .usual).signalOn? (warehouse.IsOnlyTime profile) profile).map
      Signal.stance = (warehouse.findings profile).stances := by
  rw [List.map_filterMap]
  exact List.filterMap_congr fun b _ => b.stance_signalOn? warehouse profile

end Builtin

namespace Runner

/-- The decisions of the usual rules. They make a runner, whatever its configuration, and in every
run none of them fails, exactly the columns of the warehouse are decided, in their order, and each
has the role and the confidence that the table has for its findings. -/
theorem usual_decisions (config : RunnerConfig) :
    ∃ runner, Runner.create Ruleset.usual config = .ok runner ∧ ∀ warehouse,
      (runner.run warehouse).failures = [] ∧
      (runner.run warehouse).decisions.keys = warehouse.columns.map (·.ref) ∧
      ∀ profile ∈ warehouse.columns, ∃ decision,
        (runner.run warehouse).decision? profile.ref = some decision ∧
          (decision.resolution, decision.confidence) = (warehouse.findings profile).verdict := by
  have hne : Ruleset.usual ≠ [] := by decide
  refine ⟨{ rules := Ruleset.usual, config, rules_ne_nil := hne }, dif_neg hne, ?_⟩
  intro warehouse
  refine ⟨?_, ?_, ?_⟩
  · rw [failures_run]
    exact Ruleset.failures_builtins .usual Builtin.all warehouse
  · rw [keys_run]
    have hnew := Ruleset.newcomers_builtins .usual Builtin.all warehouse
    exact (congrArg (warehouse.refs ++ ·) hnew).trans (List.append_nil _)
  · intro profile hmem
    refine ⟨_, decision?_run (mem_keys_of_mem_columns hmem), ?_⟩
    apply Resolver.verdict_of_stances
    rw [← Builtin.stances_signalOn? warehouse profile]
    exact congrArg (List.map Signal.stance)
      (Ruleset.filter_emitted_builtins .usual Builtin.all hmem)

end Runner

end ColumnRoles
