import ColumnRoles.Proofs.Columns
import ColumnRoles.Proofs.Isolation

/-!
What the built-in rules say of a single column. All but one of them test each column by itself, and
that one looks for the only time column of a table. So each says at most one thing of a column, and
that depends on nothing but the column and whether it is the only time column of its table. None of
them ever fails, and none speaks of a column outside the warehouse.
-/
namespace ColumnRoles

/-- A built-in rule tests single columns, and its test never breaks off, or it is the rule for only
time columns. -/
theorem Builtin.rule_cases (tuning : Tuning) (b : Builtin) :
    (∃ m, (b.rule tuning).matcher? = some m ∧ ∀ profile, m.crash? profile = none) ∨
      b.rule tuning = .onlyTimeColumn := by
  cases b with
  | primaryTimeDimensionIfOnlyTime => exact Or.inr rfl
  | _ => exact Or.inl ⟨_, rfl, fun _ => rfl⟩

namespace ColumnMatcher

theorem column_signal? {matcher : ColumnMatcher} {profile : ColumnProfile} {signal : Signal}
    (h : matcher.signal? profile = some signal) : signal.column = profile.ref := by
  unfold signal? at h
  split at h
  · obtain rfl := Option.some.inj h
    rfl
  · cases h

variable {warehouse : Warehouse} {profile : ColumnProfile}

/-- Of one column a matcher says what its test of that column makes it say. -/
theorem filter_signals (matcher : ColumnMatcher) (h : profile ∈ warehouse.columns) :
    (matcher.evaluate warehouse).signals.filter (·.column = profile.ref) =
      (matcher.signal? profile).toList := by
  have hother : ∀ other ∈ warehouse.columns, other ≠ profile →
      (matcher.signal? other).filter (·.column = profile.ref) = none := by
    intro other hmem hne
    refine Option.filter_eq_none_iff.mpr fun signal hsignal => ?_
    rw [column_signal? hsignal, decide_eq_true_eq]
    exact fun href => hne (Warehouse.eq_of_ref_eq hmem h href)
  have hself : (matcher.signal? profile).filter (·.column = profile.ref) =
      matcher.signal? profile := by
    cases hsignal : matcher.signal? profile with
    | none => rfl
    | some signal => simp [column_signal? hsignal]
  rw [evaluate, List.filter_filterMap, filterMap_eq_toList warehouse.nodup_columns h hother, hself]

end ColumnMatcher

namespace Rule

def onlyTimeSignal (column : ColumnRef) : Signal :=
  { column, role := .dimensionPrimaryTime, confidence := .forSure, complimentary := false,
    reason := "The column is the only time column in its table" }

theorem onlyTimeSignal?_eq_some_iff {table : Table} {signal : Signal} :
    onlyTimeSignal? table = some signal ↔
      ∃ only, table.columnsOfType .dateTime = [only] ∧ signal = onlyTimeSignal only.ref := by
  unfold onlyTimeSignal?
  split
  · next only honly => simp [honly, onlyTimeSignal, eq_comm]
  · next hnone =>
    refine ⟨nofun, ?_⟩
    rintro ⟨only, honly, -⟩
    exact absurd honly (hnone only)

/-- What a rule that is not custom says of a column, given whether it is the only time column of
its table. -/
def signalOn? (rule : Rule) (only : Bool) (profile : ColumnProfile) : Option Signal :=
  match rule with
  | matcher m => m.signal? profile
  | lowCardinality r => r.matcher.signal? profile
  | onlyTimeColumn => if only then some (onlyTimeSignal profile.ref) else none
  | custom _ => none

theorem signalOn?_of_matcher {rule : Rule} {m : ColumnMatcher} (h : rule.matcher? = some m)
    (only : Bool) (profile : ColumnProfile) : rule.signalOn? only profile = m.signal? profile := by
  rcases cases_of_matcher? h with rfl | ⟨r, rfl, rfl⟩ <;> rfl

section OnlyTime

variable {warehouse : Warehouse} {table : Table} {profile : ColumnProfile} {signal : Signal}

/-- The signal about the only time column of a table names a column of that table. -/
theorem exists_of_onlyTimeSignal? (h : onlyTimeSignal? table = some signal) :
    ∃ only ∈ table.columns.values, signal.column = only.ref := by
  obtain ⟨only, honly, rfl⟩ := onlyTimeSignal?_eq_some_iff.mp h
  have hmem : only ∈ table.columnsOfType .dateTime := by simp [honly]
  exact ⟨only, List.mem_of_mem_filter hmem, rfl⟩

/-- In the table of the column, the rule speaks of the column only if it is the only time column. -/
theorem filter_onlyTimeSignal? (ht : table ∈ warehouse.tables)
    (hmem : profile ∈ table.columns.values) :
    (onlyTimeSignal? table).filter (·.column = profile.ref) =
      onlyTimeColumn.signalOn? (warehouse.IsOnlyTime profile) profile := by
  unfold signalOn?
  by_cases honly : warehouse.IsOnlyTime profile
  · have hsingle := (Warehouse.columnsOfType_eq_singleton_iff ht hmem).mpr honly
    rw [onlyTimeSignal?_eq_some_iff.mpr ⟨profile, hsingle, rfl⟩]
    simp [honly, onlyTimeSignal]
  · have hnone : (onlyTimeSignal? table).filter (·.column = profile.ref) = none := by
      refine Option.filter_eq_none_iff.mpr fun signal hsignal => ?_
      obtain ⟨only, hsingle, rfl⟩ := onlyTimeSignal?_eq_some_iff.mp hsignal
      rw [decide_eq_true_eq]
      intro href
      have hin : only ∈ table.columnsOfType .dateTime := by simp [hsingle]
      obtain rfl := Warehouse.eq_of_ref_eq
        (Warehouse.mem_columns_iff.mpr ⟨table, ht, List.mem_of_mem_filter hin⟩)
        (Warehouse.mem_columns_iff.mpr ⟨table, ht, hmem⟩) href
      exact honly ((Warehouse.columnsOfType_eq_singleton_iff ht hmem).mp hsingle)
    rw [hnone]
    simp [honly]

theorem filter_onlyTimeSignals (h : profile ∈ warehouse.columns) :
    (onlyTimeSignals warehouse).filter (·.column = profile.ref) =
      (onlyTimeColumn.signalOn? (warehouse.IsOnlyTime profile) profile).toList := by
  obtain ⟨table, ht, hmem⟩ := Warehouse.mem_columns_iff.mp h
  have hother : ∀ other ∈ warehouse.tables, other ≠ table →
      (onlyTimeSignal? other).filter (·.column = profile.ref) = none := by
    intro other hu hne
    refine Option.filter_eq_none_iff.mpr fun signal hsignal => ?_
    obtain ⟨only, hin, hcolumn⟩ := exists_of_onlyTimeSignal? hsignal
    rw [hcolumn, decide_eq_true_eq]
    intro href
    -- both tables are the one that the reference names
    refine hne (Warehouse.eq_of_name_eq hu ht ?_)
    rw [← Warehouse.table_of_mem hu hin, href, Warehouse.table_of_mem ht hmem]
  rw [onlyTimeSignals, List.filter_filterMap,
    filterMap_eq_toList warehouse.nodup_tables ht hother, filter_onlyTimeSignal? ht hmem]

end OnlyTime

end Rule

namespace Builtin

variable (tuning : Tuning) (b : Builtin) {warehouse : Warehouse} {profile : ColumnProfile}

/-- Of one column a built-in rule says at most one thing. -/
theorem filter_emitted (h : profile ∈ warehouse.columns) :
    ((b.rule tuning).emitted warehouse).filter (·.column = profile.ref) =
      ((b.rule tuning).signalOn? (warehouse.IsOnlyTime profile) profile).toList := by
  rcases b.rule_cases tuning with ⟨m, hm, _⟩ | honly
  · rw [Rule.emitted_of_matcher hm, m.filter_signals h, Rule.signalOn?_of_matcher hm]
  · rw [honly]
    exact Rule.filter_onlyTimeSignals h

theorem mem_refs_of_emitted {signal : Signal} (h : signal ∈ (b.rule tuning).emitted warehouse) :
    signal.column ∈ warehouse.refs := by
  rcases b.rule_cases tuning with ⟨m, hm, _⟩ | honly
  · rw [Rule.emitted_of_matcher hm] at h
    obtain ⟨profile, hmem, hsignal⟩ := List.mem_filterMap.mp h
    rw [ColumnMatcher.column_signal? hsignal]
    exact List.mem_map_of_mem hmem
  · rw [honly] at h
    obtain ⟨table, ht, hsignal⟩ := List.mem_filterMap.mp h
    obtain ⟨only, hin, hcolumn⟩ := Rule.exists_of_onlyTimeSignal? hsignal
    rw [hcolumn]
    exact List.mem_map_of_mem (Warehouse.mem_columns_iff.mpr ⟨table, ht, hin⟩)

theorem failures_outcome (warehouse : Warehouse) :
    ((b.rule tuning).outcome warehouse).failures = [] := by
  rcases b.rule_cases tuning with ⟨m, hm, hcalm⟩ | honly
  · have hcrashes : m.crashes warehouse = [] := by
      refine List.filterMap_eq_nil_iff.mpr fun profile _ => ?_
      rw [hcalm profile, Option.map_none]
    rw [Rule.failures_of_matcher hm, hcrashes, List.map_nil]
  · rw [honly]
    rfl

end Builtin

section Rules

variable (tuning : Tuning) (builtins : List Builtin) (warehouse : Warehouse)

theorem Ruleset.failures_builtins :
    Ruleset.failures (builtins.map (Builtin.rule tuning)) warehouse = [] := by
  refine List.flatMap_eq_nil_iff.mpr fun rule hrule => ?_
  obtain ⟨b, _, rfl⟩ := List.mem_map.mp hrule
  exact b.failures_outcome tuning warehouse

theorem Ruleset.newcomers_builtins : Evidence.newcomers warehouse.refs
    (Ruleset.emitted (builtins.map (Builtin.rule tuning)) warehouse) = [] := by
  refine List.eq_nil_iff_forall_not_mem.mpr fun c hc => ?_
  obtain ⟨⟨signal, hsignal, rfl⟩, hnew⟩ := Evidence.mem_newcomers.mp hc
  obtain ⟨rule, hrule, hemitted⟩ := Ruleset.mem_emitted.mp hsignal
  obtain ⟨b, _, rfl⟩ := List.mem_map.mp hrule
  exact hnew (b.mem_refs_of_emitted tuning hemitted)

variable {warehouse}

/-- Of one column the built-in rules say what each of them says of it. -/
theorem Ruleset.filter_emitted_builtins {profile : ColumnProfile}
    (h : profile ∈ warehouse.columns) :
    (Ruleset.emitted (builtins.map (Builtin.rule tuning)) warehouse).filter
        (·.column = profile.ref) =
      builtins.filterMap fun b =>
        (b.rule tuning).signalOn? (warehouse.IsOnlyTime profile) profile := by
  rw [Ruleset.emitted, List.flatMap_map, List.filter_flatMap, List.filterMap_eq_flatMap_toList]
  exact congrArg (builtins.flatMap ·) (funext fun b => b.filter_emitted tuning h)

end Rules

end ColumnRoles
