import ColumnRoles.Warehouse
import Mathlib.Data.List.Nodup

/-!
The columns of a warehouse. As its tables were found consistent, a column is known by its reference,
and by the name of its table it is known in which table it stands. What is said of one column by a
search through all of them, or through all tables, is therefore said by that column or that table
alone.
-/
namespace ColumnRoles

/-- In a list without repetition a search that only one member answers finds that answer. -/
theorem filterMap_eq_toList {α β : Type} {l : List α} {f : α → Option β} {a : α} (h : l.Nodup)
    (ha : a ∈ l) (hother : ∀ b ∈ l, b ≠ a → f b = none) : l.filterMap f = (f a).toList := by
  obtain ⟨before, behind, rfl⟩ := List.append_of_mem ha
  obtain ⟨_, hcons, hdisjoint⟩ := List.nodup_append.mp h
  have hbefore : before.filterMap f = [] := by
    refine List.filterMap_eq_nil_iff.mpr fun b hb => hother b (by simp [hb]) ?_
    exact hdisjoint b hb a (by simp)
  have hbehind : behind.filterMap f = [] := by
    refine List.filterMap_eq_nil_iff.mpr fun b hb => hother b (by simp [hb]) ?_
    rintro rfl
    exact (List.nodup_cons.mp hcons).1 hb
  rw [List.filterMap_append, hbefore, List.nil_append]
  cases hfa : f a with
  | none => rw [List.filterMap_cons_none hfa, hbehind, Option.toList_none]
  | some v => rw [List.filterMap_cons_some hfa, hbehind, Option.toList_some]

/-- A search by a key that no two members share finds the member that has it. -/
theorem find?_key_eq_some_iff {α κ : Type} [DecidableEq κ] {l : List α} {key : α → κ}
    (h : (l.map key).Nodup) {k : κ} {a : α} :
    l.find? (key · = k) = some a ↔ a ∈ l ∧ key a = k := by
  constructor
  · intro hfind
    exact ⟨List.mem_of_find?_eq_some hfind, by simpa using List.find?_some hfind⟩
  · rintro ⟨ha, hkey⟩
    have hsome : (l.find? (key · = k)).isSome := List.find?_isSome.mpr ⟨a, ha, by simpa using hkey⟩
    obtain ⟨b, hb⟩ := Option.isSome_iff_exists.mp hsome
    have hbkey : key b = k := by simpa using List.find?_some hb
    rw [hb, List.inj_on_of_nodup_map h (List.mem_of_find?_eq_some hb) ha (hbkey.trans hkey.symm)]

namespace Table

/-- The columns of a table that is in order go by its keys. -/
theorem map_ref_values {table : Table}
    (h : ∀ entry ∈ table.columns.entries, EntryConsistent table.name entry) :
    table.columns.values.map (·.ref) = table.columns.keys.map (ColumnRef.mk table.name) := by
  unfold OrderedMap.values OrderedMap.keys
  rw [List.map_map, List.map_map]
  exact List.map_congr_left fun entry hentry => (h entry hentry).1

theorem nodup_refs {table : Table}
    (h : ∀ entry ∈ table.columns.entries, EntryConsistent table.name entry) :
    (table.columns.values.map (·.ref)).Nodup := by
  rw [map_ref_values h]
  exact table.columns.nodup_keys.map fun _ _ heq => congrArg ColumnRef.column heq

end Table

namespace Warehouse

variable (warehouse : Warehouse)

def refs : List ColumnRef :=
  warehouse.columns.map (·.ref)

section Tables

variable {warehouse}

theorem entry_consistent {table : Table} (h : table ∈ warehouse.tables) :
    ∀ entry ∈ table.columns.entries, Table.EntryConsistent table.name entry :=
  warehouse.consistent.2 table h

theorem eq_of_name_eq {table other : Table} (h : table ∈ warehouse.tables)
    (hother : other ∈ warehouse.tables) (heq : table.name = other.name) : table = other :=
  List.inj_on_of_nodup_map warehouse.consistent.1 h hother heq

theorem mem_columns_iff {profile : ColumnProfile} :
    profile ∈ warehouse.columns ↔ ∃ table ∈ warehouse.tables, profile ∈ table.columns.values :=
  List.mem_flatMap

/-- The reference of a column names the table in which it stands. -/
theorem table_of_mem {table : Table} {profile : ColumnProfile} (h : table ∈ warehouse.tables)
    (hmem : profile ∈ table.columns.values) : profile.ref.table = table.name := by
  obtain ⟨entry, hentry, rfl⟩ := List.mem_map.mp hmem
  rw [(entry_consistent h entry hentry).1]

/-- The columns that name a table are those that stand in it. -/
theorem mem_values_iff {table : Table} (h : table ∈ warehouse.tables) {profile : ColumnProfile} :
    profile ∈ table.columns.values ↔
      profile ∈ warehouse.columns ∧ profile.ref.table = table.name := by
  constructor
  · intro hmem
    exact ⟨mem_columns_iff.mpr ⟨table, h, hmem⟩, table_of_mem h hmem⟩
  · rintro ⟨hmem, hname⟩
    obtain ⟨other, hother, hin⟩ := mem_columns_iff.mp hmem
    obtain rfl := eq_of_name_eq hother h ((table_of_mem hother hin).symm.trans hname)
    exact hin

end Tables

/-- No two columns go by the same reference. -/
theorem nodup_refs : warehouse.refs.Nodup := by
  unfold refs columns
  rw [List.map_flatMap, List.nodup_flatMap]
  refine ⟨fun table h => Table.nodup_refs (entry_consistent h), ?_⟩
  -- references of different tables differ in the name of the table
  have hnames : warehouse.tables.Pairwise fun t u => t.name ≠ u.name :=
    List.pairwise_map.mp warehouse.consistent.1
  refine hnames.imp_of_mem ?_
  intro t u ht hu htu ref hreft hrefu
  obtain ⟨p, hp, rfl⟩ := List.mem_map.mp hreft
  obtain ⟨q, hq, heq⟩ := List.mem_map.mp hrefu
  rw [← table_of_mem ht hp, ← table_of_mem hu hq, heq] at htu
  exact htu rfl

theorem nodup_columns : warehouse.columns.Nodup :=
  warehouse.nodup_refs.of_map _

theorem nodup_tables : warehouse.tables.Nodup :=
  warehouse.consistent.1.of_map _

variable {warehouse}

/-- A column is known by its reference. -/
theorem eq_of_ref_eq {profile other : ColumnProfile} (h : profile ∈ warehouse.columns)
    (hother : other ∈ warehouse.columns) (heq : profile.ref = other.ref) : profile = other :=
  List.inj_on_of_nodup_map warehouse.nodup_refs h hother heq

theorem column?_eq_some_iff {ref : ColumnRef} {profile : ColumnProfile} :
    warehouse.column? ref = some profile ↔ profile ∈ warehouse.columns ∧ profile.ref = ref :=
  find?_key_eq_some_iff warehouse.nodup_refs

theorem table?_eq_some_iff {name : String} {table : Table} :
    warehouse.table? name = some table ↔ table ∈ warehouse.tables ∧ table.name = name :=
  find?_key_eq_some_iff warehouse.consistent.1

/-- The column is the only one in its table that holds times. -/
def IsOnlyTime (warehouse : Warehouse) (profile : ColumnProfile) : Prop :=
  profile.type = .dateTime ∧ ∀ other ∈ warehouse.columns,
    other.ref.table = profile.ref.table → other.type = .dateTime → other = profile

instance (warehouse : Warehouse) (profile : ColumnProfile) :
    Decidable (warehouse.IsOnlyTime profile) :=
  inferInstanceAs (Decidable (profile.type = .dateTime ∧ ∀ other ∈ warehouse.columns,
    other.ref.table = profile.ref.table → other.type = .dateTime → other = profile))

/-- The columns of its table that hold times are the column alone. -/
theorem columnsOfType_eq_singleton_iff {table : Table} (h : table ∈ warehouse.tables)
    {profile : ColumnProfile} (hmem : profile ∈ table.columns.values) :
    table.columnsOfType .dateTime = [profile] ↔ warehouse.IsOnlyTime profile := by
  have hname := table_of_mem h hmem
  have hiff : ∀ q, q ∈ table.columnsOfType .dateTime ↔
      (q ∈ warehouse.columns ∧ q.ref.table = profile.ref.table) ∧ q.type = .dateTime := by
    intro q
    rw [Table.columnsOfType, List.mem_filter, mem_values_iff h, hname, decide_eq_true_eq]
  constructor
  · intro heq
    rw [heq] at hiff
    refine ⟨((hiff profile).mp (by simp)).2, ?_⟩
    intro q hq htable htype
    simpa using (hiff q).mpr ⟨⟨hq, htable⟩, htype⟩
  · rintro ⟨htype, honly⟩
    have hnodup : (table.columnsOfType .dateTime).Nodup :=
      ((Table.nodup_refs (entry_consistent h)).of_map _).filter _
    have hself : profile ∈ table.columnsOfType .dateTime :=
      (hiff profile).mpr ⟨(mem_values_iff h).mp hmem |>.imp_right fun _ => rfl, htype⟩
    refine List.perm_singleton.mp ((List.perm_ext_iff_of_nodup hnodup (by simp)).mpr ?_)
    intro q
    rw [List.mem_singleton]
    constructor
    · intro hq
      obtain ⟨⟨hcolumn, htable⟩, hqtype⟩ := (hiff q).mp hq
      exact honly q hcolumn htable hqtype
    · rintro rfl
      exact hself

end Warehouse

end ColumnRoles
