import ColumnRoles.Proofs.Filing
import Mathlib.Algebra.Ring.Nat

/-!
The two views of a warehouse: its tables by name, and all of its columns by reference. They come
about as the tables are taken up one after the other. A table must have a new name, and each of its
columns is checked and then entered in the index under its own reference, where it would silently
take the place of another column of that reference. The invariant is that the tables taken up are
consistent, and that they and their columns stand in the two maps in order, none left out. Hence no
entry ever takes another's place, the first fault ends the loop, and the two views agree.
-/
namespace ColumnRoles

namespace ColumnProfile

def CountsAgree (profile : ColumnProfile) : Prop :=
  ∀ distinct rows, profile.distinct = some distinct → profile.rows = some rows → distinct ≤ rows

theorem excess?_eq_none_iff (profile : ColumnProfile) :
    profile.excess? = none ↔ profile.CountsAgree := by
  unfold excess? CountsAgree
  cases profile.distinct with
  | none => simp
  | some distinct =>
    cases profile.rows with
    | none => simp
    | some rows => simp

end ColumnProfile

/-- Names of tables are distinct, and every column stands in its table under its own name and has
counts that agree. -/
def Acceptable (tables : List Table) : Prop :=
  (tables.map Table.name).Nodup ∧
    ∀ table ∈ tables, ∀ entry ∈ table.columns.entries,
      entry.2.ref = ⟨table.name, entry.1⟩ ∧ entry.2.CountsAgree

theorem consistent_iff_acceptable (tables : List Table) : Consistent tables ↔ Acceptable tables := by
  simp only [Consistent, Acceptable, Table.EntryConsistent, ColumnProfile.excess?_eq_none_iff]

def StatisticsFault.Concerns (tables : List Table) : StatisticsFault → Prop
  | repeatedTable name => 2 ≤ (tables.map Table.name).count name
  | misfiledColumn ref table key =>
    ref ≠ ⟨table, key⟩ ∧ ∃ t ∈ tables, t.name = table ∧
      ∃ profile, (key, profile) ∈ t.columns.entries ∧ profile.ref = ref
  | excessDistinct ref distinct rows =>
    rows < distinct ∧ ∃ t ∈ tables, ∃ profile ∈ t.columns.values,
      profile.ref = ref ∧ profile.distinct = some distinct ∧ profile.rows = some rows
  | unnamedTable | unnamedColumn _ | repeatedColumn _ => False

theorem ColumnProfile.counts_of_excess? {profile : ColumnProfile} {distinct rows : UInt64}
    (h : profile.excess? = some (distinct, rows)) :
    rows < distinct ∧ profile.distinct = some distinct ∧ profile.rows = some rows := by
  unfold excess? at h
  split at h
  · next d r hd hr =>
    split at h
    · next hlt =>
      obtain ⟨rfl, rfl⟩ := Prod.mk.inj (Option.some.inj h)
      exact ⟨hlt, hd, hr⟩
    · cases h
  · cases h

theorem Table.concerns_of_entryFault? {tables : List Table} {table : Table}
    (htable : table ∈ tables) {entry : String × ColumnProfile}
    (hentry : entry ∈ table.columns.entries) {fault : StatisticsFault}
    (h : entryFault? table.name entry = some fault) : fault.Concerns tables := by
  unfold entryFault? at h
  split at h
  · obtain ⟨⟨distinct, rows⟩, hexcess, rfl⟩ := Option.map_eq_some_iff.mp h
    obtain ⟨hlt, hdistinct, hrows⟩ := ColumnProfile.counts_of_excess? hexcess
    exact ⟨hlt, table, htable, entry.2, List.mem_map_of_mem hentry, rfl, hdistinct, hrows⟩
  · next hne =>
    obtain rfl := Option.some.inj h
    exact ⟨hne, table, htable, rfl, entry.2, hentry, rfl⟩

theorem concerns_of_firstFault? {taken tables : List Table} {fault : StatisticsFault}
    (h : firstFault? (taken.map Table.name) tables = some fault) :
    fault.Concerns (taken ++ tables) := by
  -- on the tables still to come; `taken` are those passed already
  induction tables generalizing taken with
  | nil => cases h
  | cons table rest ih =>
    unfold firstFault? at h
    split at h
    · next hname =>
      obtain rfl := Option.some.inj h
      have hbefore := List.one_le_count_iff.mpr hname
      have hhere : 1 ≤ ((table :: rest).map Table.name).count table.name :=
        List.one_le_count_iff.mpr (by simp)
      have htwice : 2 ≤ ((taken ++ table :: rest).map Table.name).count table.name := by
        rw [List.map_append, List.count_append]
        omega
      exact htwice
    · split at h
      · next first hfirst =>
        obtain rfl := Option.some.inj h
        obtain ⟨entry, hentry, hfault⟩ := List.exists_of_findSome?_eq_some hfirst
        exact Table.concerns_of_entryFault? (by simp) hentry hfault
      · have hrest : fault.Concerns ((taken ++ [table]) ++ rest) := ih (by simpa using h)
        simpa using hrest

/-- The tables of a warehouse by name, and its columns by reference. -/
structure Registry where
  tables : OrderedMap String Table
  index : OrderedMap ColumnRef ColumnProfile

namespace Registry

def empty : Registry :=
  { tables := .empty, index := .empty }

def enter (table : String) (index : OrderedMap ColumnRef ColumnProfile)
    (entry : String × ColumnProfile) :
    Except StatisticsFault (OrderedMap ColumnRef ColumnProfile) :=
  match Table.entryFault? table entry with
  | some fault => .error fault
  | none => .ok (index.insert entry.2.ref entry.2)

def takeUp (registry : Registry) (table : Table) : Except StatisticsFault Registry :=
  if registry.tables.contains table.name then .error (.repeatedTable table.name)
  else
    (table.columns.entries.foldlM (enter table.name) registry.index).map fun index =>
      { tables := registry.tables.insert table.name table, index }

def ofTables (tables : List Table) : Except StatisticsFault Registry :=
  tables.foldlM takeUp empty

section Columns

variable {table : String} {entries : List (String × ColumnProfile)}
  {index : OrderedMap ColumnRef ColumnProfile}

theorem foldlM_enter_of_fault {fault : StatisticsFault}
    (h : entries.findSome? (Table.entryFault? table) = some fault) :
    entries.foldlM (enter table) index = .error fault := by
  induction entries generalizing index with
  | nil => cases h
  | cons entry rest ih =>
    rw [List.findSome?_cons] at h
    rw [List.foldlM_cons, enter]
    cases hentry : Table.entryFault? table entry with
    | some first =>
      rw [hentry] at h
      obtain rfl := Option.some.inj h
      rfl
    | none =>
      rw [hentry] at h
      exact ih h

/-- Columns under references that are not in the index yet are all added, in their order. -/
theorem foldlM_enter_of_consistent
    (h : ∀ entry ∈ entries, Table.EntryConsistent table entry)
    (hkeys : (entries.map Prod.fst).Nodup)
    (hfresh : ∀ entry ∈ entries, ⟨table, entry.1⟩ ∉ index.keys) :
    ∃ index', entries.foldlM (enter table) index = .ok index' ∧
      index'.entries = index.entries ++ entries.map fun entry => (entry.2.ref, entry.2) := by
  induction entries generalizing index with
  | nil => exact ⟨index, rfl, by simp⟩
  | cons entry rest ih =>
    rw [List.map_cons, List.nodup_cons] at hkeys
    have hfiled : entry.2.ref = ⟨table, entry.1⟩ := (h entry (by simp)).1
    have hinsert := OrderedMap.insert_entries_of_not_mem entry.2
      (hfiled ▸ hfresh entry (by simp))
    have hfresh' : ∀ other ∈ rest,
        ⟨table, other.1⟩ ∉ (index.insert entry.2.ref entry.2).keys := by
      intro other hother
      unfold OrderedMap.keys
      rw [hinsert, List.map_append, List.mem_append, not_or, List.map_singleton,
        List.mem_singleton, hfiled]
      refine ⟨hfresh other (List.mem_cons_of_mem _ hother), fun heq => ?_⟩
      have hkey : other.1 = entry.1 := congrArg ColumnRef.column heq
      exact hkeys.1 (hkey ▸ List.mem_map_of_mem hother)
    obtain ⟨index', hindex', hentries⟩ := ih
      (fun other hother => h other (List.mem_cons_of_mem _ hother)) hkeys.2 hfresh'
    refine ⟨index', ?_, ?_⟩
    · rw [List.foldlM_cons, enter, (Table.entryFault?_eq_none_iff table entry).mpr
        (h entry (by simp))]
      exact hindex'
    · rw [hentries, hinsert, List.map_cons, List.append_assoc, List.singleton_append]

end Columns

/-- The tables taken up are consistent, and they and their columns are registered in order. -/
structure Holds (taken : List Table) (registry : Registry) : Prop where
  consistent : Consistent taken
  tables_eq : registry.tables.entries = taken.map fun table => (table.name, table)
  index_eq : registry.index.entries =
    (taken.flatMap (·.columns.values)).map fun profile => (profile.ref, profile)

namespace Holds

variable {taken : List Table} {registry : Registry} {table : Table}

theorem empty_holds : Holds [] empty where
  consistent := by simp [Consistent]
  tables_eq := rfl
  index_eq := rfl

/-- The two maps are determined by the tables. -/
theorem unique {other : Registry} (h : Holds taken registry) (hother : Holds taken other) :
    registry = other := by
  cases registry
  cases other
  congr 1
  · exact OrderedMap.ext (h.tables_eq.trans hother.tables_eq.symm)
  · exact OrderedMap.ext (h.index_eq.trans hother.index_eq.symm)

theorem keys_tables (h : Holds taken registry) :
    registry.tables.keys = taken.map Table.name := by
  rw [OrderedMap.keys, h.tables_eq, List.map_map]
  rfl

/-- Every reference in the index names a table that was taken up. -/
theorem table_mem_of_mem_index (h : Holds taken registry) {ref : ColumnRef}
    (href : ref ∈ registry.index.keys) : ref.table ∈ taken.map Table.name := by
  rw [OrderedMap.keys, h.index_eq, List.map_map] at href
  obtain ⟨profile, hprofile, rfl⟩ := List.mem_map.mp href
  obtain ⟨table, htable, hmem⟩ := List.mem_flatMap.mp hprofile
  obtain ⟨entry, hentry, rfl⟩ := List.mem_map.mp hmem
  have hfiled := (h.consistent.2 table htable entry hentry).1
  rw [Function.comp_apply, hfiled]
  exact List.mem_map_of_mem htable

theorem contains_iff (h : Holds taken registry) :
    registry.tables.contains table.name = true ↔ table.name ∈ taken.map Table.name := by
  rw [OrderedMap.contains, decide_eq_true_eq, h.keys_tables]

theorem takeUp_of_repeated (h : Holds taken registry)
    (hname : table.name ∈ taken.map Table.name) :
    registry.takeUp table = .error (.repeatedTable table.name) := by
  rw [takeUp, if_pos (h.contains_iff.mpr hname)]

theorem takeUp_of_fault (h : Holds taken registry) (hname : table.name ∉ taken.map Table.name)
    {fault : StatisticsFault}
    (hfault : table.columns.entries.findSome? (Table.entryFault? table.name) = some fault) :
    registry.takeUp table = .error fault := by
  rw [takeUp, if_neg (mt h.contains_iff.mp hname), foldlM_enter_of_fault hfault]
  rfl

/-- Taking up a table of a new name whose columns are in order adds it, and adds its columns. -/
theorem takeUp_of_consistent (h : Holds taken registry)
    (hname : table.name ∉ taken.map Table.name)
    (hentries : ∀ entry ∈ table.columns.entries, Table.EntryConsistent table.name entry) :
    ∃ registry', registry.takeUp table = .ok registry' ∧ Holds (taken ++ [table]) registry' := by
  have hfresh : ∀ entry ∈ table.columns.entries,
      ⟨table.name, entry.1⟩ ∉ registry.index.keys :=
    fun entry _ hmem => hname (h.table_mem_of_mem_index hmem)
  obtain ⟨index, hindex, hindexEntries⟩ :=
    foldlM_enter_of_consistent hentries table.columns.nodup_keys hfresh
  refine ⟨{ tables := registry.tables.insert table.name table, index }, ?_, ?_⟩
  · rw [takeUp, if_neg (mt h.contains_iff.mp hname), hindex]
    rfl
  · refine ⟨⟨?_, ?_⟩, ?_, ?_⟩
    · rw [List.map_append, List.map_singleton]
      exact List.nodup_append.mpr ⟨h.consistent.1, List.nodup_singleton _, fun name hmem other hother
        heq => hname (List.mem_singleton.mp hother ▸ heq ▸ hmem)⟩
    · intro other hother
      rcases List.mem_append.mp hother with hother | hother
      · exact h.consistent.2 other hother
      · obtain rfl := List.mem_singleton.mp hother
        exact hentries
    · have hnew : table.name ∉ registry.tables.keys := h.keys_tables ▸ hname
      rw [OrderedMap.insert_entries_of_not_mem table hnew, h.tables_eq, List.map_append]
      rfl
    · rw [hindexEntries, h.index_eq, List.flatMap_append, List.map_append, List.flatMap_singleton,
        OrderedMap.values, List.map_map]
      rfl

/-- Tables are taken up until the first fault, and all of them if there is none. -/
theorem foldlM_takeUp (h : Holds taken registry) (tables : List Table) :
    match firstFault? (taken.map Table.name) tables with
    | some fault => tables.foldlM takeUp registry = .error fault
    | none => ∃ registry', tables.foldlM takeUp registry = .ok registry' ∧
        Holds (taken ++ tables) registry' := by
  induction tables generalizing taken registry with
  | nil => exact ⟨registry, rfl, by simpa using h⟩
  | cons table rest ih =>
    rw [firstFault?, List.foldlM_cons]
    by_cases hname : table.name ∈ taken.map Table.name
    · rw [if_pos hname, h.takeUp_of_repeated hname]
      rfl
    · rw [if_neg hname]
      cases hfault : table.columns.entries.findSome? (Table.entryFault? table.name) with
      | some fault =>
        rw [h.takeUp_of_fault hname hfault]
        rfl
      | none =>
        have hentries : ∀ entry ∈ table.columns.entries,
            Table.EntryConsistent table.name entry := fun entry hentry =>
          (Table.entryFault?_eq_none_iff _ _).mp (List.findSome?_eq_none_iff.mp hfault _ hentry)
        obtain ⟨registry', htaken, hholds⟩ := h.takeUp_of_consistent hname hentries
        have hrest := ih hholds
        rw [List.map_append, List.map_singleton, List.append_assoc, List.singleton_append] at hrest
        rw [htaken]
        exact hrest

end Holds

end Registry

namespace Warehouse

variable (warehouse : Warehouse)

def registry : Registry where
  tables := ⟨warehouse.tables.map fun table => (table.name, table), by
    simpa [List.map_map, Function.comp_def] using warehouse.consistent.1⟩
  index := ⟨warehouse.columns.map fun profile => (profile.ref, profile), by
    rw [List.map_map]
    exact warehouse.nodup_refs⟩

theorem registry_holds : Registry.Holds warehouse.tables warehouse.registry :=
  ⟨warehouse.consistent, rfl, rfl⟩

/-- A search through all columns is a look into the index. -/
theorem get?_index (ref : ColumnRef) :
    warehouse.registry.index.get? ref = warehouse.column? ref := by
  refine Option.ext fun profile => ?_
  rw [OrderedMap.get?_eq_some_iff, column?_eq_some_iff]
  simp only [registry, List.mem_map, Prod.mk.injEq, exists_eq_right_right]

theorem get?_tables (name : String) :
    warehouse.registry.tables.get? name = warehouse.table? name := by
  refine Option.ext fun table => ?_
  rw [OrderedMap.get?_eq_some_iff, table?_eq_some_iff]
  simp only [registry, List.mem_map, Prod.mk.injEq, exists_eq_right_right]

variable {warehouse}

theorem mem_entries_iff {table : Table} (h : table ∈ warehouse.tables) {key : String}
    {profile : ColumnProfile} :
    (key, profile) ∈ table.columns.entries ↔
      profile ∈ table.columns.values ∧ profile.ref = ⟨table.name, key⟩ := by
  constructor
  · intro hmem
    exact ⟨List.mem_map_of_mem hmem, (entry_consistent h _ hmem).1⟩
  · rintro ⟨hmem, href⟩
    obtain ⟨entry, hentry, rfl⟩ := List.mem_map.mp hmem
    have hfiled := (entry_consistent h entry hentry).1
    have hkey : entry.1 = key := congrArg ColumnRef.column (hfiled.symm.trans href)
    exact hkey ▸ hentry

/-- A column is found among all columns exactly when it is found in the table that it names. -/
theorem column?_iff_of_table? {ref : ColumnRef} {profile : ColumnProfile} :
    warehouse.column? ref = some profile ↔
      ∃ table, warehouse.table? ref.table = some table ∧ table.get? ref.column = some profile := by
  rw [column?_eq_some_iff, mem_columns_iff]
  simp only [table?_eq_some_iff, Table.get?, OrderedMap.get?_eq_some_iff]
  constructor
  · rintro ⟨⟨table, htable, hmem⟩, rfl⟩
    have hname := table_of_mem htable hmem
    refine ⟨table, ⟨htable, hname.symm⟩, (mem_entries_iff htable).mpr ⟨hmem, ?_⟩⟩
    rw [← hname]
  · rintro ⟨table, ⟨htable, hname⟩, hmem⟩
    obtain ⟨hvalue, href⟩ := (mem_entries_iff htable).mp hmem
    exact ⟨⟨table, htable, hvalue⟩, by rw [href, hname]⟩

/-- To take up tables one after the other is to build their warehouse, with the same fault if there
is one. -/
theorem ofTables_eq_build (tables : List Table) :
    Registry.ofTables tables = (build tables).map registry := by
  have hrun := Registry.Holds.empty_holds.foldlM_takeUp tables
  rw [List.map_nil] at hrun
  cases hfault : firstFault? [] tables with
  | some fault =>
    rw [hfault] at hrun
    rw [build_eq_error hfault]
    exact hrun
  | none =>
    rw [hfault] at hrun
    obtain ⟨registry', hregistry, hholds⟩ := hrun
    have hconsistent := (firstFault?_nil_eq_none_iff tables).mp hfault
    have hviews : registry' = registry { tables, consistent := hconsistent } :=
      hholds.unique (registry_holds { tables, consistent := hconsistent })
    rw [build_eq_ok hconsistent, Registry.ofTables, hregistry, hviews]
    rfl

theorem columnCount_eq_sum (warehouse : Warehouse) :
    warehouse.columnCount = (warehouse.tables.map Table.columnCount).sum := by
  rw [columnCount, columns, List.length_flatMap]
  refine congrArg List.sum (List.map_congr_left fun table _ => ?_)
  rw [OrderedMap.values, List.length_map]
  rfl

/-- A warehouse is built from exactly the acceptable tables, and its two views agree. Of acceptable
tables it has these in their order, and as its columns those of the tables, one table after the
other, no reference twice; a column is found by its reference exactly when the table that it names
has it under its name; and there are as many columns as the tables have together. The same comes out
when the tables are taken up one after the other, every column being entered in an index. Of other
tables none is built, in either way, and the fault that is told is there. -/
theorem build_iff_acceptable (tables : List Table) :
    (Acceptable tables ∧ ∃ warehouse, build tables = .ok warehouse ∧
      Registry.ofTables tables = .ok warehouse.registry ∧
      warehouse.tables = tables ∧
      warehouse.columns = tables.flatMap (·.columns.values) ∧
      (warehouse.columns.map (·.ref)).Nodup ∧
      (∀ ref profile, warehouse.column? ref = some profile ↔
        ∃ table, warehouse.table? ref.table = some table ∧ table.get? ref.column = some profile) ∧
      (∀ ref, warehouse.registry.index.get? ref = warehouse.column? ref) ∧
      (∀ name, warehouse.registry.tables.get? name = warehouse.table? name) ∧
      warehouse.columnCount = (tables.map Table.columnCount).sum) ∨
    (¬Acceptable tables ∧ ∃ fault, build tables = .error fault ∧
      Registry.ofTables tables = .error fault ∧ fault.Concerns tables) := by
  rw [ofTables_eq_build]
  cases hfault : firstFault? [] tables with
  | none =>
    have hconsistent := (firstFault?_nil_eq_none_iff tables).mp hfault
    have hbuild := build_eq_ok hconsistent
    refine Or.inl ⟨(consistent_iff_acceptable tables).mp hconsistent, _, hbuild, ?_, rfl, rfl,
      nodup_refs _, fun _ _ => column?_iff_of_table?, get?_index _, get?_tables _,
      columnCount_eq_sum _⟩
    rw [hbuild]
    rfl
  | some fault =>
    have hnot : ¬Acceptable tables := by
      rw [← consistent_iff_acceptable, ← firstFault?_nil_eq_none_iff, hfault]
      nofun
    have hbuild := build_eq_error hfault
    have hconcerns : fault.Concerns ([] ++ tables) := concerns_of_firstFault? hfault
    refine Or.inr ⟨hnot, fault, hbuild, ?_, hconcerns⟩
    rw [hbuild]
    rfl

end Warehouse

end ColumnRoles
