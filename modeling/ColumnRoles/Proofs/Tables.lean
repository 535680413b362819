import ColumnRoles.Proofs.Registry
import ColumnRoles.Proofs.Traversal
import ColumnRoles.Proofs.Trimming
import ColumnRoles.Snapshot

/-!
Which tables of a snapshot are taken up, and what is made of them. A table is refused when its name
is blank, or a column's is, or two of its columns share a name; otherwise all of its columns stand
in it in their order. So a warehouse is made exactly of tables of which none is refused, and every
warehouse without blank names is made of the tables that describe it.
-/
namespace ColumnRoles

theorem Warehouse.build_eq_ok_iff {tables : List Table} {warehouse : Warehouse} :
    build tables = .ok warehouse ↔ tables = warehouse.tables := by
  constructor
  · intro h
    unfold build at h
    split at h
    · cases h
      rfl
    · cases h
  · rintro rfl
    exact build_eq_ok warehouse.consistent

namespace Snapshot

def ColumnEntry.profile (entry : ColumnEntry) (table : String) : ColumnProfile where
  ref := ⟨table, entry.name⟩
  type := .ofDeclared entry.declared
  rows := entry.rows
  distinct := entry.distinct

theorem insertColumn_eq_ok_iff {table table' : Table} {entry : ColumnEntry} :
    insertColumn table entry = .ok table' ↔
      Text.allBlank entry.name = false ∧ entry.name ∉ table.columns.keys ∧
        table' = table.add (entry.profile table.name) := by
  unfold insertColumn
  by_cases hblank : Text.allBlank entry.name = true
  · simp [hblank]
  · by_cases hkey : entry.name ∈ table.columns.keys
    · simp [hblank, hkey, OrderedMap.contains]
    · simp only [hblank, OrderedMap.contains, hkey, decide_false, not_false_eq_true, true_and,
        if_false, Bool.false_eq_true, Except.ok.injEq]
      exact eq_comm

/-- No name is blank, and no two columns share a name. -/
structure TableEntry.Sound (entry : TableEntry) : Prop where
  named : Text.allBlank entry.name = false
  columns_named : ∀ column ∈ entry.columns, Text.allBlank column.name = false
  nodup_names : (entry.columns.map (·.name)).Nodup

/-- The table has the entry's name and just its columns, in their order. -/
structure TableEntry.Makes (entry : TableEntry) (table : Table) : Prop where
  name_eq : table.name = entry.name
  entries_eq : table.columns.entries =
    entry.columns.map fun column => (column.name, column.profile entry.name)

section Columns

variable {table table' : Table} {column : ColumnEntry} {columns : List ColumnEntry}

theorem add_profile_entries (h : column.name ∉ table.columns.keys) :
    (table.add (column.profile table.name)).columns.entries =
      table.columns.entries ++ [(column.name, column.profile table.name)] :=
  OrderedMap.insert_entries_of_not_mem _ h

theorem add_profile_keys (h : column.name ∉ table.columns.keys) :
    (table.add (column.profile table.name)).columns.keys =
      table.columns.keys ++ [column.name] := by
  rw [OrderedMap.keys, add_profile_entries h, List.map_append]
  rfl

/-- Columns are added to a table exactly when each has a name that nothing before it has. -/
theorem foldlM_insertColumn_eq_ok_iff :
    columns.foldlM insertColumn table = .ok table' ↔
      (∀ column ∈ columns, Text.allBlank column.name = false) ∧
        (table.columns.keys ++ columns.map (·.name)).Nodup ∧ table'.name = table.name ∧
        table'.columns.entries = table.columns.entries ++
          columns.map fun column => (column.name, column.profile table.name) := by
  -- on the columns still to come; their names must differ from those already in the table
  induction columns generalizing table with
  | nil =>
    have hsame : table'.name = table.name ∧ table'.columns.entries = table.columns.entries ↔
        table = table' := by
      constructor
      · rintro ⟨hname, hentries⟩
        cases table
        cases table'
        exact Table.mk.injEq .. |>.mpr ⟨hname.symm, OrderedMap.ext hentries.symm⟩
      · rintro rfl
        exact ⟨rfl, rfl⟩
    have hkeys : table.columns.keys.Nodup := table.columns.nodup_keys
    simp only [List.foldlM_nil, List.map_nil, List.append_nil, List.not_mem_nil, false_implies,
      implies_true, true_and, hkeys, hsame]
    exact Except.ok.injEq .. |>.to_iff
  | cons column rest ih =>
    rw [List.foldlM_cons, bind_eq_ok_iff]
    constructor
    · rintro ⟨next, hnext, hrest⟩
      obtain ⟨hnamed, hnew, rfl⟩ := insertColumn_eq_ok_iff.mp hnext
      obtain ⟨hothers, hnodup, hname, hentries⟩ := ih.mp hrest
      refine ⟨?_, ?_, hname, ?_⟩
      · exact List.forall_mem_cons.mpr ⟨hnamed, hothers⟩
      · rw [add_profile_keys hnew, List.append_assoc] at hnodup
        exact hnodup
      · rw [hentries, add_profile_entries hnew, List.append_assoc]
        rfl
    · rintro ⟨hnamed, hnodup, hname, hentries⟩
      obtain ⟨hfirst, hothers⟩ := List.forall_mem_cons.mp hnamed
      have hnew : column.name ∉ table.columns.keys := by
        intro hmem
        exact (List.nodup_append.mp hnodup).2.2 _ hmem column.name (by simp) rfl
      refine ⟨_, insertColumn_eq_ok_iff.mpr ⟨hfirst, hnew, rfl⟩, ih.mpr ⟨hothers, ?_, hname, ?_⟩⟩
      · rw [add_profile_keys hnew, List.append_assoc]
        exact hnodup
      · rw [hentries, add_profile_entries hnew, List.append_assoc]
        rfl

end Columns

theorem tableOf_eq_ok_iff {entry : TableEntry} {table : Table} :
    tableOf entry = .ok table ↔ entry.Sound ∧ entry.Makes table := by
  rw [tableOf, bind_eq_ok_iff]
  constructor
  · rintro ⟨start, hstart, hcolumns⟩
    unfold newTable at hstart
    split at hstart
    · cases hstart
    · next hnamed =>
      cases hstart
      obtain ⟨hblank, hnodup, hname, hentries⟩ := foldlM_insertColumn_eq_ok_iff.mp hcolumns
      exact ⟨⟨by simpa using hnamed, hblank, hnodup⟩, hname, hentries⟩
  · rintro ⟨hsound, hmakes⟩
    have hstart : newTable entry.name = .ok (.named entry.name) :=
      if_neg (by simp [hsound.named])
    refine ⟨_, hstart, foldlM_insertColumn_eq_ok_iff.mpr ⟨hsound.columns_named, ?_, ?_, ?_⟩⟩
    · exact hsound.nodup_names
    · exact hmakes.name_eq
    · exact hmakes.entries_eq

/-- A warehouse is made of entries exactly when each of them is sound and makes one of its tables.
-/
theorem ofTables_eq_ok_iff {entries : List TableEntry} {warehouse : Warehouse} :
    ofTables entries = .ok warehouse ↔
      (∀ entry ∈ entries, entry.Sound) ∧
        List.Forall₂ TableEntry.Makes entries warehouse.tables := by
  rw [ofTables, bind_eq_ok_iff]
  simp only [Warehouse.build_eq_ok_iff, exists_eq_right, mapM_eq_ok_iff, tableOf_eq_ok_iff]
  exact List.forall₂_and_left ..

section Describing

variable (declared : ColumnProfile → String)

def ColumnEntry.describing (profile : ColumnProfile) : ColumnEntry where
  name := profile.ref.column
  declared := declared profile
  rows := profile.rows
  distinct := profile.distinct

def TableEntry.describing (table : Table) : TableEntry where
  name := table.name
  columns := table.columns.values.map (.describing declared)

variable {declared} {table : Table}

theorem profile_describing (hdeclared : ∀ profile, ColumnType.ofDeclared (declared profile) =
    profile.type) {entry : String × ColumnProfile}
    (h : Table.EntryConsistent table.name entry) :
    (ColumnEntry.describing declared entry.2).profile table.name = entry.2 := by
  have hcolumn : entry.2.ref.column = entry.1 := congrArg ColumnRef.column h.1
  have href : (⟨table.name, entry.2.ref.column⟩ : ColumnRef) = entry.2.ref := by
    rw [hcolumn, h.1]
  unfold ColumnEntry.describing ColumnEntry.profile
  rw [href, hdeclared]

variable (declared) in
theorem names_describing (h : ∀ entry ∈ table.columns.entries,
    Table.EntryConsistent table.name entry) :
    (TableEntry.describing declared table).columns.map (·.name) = table.columns.keys := by
  have hnames : (TableEntry.describing declared table).columns.map (·.name) =
      (table.columns.values.map (·.ref)).map ColumnRef.column := by
    rw [TableEntry.describing, List.map_map, List.map_map]
    rfl
  rw [hnames, Table.map_ref_values h, List.map_map]
  exact List.map_id' _

/-- A table that is in order is made of its own entry. -/
theorem makes_describing (hdeclared : ∀ profile, ColumnType.ofDeclared (declared profile) =
    profile.type) (h : ∀ entry ∈ table.columns.entries, Table.EntryConsistent table.name entry) :
    (TableEntry.describing declared table).Makes table where
  name_eq := rfl
  entries_eq := by
    have hentry : ∀ entry ∈ table.columns.entries,
        ((ColumnEntry.describing declared entry.2).name,
          (ColumnEntry.describing declared entry.2).profile table.name) = entry := by
      intro entry hentry
      have hcolumn : entry.2.ref.column = entry.1 := congrArg ColumnRef.column (h entry hentry).1
      rw [profile_describing hdeclared (h entry hentry)]
      exact Prod.ext hcolumn rfl
    rw [TableEntry.describing, OrderedMap.values, List.map_map, List.map_map]
    exact (List.map_congr_left hentry).trans (List.map_id' _) |>.symm

end Describing

end Snapshot

/-- How declared types are named: each family by a name of its own, and what belongs to no family by
any name that is not recognized. -/
structure TypeNames where
  unknown : ColumnRef → String
  unrecognized : ∀ ref, ColumnType.ofDeclared (unknown ref) = .unknown

namespace TypeNames

def declared (names : TypeNames) (profile : ColumnProfile) : String :=
  match profile.type with
  | .integer => "integer"
  | .float => "float"
  | .string => "string"
  | .boolean => "boolean"
  | .dateTime => "datetime"
  | .unknown => names.unknown profile.ref

/-- A type is recognized by its name. -/
theorem ofDeclared_declared (names : TypeNames) (profile : ColumnProfile) :
    ColumnType.ofDeclared (names.declared profile) = profile.type := by
  have hnames : ColumnType.ofDeclared "integer" = .integer ∧
      ColumnType.ofDeclared "float" = .float ∧ ColumnType.ofDeclared "string" = .string ∧
      ColumnType.ofDeclared "boolean" = .boolean ∧
      ColumnType.ofDeclared "datetime" = .dateTime := by
    decide +kernel
  obtain ⟨hinteger, hfloat, hstring, hboolean, hdateTime⟩ := hnames
  unfold declared
  cases profile.type with
  | integer => exact hinteger
  | float => exact hfloat
  | string => exact hstring
  | boolean => exact hboolean
  | dateTime => exact hdateTime
  | unknown => exact names.unrecognized profile.ref

end TypeNames

namespace Warehouse

/-- No table and no column has a blank name. -/
def Titled (warehouse : Warehouse) : Prop :=
  ∀ table ∈ warehouse.tables, Text.trim table.name ≠ "" ∧
    ∀ key ∈ table.columns.keys, Text.trim key ≠ ""

/-- No table and no column has an empty name or a name with blanks around it. -/
def Trimmed (warehouse : Warehouse) : Prop :=
  ∀ table ∈ warehouse.tables, (table.name ≠ "" ∧ Text.trim table.name = table.name) ∧
    ∀ key ∈ table.columns.keys, key ≠ "" ∧ Text.trim key = key

theorem Trimmed.titled {warehouse : Warehouse} (h : warehouse.Trimmed) : warehouse.Titled := by
  have hname : ∀ name : String, name ≠ "" ∧ Text.trim name = name → Text.trim name ≠ "" := by
    rintro name ⟨hne, htrim⟩
    rwa [htrim]
  intro table htable
  obtain ⟨htitle, hkeys⟩ := h table htable
  exact ⟨hname _ htitle, fun key hkey => hname _ (hkeys key hkey)⟩

theorem Trimmed.of_mem_columns {warehouse : Warehouse} (h : warehouse.Trimmed)
    {profile : ColumnProfile} (hprofile : profile ∈ warehouse.columns) :
    Text.trim profile.ref.table = profile.ref.table ∧
      Text.trim profile.ref.column = profile.ref.column := by
  obtain ⟨table, htable, hvalue⟩ := List.mem_flatMap.mp hprofile
  obtain ⟨entry, hentry, rfl⟩ := List.mem_map.mp hvalue
  have href := (entry_consistent htable entry hentry).1
  obtain ⟨⟨-, htitle⟩, hkeys⟩ := h table htable
  rw [href]
  exact ⟨htitle, (hkeys entry.1 (List.mem_map_of_mem hentry)).2⟩

/-- A warehouse without blank names is made of the entries of its tables. -/
theorem Titled.ofTables_describing {warehouse : Warehouse} (h : warehouse.Titled)
    {declared : ColumnProfile → String}
    (hdeclared : ∀ profile, ColumnType.ofDeclared (declared profile) = profile.type) :
    Snapshot.ofTables (warehouse.tables.map (.describing declared)) = .ok warehouse := by
  rw [Snapshot.ofTables_eq_ok_iff]
  constructor
  · intro entry hentry
    obtain ⟨table, htable, rfl⟩ := List.mem_map.mp hentry
    obtain ⟨htitle, hkeys⟩ := h table htable
    have hnames := Snapshot.names_describing declared (entry_consistent htable)
    refine ⟨Text.allBlank_eq_false_iff.mpr htitle, ?_, ?_⟩
    · intro column hcolumn
      refine Text.allBlank_eq_false_iff.mpr (hkeys column.name ?_)
      rw [← hnames]
      exact List.mem_map_of_mem hcolumn
    · rw [hnames]
      exact table.columns.nodup_keys
  · rw [List.forall₂_map_left_iff, List.forall₂_same]
    intro table htable
    exact Snapshot.makes_describing hdeclared (entry_consistent htable)

end Warehouse

end ColumnRoles
