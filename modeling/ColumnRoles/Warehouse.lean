import ColumnRoles.OrderedMap
import ColumnRoles.Error

/-!
Warehouses: the tables of one snapshot, each with its columns in the order of the profiler. A
warehouse is only ever built by checking tables, so all that is known of one is known of every one.
Main statement: the check passes exactly the tables that are consistent.
-/
namespace ColumnRoles

/-- The columns of one table, each under a key. -/
structure Table where
  name : String
  columns : OrderedMap String ColumnProfile
deriving DecidableEq, Repr

namespace Table

def named (name : String) : Table :=
  { name, columns := .empty }

def add (table : Table) (profile : ColumnProfile) : Table :=
  { table with columns := table.columns.insert profile.ref.column profile }

def file (table : Table) (key : String) (profile : ColumnProfile) : Table :=
  { table with columns := table.columns.insert key profile }

def get? (table : Table) (key : String) : Option ColumnProfile :=
  table.columns.get? key

def columnsOfType (table : Table) (type : ColumnType) : List ColumnProfile :=
  table.columns.values.filter (·.type = type)

def columnCount (table : Table) : Nat :=
  table.columns.size

/-- The entry of a column in its table is in order: it is filed under its own name and its counts
do not contradict each other. -/
def EntryConsistent (table : String) (entry : String × ColumnProfile) : Prop :=
  entry.2.ref = ⟨table, entry.1⟩ ∧ entry.2.excess? = none

instance (table : String) (entry : String × ColumnProfile) :
    Decidable (EntryConsistent table entry) :=
  inferInstanceAs (Decidable (entry.2.ref = ⟨table, entry.1⟩ ∧ entry.2.excess? = none))

def entryFault? (table : String) (entry : String × ColumnProfile) : Option StatisticsFault :=
  if entry.2.ref = ⟨table, entry.1⟩ then
    entry.2.excess?.map fun (distinct, rows) => .excessDistinct entry.2.ref distinct rows
  else some (.misfiledColumn entry.2.ref table entry.1)

theorem entryFault?_eq_none_iff (table : String) (entry : String × ColumnProfile) :
    entryFault? table entry = none ↔ EntryConsistent table entry := by
  unfold entryFault? EntryConsistent
  split <;> simp_all

end Table

/-- Every column is in order, and no two tables share a name. -/
def Consistent (tables : List Table) : Prop :=
  (tables.map Table.name).Nodup ∧
    ∀ table ∈ tables, ∀ entry ∈ table.columns.entries, Table.EntryConsistent table.name entry

/-- The first thing wrong with the tables, if anything, when tables called `seen` come before. -/
def firstFault? (seen : List String) : List Table → Option StatisticsFault
  | [] => none
  | table :: rest =>
    if table.name ∈ seen then some (.repeatedTable table.name)
    else
      match table.columns.entries.findSome? (Table.entryFault? table.name) with
      | some fault => some fault
      | none => firstFault? (seen ++ [table.name]) rest

theorem firstFault?_eq_none_iff (seen : List String) (tables : List Table) (h : seen.Nodup) :
    firstFault? seen tables = none ↔
      (seen ++ tables.map Table.name).Nodup ∧
        ∀ table ∈ tables, ∀ entry ∈ table.columns.entries,
          Table.EntryConsistent table.name entry := by
  induction tables generalizing seen with
  | nil => simp [firstFault?, h]
  | cons table rest ih =>
    unfold firstFault?
    by_cases hm : table.name ∈ seen
    · rw [if_pos hm]
      constructor
      · simp
      · rintro ⟨hd, -⟩
        exact absurd rfl ((List.nodup_append.1 hd).2.2 _ hm table.name (by simp))
    · rw [if_neg hm]
      have hseen : (seen ++ [table.name]).Nodup :=
        List.nodup_append.2 ⟨h, by simp, fun a ha b hb hab =>
          hm (List.mem_singleton.1 hb ▸ hab ▸ ha)⟩
      have hstep : (seen ++ (table :: rest).map Table.name) =
          (seen ++ [table.name]) ++ rest.map Table.name := by simp
      cases hf : table.columns.entries.findSome? (Table.entryFault? table.name) with
      | some fault =>
        obtain ⟨entry, hentry, hfault⟩ := List.exists_of_findSome?_eq_some hf
        refine ⟨nofun, fun hall => ?_⟩
        have := (Table.entryFault?_eq_none_iff _ _).2 (hall.2 table (by simp) entry hentry)
        rw [this] at hfault
        cases hfault
      | none =>
        have hhere : ∀ entry ∈ table.columns.entries, Table.EntryConsistent table.name entry :=
          fun entry he =>
            (Table.entryFault?_eq_none_iff _ _).1 (List.findSome?_eq_none_iff.1 hf _ he)
        simp only
        rw [ih _ hseen, hstep]
        simp only [List.mem_cons, forall_eq_or_imp]
        exact ⟨fun ⟨a, b⟩ => ⟨a, hhere, b⟩, fun ⟨a, _, b⟩ => ⟨a, b⟩⟩

theorem firstFault?_nil_eq_none_iff (tables : List Table) :
    firstFault? [] tables = none ↔ Consistent tables := by
  simpa [Consistent] using firstFault?_eq_none_iff [] tables List.nodup_nil

theorem consistent_of_firstFault? {tables : List Table} (h : firstFault? [] tables = none) :
    Consistent tables :=
  (firstFault?_nil_eq_none_iff tables).mp h

/-- Tables that were found consistent. -/
structure Warehouse where
  tables : List Table
  consistent : Consistent tables
deriving DecidableEq

namespace Warehouse

def empty : Warehouse :=
  { tables := [], consistent := by simp [Consistent] }

def build (tables : List Table) : Except StatisticsFault Warehouse :=
  match h : firstFault? [] tables with
  | none => .ok { tables, consistent := consistent_of_firstFault? h }
  | some fault => .error fault

theorem build_eq_ok {tables : List Table} (h : Consistent tables) :
    build tables = .ok { tables, consistent := h } := by
  unfold build
  split
  · rfl
  · next fault hfault =>
    rw [(firstFault?_nil_eq_none_iff tables).mpr h] at hfault
    cases hfault

theorem build_eq_error {tables : List Table} {fault : StatisticsFault}
    (h : firstFault? [] tables = some fault) : build tables = .error fault := by
  unfold build
  split
  · next hnone =>
    rw [hnone] at h
    cases h
  · next first hfirst =>
    rw [hfirst] at h
    exact congrArg Except.error (Option.some.inj h)

def columns (warehouse : Warehouse) : List ColumnProfile :=
  warehouse.tables.flatMap (·.columns.values)

def table? (warehouse : Warehouse) (name : String) : Option Table :=
  warehouse.tables.find? (·.name = name)

def column? (warehouse : Warehouse) (ref : ColumnRef) : Option ColumnProfile :=
  warehouse.columns.find? (·.ref = ref)

def tableCount (warehouse : Warehouse) : Nat :=
  warehouse.tables.length

def columnCount (warehouse : Warehouse) : Nat :=
  warehouse.columns.length

def isEmpty (warehouse : Warehouse) : Bool :=
  warehouse.columns.isEmpty

end Warehouse

end ColumnRoles
