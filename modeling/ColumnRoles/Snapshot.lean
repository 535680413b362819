import ColumnRoles.Warehouse

/-!
Snapshots as people write them down, before they are checked: declared types still by name, tables
and columns in the order of the file. They come either as whole tables or row by row, one row for
each column.
-/
namespace ColumnRoles.Snapshot

/-- What a snapshot says about one column. -/
structure ColumnEntry where
  name : String
  declared : String
  rows : Option UInt64
  distinct : Option UInt64
deriving DecidableEq, Repr

structure TableEntry where
  name : String
  columns : List ColumnEntry
deriving DecidableEq, Repr

structure Row where
  table : String
  column : ColumnEntry
deriving DecidableEq, Repr

def newTable (name : String) : Except StatisticsFault Table :=
  if Text.allBlank name then .error .unnamedTable else .ok (.named name)

def insertColumn (table : Table) (entry : ColumnEntry) : Except StatisticsFault Table :=
  let ref : ColumnRef := ⟨table.name, entry.name⟩
  if Text.allBlank entry.name then .error (.unnamedColumn ref)
  else if table.columns.contains entry.name then .error (.repeatedColumn ref)
  else
    .ok (table.add
      { ref, type := .ofDeclared entry.declared, rows := entry.rows, distinct := entry.distinct })

def tableOf (entry : TableEntry) : Except StatisticsFault Table := do
  entry.columns.foldlM insertColumn (← newTable entry.name)

def ofTables (entries : List TableEntry) : Except StatisticsFault Warehouse := do
  Warehouse.build (← entries.mapM tableOf)

abbrev Draft := OrderedMap String Table

/-- Add a row to the table it belongs to, which is new if no row mentioned it before. -/
def insertRow (draft : Draft) (row : Row) : Except StatisticsFault Draft := do
  let table ←
    match draft.get? row.table with
    | some table => .ok table
    | none => newTable row.table
  let table ← insertColumn table row.column
  .ok (draft.insert row.table table)

def ofRows (rows : List Row) : Except StatisticsFault Warehouse := do
  let draft ← rows.foldlM insertRow OrderedMap.empty
  Warehouse.build draft.values

end ColumnRoles.Snapshot
