import ColumnRoles.Json.Document
import ColumnRoles.Json.Fields
import ColumnRoles.Snapshot

/-!
Snapshots read from JSON documents: an object with the tables, each with its columns.
-/
namespace ColumnRoles.Snapshot

def ColumnEntry.ofJson? (value : Json) : Option ColumnEntry := do
  match ← Json.slots? ["name", "type", "row_count", "distinct_row_count"] value with
  | [name, declared, rows, distinct] =>
    some
      { name := ← name.required Json.text?
        declared := ← declared.orElse "" Json.text?
        rows := ← rows.orElse none (Json.nullable Json.count?)
        distinct := ← distinct.orElse none (Json.nullable Json.count?) }
  | _ => none

def TableEntry.ofJson? (value : Json) : Option TableEntry := do
  match ← Json.slots? ["name", "columns"] value with
  | [name, columns] =>
    some
      { name := ← name.required Json.text?
        columns := ← columns.orElse [] (Json.list? ColumnEntry.ofJson?) }
  | _ => none

def tablesOfJson? (value : Json) : Option (List TableEntry) := do
  match ← Json.slots? ["tables"] value with
  | [tables] => tables.required (Json.list? TableEntry.ofJson?)
  | _ => none

def ofDocument (bytes : ByteArray) : Except Error Warehouse :=
  match (Json.ofBytes? bytes).bind tablesOfJson? with
  | some tables => (ofTables tables).mapError .statistics
  | none => .error .badDocument

end ColumnRoles.Snapshot
