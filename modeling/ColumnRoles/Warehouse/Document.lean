import ColumnRoles.Json.Fields
import ColumnRoles.Report.Document
import ColumnRoles.Warehouse

/-!
Columns and tables as JSON values. The columns of a table are a record, in which a repeated key
keeps its first place and its last value.
-/
namespace ColumnRoles

namespace ColumnType

def ofJson? : Json → Option ColumnType :=
  Json.named? Json.isNull ofName?

end ColumnType

namespace ColumnProfile

def countMember (name : String) : Option UInt64 → List (String × Json)
  | some count => [(name, .ofNat count.toNat)]
  | none => []

def toJson (profile : ColumnProfile) : Json :=
  .ofMembers
    ([("column", profile.ref.toJson), ("type", .ofText profile.type.name)] ++
      countMember "row_count" profile.rows ++ countMember "distinct_row_count" profile.distinct)

def ofJson? (value : Json) : Option ColumnProfile := do
  match ← Json.slots? ["column", "type", "row_count", "distinct_row_count"] value with
  | [column, type, rows, distinct] =>
    some
      { ref := ← column.required ColumnRef.ofJson?
        type := ← type.required ColumnType.ofJson?
        rows := ← rows.orElse none (Json.nullable Json.count?)
        distinct := ← distinct.orElse none (Json.nullable Json.count?) }
  | _ => none

end ColumnProfile

namespace Table

def columnsOfJson? : Json → Option (OrderedMap String ColumnProfile)
  | .record members => do
    let entries ← members.mapM fun m => do some (← m.1, ← ColumnProfile.ofJson? m.2)
    some (.ofList entries)
  | _ => none

def ofJson? (value : Json) : Option Table := do
  match ← Json.slots? ["name", "columns"] value with
  | [name, columns] =>
    some
      { name := ← name.required Json.text?, columns := ← columns.required columnsOfJson? }
  | _ => none

end Table

end ColumnRoles
