import ColumnRoles.Proofs.Interleaving
import ColumnRoles.Proofs.Members
import ColumnRoles.Proofs.Reading
import ColumnRoles.Proofs.Tables

/-!
Warehouses as documents: an object with the tables in their order, each with its columns in theirs.
The text of the document is read as the value that was printed, the value is taken apart into the
entries of the tables, field by field, and the entries make the tables. Tables need not have
columns, and names are kept as they are, with the blanks around them; only names of nothing but
blanks are refused.
-/
namespace ColumnRoles.Snapshot

open Json (Slot slots? ofFields)

/-- How a document is worded where its form leaves a choice. -/
structure Wording where
  types : TypeNames
  /-- An absent count is written as null, and not left out; the choice is free for either count of
  every column. -/
  writesNull : ColumnRef → String → Bool

namespace Wording

variable (wording : Wording)

def count (ref : ColumnRef) (name : String) : Option UInt64 → Option Json
  | some count => some (.ofNat count.toNat)
  | none => if wording.writesNull ref name then some .null else none

def column (profile : ColumnProfile) : Json :=
  ofFields
    [("name", some (.ofText profile.ref.column)),
      ("type", some (.ofText (wording.types.declared profile))),
      ("row_count", wording.count profile.ref "row_count" profile.rows),
      ("distinct_row_count", wording.count profile.ref "distinct_row_count" profile.distinct)]

def table (table : Table) : Json :=
  ofFields
    [("name", some (.ofText table.name)),
      ("columns", some (.list (table.columns.values.map wording.column)))]

/-- The document of a warehouse. -/
def document (warehouse : Warehouse) : Json :=
  ofFields [("tables", some (.list (warehouse.tables.map wording.table)))]

def text (warehouse : Warehouse) : String :=
  Json.compact (wording.document warehouse)

end Wording

section Printing

variable (wording : Wording)

theorem plain_count {ref : ColumnRef} {name : String} {count : Option UInt64} {value : Json}
    (h : wording.count ref name count = some value) : Json.Plain value := by
  cases count with
  | some count =>
    cases h
    exact .nat count.toNat
  | none =>
    unfold Wording.count at h
    by_cases hnull : wording.writesNull ref name = true
    · rw [if_pos hnull] at h
      cases h
      exact .null
    · rw [if_neg hnull] at h
      cases h

theorem plain_column (profile : ColumnProfile) : Json.Plain (wording.column profile) := by
  apply Json.plain_ofFields
  simp only [List.forall_mem_cons, Option.some.injEq, forall_eq']
  exact ⟨.text _, .text _, fun _ h => plain_count wording h, fun _ h => plain_count wording h,
    by simp⟩

theorem plain_table (table : Table) : Json.Plain (wording.table table) := by
  have hcolumns : Json.Plain (.list (table.columns.values.map wording.column)) :=
    Json.plain_list fun profile _ => plain_column wording profile
  apply Json.plain_ofFields
  simp only [List.forall_mem_cons, Option.some.injEq, forall_eq']
  exact ⟨.text _, hcolumns, by simp⟩

theorem plain_document (warehouse : Warehouse) : Json.Plain (wording.document warehouse) := by
  have htables : Json.Plain (.list (warehouse.tables.map wording.table)) :=
    Json.plain_list fun table _ => plain_table wording table
  apply Json.plain_ofFields
  simp only [List.forall_mem_cons, Option.some.injEq, forall_eq']
  exact ⟨htables, by simp⟩

end Printing

section Fields

variable (wording : Wording)

/-- A count is read as it was, whichever way an absent one is written. -/
theorem orElse_count (ref : ColumnRef) (name : String) (count : Option UInt64) :
    (Slot.ofOption (wording.count ref name count)).orElse none (Json.nullable Json.count?) =
      some count := by
  cases count with
  | some count =>
    have hnumber : Json.nullable Json.count? (.ofNat count.toNat) =
        (Json.count? (.ofNat count.toNat)).map some := rfl
    show Json.nullable Json.count? (.ofNat count.toNat) = some (some count)
    rw [hnumber, Json.count?_ofNat_toNat]
    rfl
  | none =>
    unfold Wording.count
    by_cases hnull : wording.writesNull ref name = true
    · rw [if_pos hnull]
      rfl
    · rw [if_neg hnull]
      rfl

theorem ofJson?_column (profile : ColumnProfile) :
    ColumnEntry.ofJson? (wording.column profile) =
      some (.describing wording.types.declared profile) := by
  have hslots : slots? ["name", "type", "row_count", "distinct_row_count"]
      (wording.column profile) =
      some [.given (.ofText profile.ref.column), .given (.ofText (wording.types.declared profile)),
        .ofOption (wording.count profile.ref "row_count" profile.rows),
        .ofOption (wording.count profile.ref "distinct_row_count" profile.distinct)] :=
    Json.slots?_ofFields rfl (by decide)
  rw [ColumnEntry.ofJson?, hslots]
  simp only [Option.bind_eq_bind, Option.bind_some, orElse_count]
  rfl

theorem ofJson?_table (table : Table) :
    TableEntry.ofJson? (wording.table table) =
      some (.describing wording.types.declared table) := by
  have hslots : slots? ["name", "columns"] (wording.table table) =
      some [.given (.ofText table.name),
        .given (.list (table.columns.values.map wording.column))] :=
    Json.slots?_ofFields rfl (by decide)
  have hcolumns : (table.columns.values.map wording.column).mapM ColumnEntry.ofJson? =
      some (table.columns.values.map (.describing wording.types.declared)) :=
    mapM_map_eq_pure fun profile _ => ofJson?_column wording profile
  rw [TableEntry.ofJson?, hslots]
  simp only [Option.bind_eq_bind, Option.bind_some, Slot.required, Slot.orElse, Json.list?,
    hcolumns]
  rfl

theorem tablesOfJson?_document (warehouse : Warehouse) :
    tablesOfJson? (wording.document warehouse) =
      some (warehouse.tables.map (.describing wording.types.declared)) := by
  have hslots : slots? ["tables"] (wording.document warehouse) =
      some [.given (.list (warehouse.tables.map wording.table))] :=
    Json.slots?_ofFields rfl (by decide)
  rw [tablesOfJson?, hslots]
  exact mapM_map_eq_pure fun table _ => ofJson?_table wording table

end Fields

/-- Reading a document loses nothing. Whatever a warehouse holds, if it has no blank names, it is
read from the text of its document, however absent counts and unknown types are written: its tables
in their order, those without columns among them, and every name and every count of 64 bits as it
is. -/
theorem document_is_read_back (wording : Wording) (warehouse : Warehouse)
    (htitled : warehouse.Titled) :
    parse .json (wording.text warehouse).toUTF8 = .ok warehouse := by
  have hvalue : Json.ofBytes? (wording.text warehouse).toUTF8 =
      some (wording.document warehouse) := by
    rw [Json.ofBytes?_toUTF8]
    exact (plain_document wording warehouse).ofString?_compact
  have hentries : (Json.ofBytes? (wording.text warehouse).toUTF8).bind tablesOfJson? =
      some (warehouse.tables.map (.describing wording.types.declared)) := by
    rw [hvalue, Option.bind_some, tablesOfJson?_document]
  have htables := htitled.ofTables_describing wording.types.ofDeclared_declared
  rw [parse_json_of_tables hentries, htables]
  rfl

def untidy : Warehouse where
  tables :=
    [{ name := " a\"\\\n"
       columns := .ofList
        [("\x01", ⟨⟨" a\"\\\n", "\x01"⟩, .integer, some 18446744073709551615, none⟩),
          ("é ", ⟨⟨" a\"\\\n", "é "⟩, .unknown, none, some 0⟩)] },
      .named "b"]
  consistent := consistent_of_firstFault? rfl

def nullRows : Wording where
  types := { unknown := fun _ => "", unrecognized := fun _ => by decide +kernel }
  writesNull _ name := name = "row_count"

def untidyText : String :=
  "\x7b\"tables\":[\x7b\"name\":\" a\\\"\\\\\\n\",\"columns\":[" ++
  "\x7b\"name\":\"\\u0001\",\"type\":\"integer\",\"row_count\":18446744073709551615\x7d," ++
  "\x7b\"name\":\"é \",\"type\":\"\",\"row_count\":null,\"distinct_row_count\":0\x7d]\x7d," ++
  "\x7b\"name\":\"b\",\"columns\":[]\x7d]\x7d"

theorem document_is_read_back_untidy :
    untidy.Titled ∧ nullRows.text untidy = untidyText ∧
      parse .json (nullRows.text untidy).toUTF8 = .ok untidy := by
  have htitled : untidy.Titled := by
    unfold Warehouse.Titled
    decide +kernel
  have htext : nullRows.text untidy = untidyText := by decide +kernel
  exact ⟨htitled, htext, document_is_read_back nullRows untidy htitled⟩

end ColumnRoles.Snapshot
