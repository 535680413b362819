import ColumnRoles.Delimited
import ColumnRoles.Snapshot
import ColumnRoles.Text.Symbol

/-!
Snapshots read from delimited text, one record for each column. The first record names the fields;
a field is found by its name, wherever it stands, and fields of other names do not matter. A first
record that is no text names nothing: then the fields are taken in their usual order. Records are
taken up one by one, so of several faults the one that comes first counts.
-/
namespace ColumnRoles.Snapshot

def fieldNames : List String :=
  ["table", "column", "type", "row_count", "distinct_row_count"]

/-- How the fields of a row are found. -/
inductive Header where
  | named (names : List String)
  | positional
deriving DecidableEq, Repr

def texts? (record : Delimited.Record) : Option (List String) :=
  record.mapM fun field => (Text.ofBytes? field).map Text.trim

def Header.ofRecord (record : Delimited.Record) : Header :=
  match texts? record with
  | some names => .named names
  | none => .positional

/-- The value of one field of a row, if the row has such a field; none at all if the header has the
name twice. -/
def Header.value? (header : Header) (row : List String) (name : String) : Option (Option String) :=
  match header with
  | .positional => some row[fieldNames.idxOf name]?
  | .named names =>
    match (names.zip row).filter (·.1 = name) with
    | [] => some none
    | [field] => some (some field.2)
    | _ => none

def digitValue? (base : Nat) (c : Char) : Option Nat :=
  let value :=
    if '0' ≤ c && c ≤ '9' then c.toNat - '0'.toNat
    else if 'a' ≤ c && c ≤ 'f' then c.toNat - 'a'.toNat + 10
    else if 'A' ≤ c && c ≤ 'F' then c.toNat - 'A'.toNat + 10
    else base
  if value < base then some value else none

def digits? (base : Nat) (digits : List Char) : Option UInt64 := do
  let digits ← digits.mapM (digitValue? base)
  let value := digits.foldl (fun n d => base * n + d) 0
  if digits ≠ [] ∧ value < UInt64.size then some (UInt64.ofNat value) else none

def dropPlus : List Char → List Char
  | '+' :: rest => rest
  | rest => rest

/-- A count: decimal, or hexadecimal behind `0x`, in either case with an optional plus sign. -/
def count? (text : String) : Option UInt64 :=
  match text.toList with
  | '0' :: 'x' :: rest => digits? 16 (dropPlus rest)
  | rest => digits? 10 (dropPlus rest)

def optionalCount? : Option String → Option (Option UInt64)
  | none | some "" => some none
  | some text => (count? text).map some

def Row.ofRecord? (header : Header) (record : Delimited.Record) : Option Row := do
  let texts ← texts? record
  let table ← header.value? texts "table"
  let column ← header.value? texts "column"
  let declared ← header.value? texts "type"
  let rows ← header.value? texts "row_count"
  let distinct ← header.value? texts "distinct_row_count"
  some
    { table := ← table
      column :=
        { name := ← column
          declared := declared.getD ""
          rows := ← optionalCount? rows
          distinct := ← optionalCount? distinct } }

def insertRecord (header : Header) (width : Nat) (draft : Draft) (record : Delimited.Record) :
    Except Error Draft :=
  if record.length ≠ width then .error .badRecords
  else
    match Row.ofRecord? header record with
    | some row => (insertRow draft row).mapError .statistics
    | none => .error .badRecords

/-- The warehouse that delimited text describes. -/
def ofRecords (delimiter : Char) (bytes : ByteArray) : Except Error Warehouse := do
  match Delimited.records delimiter bytes with
  | [] => .ok .empty
  | first :: records =>
    let draft ← records.foldlM (insertRecord (.ofRecord first) first.length) .empty
    (Warehouse.build draft.values).mapError .statistics

end ColumnRoles.Snapshot
