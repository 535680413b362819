import ColumnRoles.Text.Blank
import ColumnRoles.Text.Case

/-!
Columns of a warehouse: how they are named, what type they were declared with, and what the
profiler counted in them. A count that was not taken is absent, and everything that depends on an
absent count fails to hold.
-/
namespace ColumnRoles

/-- The name of a column within the warehouse. Both parts are compared as written. -/
structure ColumnRef where
  table : String
  column : String
deriving DecidableEq, Repr

def ColumnRef.text (ref : ColumnRef) : String :=
  s!"{ref.table}.{ref.column}"

/-- The families into which declared types are collapsed. -/
inductive ColumnType where
  | integer
  | float
  | string
  | boolean
  | dateTime
  | unknown
deriving DecidableEq, Repr

namespace ColumnType

def all : List ColumnType :=
  [integer, float, string, boolean, dateTime, unknown]

def name : ColumnType → String
  | integer => "integer"
  | float => "float"
  | string => "string"
  | boolean => "boolean"
  | dateTime => "date_time"
  | unknown => "unknown"

def ofName? (text : String) : Option ColumnType :=
  all.find? (·.name = text)

def declaredNames : ColumnType → List String
  | integer => ["integer", "int", "bigint", "smallint", "tinyint", "int64"]
  | float => ["float", "float64", "double", "double precision", "real", "numeric", "decimal"]
  | string => ["string", "varchar", "text", "char", "character varying"]
  | boolean => ["boolean", "bool"]
  | dateTime => ["datetime", "timestamp", "timestamp_ntz", "timestamp_tz", "date", "time"]
  | unknown => []

def baseName (declared : String) : String :=
  Text.trim (String.ofList (declared.toList.takeWhile (· ≠ '(')))

/-- The family of a declared type; letter case and parameters do not matter. -/
def ofDeclared (declared : String) : ColumnType :=
  let base := Text.lowerCase (baseName declared)
  (all.find? fun family => base ∈ family.declaredNames).getD unknown

end ColumnType

/-- What the profiler reports about one column. -/
structure ColumnProfile where
  ref : ColumnRef
  type : ColumnType
  rows : Option UInt64 := none
  distinct : Option UInt64 := none
deriving DecidableEq, Repr

namespace ColumnProfile

/-- Distinct values per row; absent unless both counts were taken and there is a row. -/
def cardinalityRatio (profile : ColumnProfile) : Option Float :=
  match profile.distinct, profile.rows with
  | some distinct, some rows => if 0 < rows then some (distinct.toFloat / rows.toFloat) else none
  | _, _ => none

def allValuesDistinct (profile : ColumnProfile) : Bool :=
  match profile.distinct, profile.rows with
  | some distinct, some rows => 0 < rows && distinct == rows
  | _, _ => false

def hasLowCardinality (profile : ColumnProfile) (threshold : Float) : Bool :=
  match profile.cardinalityRatio with
  | some ratio => ratio ≤ threshold
  | none => false

def excess? (profile : ColumnProfile) : Option (UInt64 × UInt64) :=
  match profile.distinct, profile.rows with
  | some distinct, some rows => if rows < distinct then some (distinct, rows) else none
  | _, _ => none

end ColumnProfile

end ColumnRoles
