import ColumnRoles.Rule
import ColumnRoles.Rule.Naming

/-!
The thirteen built-in rules. What the name or the declared type of a column says is certain; what
its counts say, or a type that serves many purposes, is a complimentary hint. The one exception is
uniqueness, a certain hint.
-/
namespace ColumnRoles

inductive Builtin where
  | anyIdentifierByName
  | primaryIdentifierByName
  | uniqueIdentifierByDistinctCount
  | foreignIdentifierByCardinalityRatio
  | timeDimensionByTimeType
  | primaryTimeDimensionByName
  | primaryTimeDimensionIfOnlyTime
  | categoricalDimensionByBooleanType
  | categoricalDimensionByStringType
  | categoricalDimensionByIntegerType
  | categoricalDimensionByCardinalityRatio
  | measureByRealType
  | measureByIntegerType
deriving DecidableEq, Repr

/-- What can be adjusted in the built-in rules. -/
structure Tuning where
  foreignIdentifierRatio : Float
  categoricalRatio : Float
  primaryTime : Naming.NamePattern

namespace Tuning

def usualForeignIdentifierRatio : Float := 0.4

def usualCategoricalRatio : Float := 0.2

def usual : Tuning where
  foreignIdentifierRatio := usualForeignIdentifierRatio
  categoricalRatio := usualCategoricalRatio
  primaryTime := .usualTime

end Tuning

namespace Builtin

def all : List Builtin :=
  [anyIdentifierByName, primaryIdentifierByName, uniqueIdentifierByDistinctCount,
    foreignIdentifierByCardinalityRatio, timeDimensionByTimeType, primaryTimeDimensionByName,
    primaryTimeDimensionIfOnlyTime, categoricalDimensionByBooleanType,
    categoricalDimensionByStringType, categoricalDimensionByIntegerType,
    categoricalDimensionByCardinalityRatio, measureByRealType, measureByIntegerType]

def name : Builtin → String
  | anyIdentifierByName => "any-identifier-by-name"
  | primaryIdentifierByName => "primary-identifier-by-name"
  | uniqueIdentifierByDistinctCount => "unique-identifier-by-distinct-count"
  | foreignIdentifierByCardinalityRatio => "foreign-identifier-by-cardinality-ratio"
  | timeDimensionByTimeType => "time-dimension-by-time-type"
  | primaryTimeDimensionByName => "primary-time-dimension-by-name"
  | primaryTimeDimensionIfOnlyTime => Rule.onlyTimeColumnName
  | categoricalDimensionByBooleanType => "categorical-dimension-by-boolean-type"
  | categoricalDimensionByStringType => "categorical-dimension-by-string-type"
  | categoricalDimensionByIntegerType => "categorical-dimension-by-integer-type"
  | categoricalDimensionByCardinalityRatio => "categorical-dimension-by-cardinality-ratio"
  | measureByRealType => "measure-by-real-type"
  | measureByIntegerType => "measure-by-integer-type"

def ofName? (text : String) : Option Builtin :=
  all.find? (·.name = text)

def certain (b : Builtin) (role : Role) (reason : String) (test : ColumnProfile → Bool) : Rule :=
  .matcher
    { name := b.name, role, confidence := .forSure, reason,
      test := fun profile => .ok (test profile) }

def typeHint (b : Builtin) (role : Role) (reason : String) (type : ColumnType) : Rule :=
  .matcher
    { name := b.name, role, confidence := .medium, complimentary := true, reason,
      test := fun profile => .ok (profile.type = type) }

def repetitionHint (b : Builtin) (role : Role) (threshold : Float) : Rule :=
  .lowCardinality
    { name := b.name, threshold, role, confidence := .medium, complimentary := true }

def rule (tuning : Tuning) (b : Builtin) : Rule :=
  match b with
  | anyIdentifierByName =>
    b.certain .idUnknown "Column name ends with \x60id\x60" fun p => Naming.isIdentifier p.ref
  | primaryIdentifierByName =>
    b.certain .idPrimary "Column name matches \x60(table_name?)(_?)id\x60"
      fun p => Naming.isPrimaryIdentifier p.ref
  | uniqueIdentifierByDistinctCount =>
    .matcher
      { name := b.name, role := .idUnique, confidence := .forSure, complimentary := true,
        reason := "The values in the column are unique",
        test := fun profile => .ok profile.allValuesDistinct }
  | foreignIdentifierByCardinalityRatio =>
    b.repetitionHint .idForeign tuning.foreignIdentifierRatio
  | timeDimensionByTimeType =>
    b.certain .dimensionTime "Column type is time (TIME, DATE, DATETIME, TIMESTAMP)"
      fun p => p.type = .dateTime
  | primaryTimeDimensionByName =>
    let source := tuning.primaryTime.source
    b.certain .dimensionPrimaryTime s!"Column name matches \x60{source}\x60"
      fun p => tuning.primaryTime.accepts p.ref
  | primaryTimeDimensionIfOnlyTime => .onlyTimeColumn
  | categoricalDimensionByBooleanType =>
    b.certain .dimensionCategorical "Column type is BOOLEAN" fun p => p.type = .boolean
  | categoricalDimensionByStringType =>
    b.typeHint .dimensionCategorical "Column type is STRING" .string
  | categoricalDimensionByIntegerType =>
    b.typeHint .dimensionCategorical "Column type is INTEGER" .integer
  | categoricalDimensionByCardinalityRatio =>
    b.repetitionHint .dimensionCategorical tuning.categoricalRatio
  | measureByRealType =>
    b.certain .measureUnknown "Column type is real (FLOAT, DOUBLE, DOUBLE PRECISION)"
      fun p => p.type = .float
  | measureByIntegerType => b.typeHint .measureUnknown "Column type is INTEGER" .integer

/-- The rule goes by the name of the built-in it was made from. -/
theorem name_rule (tuning : Tuning) (b : Builtin) : (b.rule tuning).name = b.name := by
  cases b <;> rfl

end Builtin

end ColumnRoles
