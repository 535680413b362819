import ColumnRoles.Column
import ColumnRoles.Decimal.Text

/-!
What can go wrong, as causes. Each cause has one wording, given by `Error.message`.
-/
namespace ColumnRoles

/-- How the statistics of a snapshot can contradict themselves. -/
inductive StatisticsFault where
  | unnamedTable
  | repeatedTable (table : String)
  | unnamedColumn (ref : ColumnRef)
  | repeatedColumn (ref : ColumnRef)
  /-- The column called `ref` stands under `key` in `table`. -/
  | misfiledColumn (ref : ColumnRef) (table key : String)
  | excessDistinct (ref : ColumnRef) (distinct rows : UInt64)
deriving DecidableEq, Repr

namespace StatisticsFault

def subject : StatisticsFault → String
  | unnamedTable => "<unnamed>"
  | repeatedTable table => table
  | unnamedColumn ref | repeatedColumn ref | misfiledColumn ref _ _ | excessDistinct ref _ _ =>
    ref.text

def description : StatisticsFault → String
  | unnamedTable => "table name is empty"
  | repeatedTable _ => "table appears more than once"
  | unnamedColumn _ => "column name is empty"
  | repeatedColumn _ => "column appears more than once"
  | misfiledColumn _ table key => s!"column is registered under '{table}.{key}'"
  | excessDistinct _ distinct rows =>
    s!"distinct_row_count ({distinct}) exceeds row_count ({rows})"

end StatisticsFault

inductive RatioSetting where
  | foreignIdentifier
  | categorical
deriving DecidableEq, Repr

def RatioSetting.name : RatioSetting → String
  | foreignIdentifier => "foreign_identifier_ratio"
  | categorical => "categorical_ratio"

/-- What a configuration may not ask for. -/
inductive ConfigFault where
  | ratioOutOfRange (setting : RatioSetting) (ratio : Float)
  | unknownRule (name : String)

def ConfigFault.description : ConfigFault → String
  | ratioOutOfRange setting ratio =>
    let name := setting.name
    let ratio := Decimal.text ratio
    s!"{name} must be within [0, 1], got {ratio}"
  | unknownRule name => s!"Unknown rule: {name}"

inductive FileFault where
  | missing
  | isDirectory
  | notADirectory
  | nameTooLong
  /-- The path holds a character with the code zero, which no name may have. -/
  | badName
  | notText
  | other (description : String)
deriving DecidableEq, Repr

def FileFault.description : FileFault → String
  | missing => "No such file or directory (os error 2)"
  | isDirectory => "Is a directory (os error 21)"
  | notADirectory => "Not a directory (os error 20)"
  | nameTooLong => "File name too long (os error 36)"
  | badName => "file name contained an unexpected NUL byte"
  | notText => "stream did not contain valid UTF-8"
  | other description => description

inductive Error where
  | file (path : String) (fault : FileFault)
  /-- The delimited text is broken or lacks what is needed. -/
  | badRecords
  /-- The JSON text is broken or does not have the expected form. -/
  | badDocument
  /-- The pattern cannot be read. -/
  | badPattern
  /-- The name of the file does not tell its format. -/
  | unsupportedFormat (path : String)
  | statistics (fault : StatisticsFault)
  | config (fault : ConfigFault)
  | emptyRuleset

def Error.message : Error → String
  | file path fault =>
    let fault := fault.description
    s!"IO error for '{path}': {fault}"
  | badRecords => "CSV error: the records do not fit the expected columns"
  | badDocument => "JSON error: the document does not have the expected form"
  | badPattern => "Regex error: the pattern cannot be read"
  | unsupportedFormat path =>
    s!"Unsupported format: cannot infer snapshot format of '{path}' (expected .json, .csv or .tsv)"
  | statistics fault =>
    let subject := fault.subject
    let description := fault.description
    s!"Invalid statistics for '{subject}': {description}"
  | config fault =>
    let description := fault.description
    s!"Configuration error: {description}"
  | emptyRuleset => "Running inference with an empty ruleset would produce no result"

end ColumnRoles
