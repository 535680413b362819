import ColumnRoles.Column
import ColumnRoles.Pattern.Reader

/-!
What the name of a column says about it. An identifier ends with `id`; a primary identifier is
called `id`, or its table with `id` or `_id` behind it. Letter case does not matter. Which names
mark a primary time column is said by a pattern, and what compiles patterns is left open; the
program has a reader of its own for the common ones.
-/
namespace ColumnRoles.Naming

def identifierPattern : Pattern :=
  .sequence [.inAnyCase 'i', .inAnyCase 'd', .place .textEnd]

theorem read_identifierPattern : Pattern.read? "(?i)id$" = some identifierPattern := by
  decide +kernel

def isIdentifier (ref : ColumnRef) : Bool :=
  identifierPattern.matchesText ref.column

def singular (text : List Char) : List Char :=
  match text.getLast? with
  | some 's' => text.dropLast
  | _ => text

def isIdentifierOf (table column : List Char) : Bool :=
  !table.isEmpty && (column == table ++ ['_', 'i', 'd'] || column == table ++ ['i', 'd'])

/-- The name is `id`, or names its table, as it is written or without one `s` at the end. -/
def isPrimaryIdentifier (ref : ColumnRef) : Bool :=
  let column := Text.lowerChars ref.column.toList
  let table := Text.lowerChars ref.table.toList
  column == ['i', 'd'] || isIdentifierOf table column || isIdentifierOf (singular table) column

/-- A compiler of patterns makes a test of texts out of the text of a pattern, or refuses it. -/
abbrev Compiler := String → Option (String → Bool)

def Compiler.reader : Compiler := fun source =>
  (Pattern.read? source).map Pattern.matchesText

/-- A compiled pattern, together with the text it was compiled from. -/
structure NamePattern where
  source : String
  finds : String → Bool

namespace NamePattern

def compile? (compile : Compiler) (source : String) : Option NamePattern :=
  (compile source).map fun finds => { source, finds }

def read? : String → Option NamePattern :=
  compile? .reader

def accepts (p : NamePattern) (ref : ColumnRef) : Bool :=
  p.finds ref.column

def usualTimeNames : List String :=
  ["ds", "created_at", "created_date", "created_time"]

def usualTimePattern : Pattern :=
  .sequence
    [.place .textStart,
      .group 1 (.choice (usualTimeNames.map fun name =>
        .sequence (name.toList.map .inAnyCase))),
      .place .textEnd]

def usualTime : NamePattern where
  source := "(?i)^(ds|created_at|created_date|created_time)$"
  finds := usualTimePattern.matchesText

theorem accepts_usualTime (ref : ColumnRef) :
    usualTime.accepts ref = usualTimePattern.matchesText ref.column := by
  rw [accepts, usualTime]

theorem read_usualTimePattern : Pattern.read? usualTime.source = some usualTimePattern := by
  decide +kernel

theorem reader_usualTime :
    Compiler.reader usualTime.source = some usualTimePattern.matchesText := by
  rw [Compiler.reader, read_usualTimePattern, Option.map_some]

theorem compile?_usualTime : compile? .reader usualTime.source = some usualTime := by
  rw [compile?, reader_usualTime, Option.map_some]
  rfl

end NamePattern

end ColumnRoles.Naming
