import ColumnRoles.Error

/-!
The formats of snapshots, and how the name of a file tells its format.
-/
namespace ColumnRoles.Snapshot

inductive Format where
  | json
  | csv
  | tsv
deriving DecidableEq, Repr

namespace Format

def all : List Format :=
  [json, csv, tsv]

def name : Format → String
  | json => "json"
  | csv => "csv"
  | tsv => "tsv"

def ofName? (text : String) : Option Format :=
  all.find? (·.name = text)

def ofExtension? (extension : String) : Option Format :=
  if extension = "json" then some json
  else if extension = "csv" then some csv
  else if extension = "tsv" || extension = "tab" then some tsv
  else none

end Format

/-- The parts of a path that name something: empty parts and those that stay in place are not
among them. -/
def pathParts (path : String) : List (List Char) :=
  (path.toList.splitOn '/').filter fun part => part ≠ [] && part ≠ ['.']

def fileName? (path : String) : Option (List Char) :=
  match (pathParts path).getLast? with
  | some ['.', '.'] => none
  | name => name

/-- What follows the last point of a file name; a point at the start of the name does not count. -/
def extension? (name : List Char) : Option (List Char) :=
  let ending := name.reverse.takeWhile (· ≠ '.')
  if ending.length + 1 < name.length then some ending.reverse else none

def formatOfPath (path : String) : Except Error Format :=
  match
    (fileName? path).bind extension? |>.bind fun extension =>
      Format.ofExtension? (String.ofList (Text.lowerChars extension)) with
  | some format => .ok format
  | none => .error (.unsupportedFormat path)

end ColumnRoles.Snapshot
