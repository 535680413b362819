import ColumnRoles.Error

/-!
What a program can see of a file system: which paths exist, and what can be read from them.
-/
namespace ColumnRoles

structure Files where
  read : String → Except FileFault ByteArray
  exists? : String → Bool

namespace Files

def readText (files : Files) (path : String) : Except FileFault String := do
  match String.fromUTF8? (← files.read path) with
  | some text => .ok text
  | none => .error .notText

inductive Place where
  /-- The directory in which paths begin. -/
  | here
  /-- A directory of which nothing is known. -/
  | elsewhere
  | file (contents : ByteArray)

def maxName : Nat := 255

def maxPath : Nat := 4095

def follow (entries : List (String × ByteArray)) (place : Place) (part : List Char) :
    Except FileFault Place :=
  match place with
  | .file _ => .error .notADirectory
  | .elsewhere =>
    if part = [] || part = ['.'] || part = ['.', '.'] then .ok .elsewhere
    else if maxName < (String.ofList part).utf8ByteSize then .error .nameTooLong
    else .error .missing
  | .here =>
    if part = [] || part = ['.'] then .ok .here
    else if part = ['.', '.'] then .ok .elsewhere
    else if maxName < (String.ofList part).utf8ByteSize then .error .nameTooLong
    else
      match entries.lookup (String.ofList part) with
      | some contents => .ok (.file contents)
      | none => .error .missing

/-- Where a path leads from a directory that holds just the given files. -/
def locate (entries : List (String × ByteArray)) (path : String) : Except FileFault Place :=
  let chars := path.toList
  if '\x00' ∈ chars then .error .badName
  else if maxPath < path.utf8ByteSize then .error .nameTooLong
  else
    match chars with
    | [] => .error .missing
    | '/' :: rest => (rest.splitOn '/').foldlM (follow entries) .elsewhere
    | chars => (chars.splitOn '/').foldlM (follow entries) .here

def ofList (entries : List (String × ByteArray)) : Files where
  read path := do
    match ← locate entries path with
    | .file contents => .ok contents
    | .here | .elsewhere => .error .isDirectory
  exists? path :=
    match locate entries path with
    | .ok _ => true
    | .error _ => false

end Files

end ColumnRoles
