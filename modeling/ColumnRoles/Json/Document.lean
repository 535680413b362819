import ColumnRoles.Json.Token

/-!
From tokens to the value of a document. The reader keeps the lists and records that are still open,
so that documents may be nested as deeply as they like.
-/
namespace ColumnRoles.Json

/-- A list or record that is still open; what it holds stands last one first. -/
inductive Frame where
  | list (items : List Json)
  | record (members : List (Literal × Json))
  /-- A record in which the value of a key is to come. -/
  | member (members : List (Literal × Json)) (key : Literal)

inductive Expected where
  | value
  /-- A value, or the end of the list that has just begun. -/
  | firstItem
  | key
  /-- A key, or the end of the record that has just begun. -/
  | firstKey
  | colon
  /-- A comma, or the end of the innermost list or record. -/
  | more
  /-- Nothing: the value of the document is complete. -/
  | nothing (value : Json)

structure Assembly where
  frames : List Frame := []
  expected : Expected := .value

namespace Assembly

def complete (frames : List Frame) (value : Json) : Option Assembly :=
  match frames with
  | [] => some { frames := [], expected := .nothing value }
  | .list items :: outer => some { frames := .list (value :: items) :: outer, expected := .more }
  | .member members key :: outer =>
    some { frames := .record ((key, value) :: members) :: outer, expected := .more }
  | .record _ :: _ => none

def closeList (frames : List Frame) : Option Assembly :=
  match frames with
  | .list items :: outer => complete outer (.list items.reverse)
  | _ => none

def closeRecord (frames : List Frame) : Option Assembly :=
  match frames with
  | .record members :: outer => complete outer (.record members.reverse)
  | _ => none

def value? (frames : List Frame) (token : Token) : Option Assembly :=
  match token with
  | .scalar value => complete frames value
  | .text value => complete frames (.text value)
  | .listStart => some { frames := .list [] :: frames, expected := .firstItem }
  | .recordStart => some { frames := .record [] :: frames, expected := .firstKey }
  | _ => none

def key? (frames : List Frame) (token : Token) : Option Assembly :=
  match frames, token with
  | .record members :: outer, .text key =>
    some { frames := .member members key :: outer, expected := .colon }
  | _, _ => none

def next? (assembly : Assembly) (token : Token) : Option Assembly :=
  let frames := assembly.frames
  match assembly.expected, token with
  | .value, token => value? frames token
  | .firstItem, .listEnd => closeList frames
  | .firstItem, token => value? frames token
  | .key, token => key? frames token
  | .firstKey, .recordEnd => closeRecord frames
  | .firstKey, token => key? frames token
  | .colon, .colon => some { frames, expected := .value }
  | .more, .listEnd => closeList frames
  | .more, .recordEnd => closeRecord frames
  | .more, .comma =>
    match frames with
    | .list _ :: _ => some { frames, expected := .value }
    | .record _ :: _ => some { frames, expected := .key }
    | _ => none
  | _, _ => none

def result? (assembly : Assembly) : Option Json :=
  match assembly.expected with
  | .nothing value => some value
  | _ => none

end Assembly

/-- The value that a document stands for, if it stands for one. -/
def ofSymbols? (symbols : List Text.Symbol) : Option Json := do
  let tokens ← tokens? symbols
  let assembly ← tokens.foldlM Assembly.next? {}
  assembly.result?

def ofBytes? (bytes : ByteArray) : Option Json :=
  ofSymbols? (Text.symbols bytes)

def ofString? (text : String) : Option Json :=
  ofSymbols? (Text.symbolsOfText text)

end ColumnRoles.Json
