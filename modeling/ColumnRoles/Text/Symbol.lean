/-!
Bytes read as UTF-8 text that may be damaged. A symbol is a character, or a byte that belongs to
none; a text in good order has only characters.
-/
namespace ColumnRoles.Text

/-- A character, or `none` for a stray byte. -/
abbrev Symbol := Option Char

def symbolsFrom (bytes : ByteArray) : Nat → Nat → List Symbol → List Symbol
  | 0, _, seen => seen.reverse
  | fuel + 1, i, seen =>
    if i < bytes.size then
      match bytes.utf8DecodeChar? i with
      | some c => symbolsFrom bytes fuel (i + c.utf8Size) (some c :: seen)
      | none => symbolsFrom bytes fuel (i + 1) (none :: seen)
    else seen.reverse

/-- The symbols of a byte sequence; there are no more of them than bytes. -/
def symbols (bytes : ByteArray) : List Symbol :=
  symbolsFrom bytes bytes.size 0 []

def symbolsOfText (text : String) : List Symbol :=
  text.toList.map some

def chars? (symbols : List Symbol) : Option (List Char) :=
  symbols.mapM id

def text? (symbols : List Symbol) : Option String :=
  (chars? symbols).map String.ofList

def bytes (text : String) : List UInt8 :=
  text.toUTF8.data.toList

/-- The text that has the given bytes, if none of them is stray. -/
def ofBytes? (bytes : List UInt8) : Option String :=
  text? (symbols ⟨bytes.toArray⟩)

end ColumnRoles.Text
