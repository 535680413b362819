/-!
Delimited text, read byte by byte: records of fields. A field in quotes may hold delimiters and line
ends, and a quote if it is doubled; quotes anywhere else are ordinary bytes. A line feed, a carriage
return or both together end a record, and lines that hold nothing at all are no records. The quotes
are taken off before anyone asks which text the bytes of a field stand for.
-/
namespace ColumnRoles.Delimited

abbrev Field := List UInt8

abbrev Record := List Field

/-- Where the reader stands. -/
inductive Place where
  | recordStart
  | fieldStart
  | bare
  | quoted
  /-- Behind a quote within a quoted field: the quote ends the quoted part, or it is doubled. -/
  | quote
deriving DecidableEq, Repr

/-- The records, fields and bytes that are complete, each last one first. -/
structure Reading where
  records : List Record := []
  fields : Record := []
  field : Field := []
  place : Place := .recordStart
deriving Repr

namespace Reading

def add (reading : Reading) (byte : UInt8) (place : Place) : Reading :=
  { reading with field := byte :: reading.field, place }

def endField (reading : Reading) : Reading :=
  { reading with fields := reading.field.reverse :: reading.fields, field := [],
                 place := .fieldStart }

def endRecord (reading : Reading) : Reading :=
  let reading := reading.endField
  { records := reading.fields.reverse :: reading.records }

def isQuote (byte : UInt8) : Bool :=
  byte = '"'.toUInt8

def isLineEnd (byte : UInt8) : Bool :=
  byte = '\n'.toUInt8 || byte = '\r'.toUInt8

def outside (delimiter : UInt8) (reading : Reading) (byte : UInt8) : Reading :=
  if byte = delimiter then reading.endField
  else if isLineEnd byte then reading.endRecord
  else reading.add byte .bare

/-- Take up one more byte. -/
def next (delimiter : UInt8) (reading : Reading) (byte : UInt8) : Reading :=
  match reading.place with
  | .recordStart =>
    if isLineEnd byte then reading
    else if isQuote byte then { reading with place := .quoted }
    else outside delimiter reading byte
  | .fieldStart =>
    if isQuote byte then { reading with place := .quoted }
    else outside delimiter reading byte
  | .bare => outside delimiter reading byte
  | .quoted =>
    if isQuote byte then { reading with place := .quote } else reading.add byte .quoted
  | .quote =>
    if isQuote byte then reading.add byte .quoted else outside delimiter reading byte

def result (reading : Reading) : List Record :=
  (if reading.place = .recordStart then reading else reading.endRecord).records.reverse

end Reading

def dropByteOrderMark : List UInt8 → List UInt8
  | 0xEF :: 0xBB :: 0xBF :: rest => rest
  | bytes => bytes

/-- The records of a byte sequence. The delimiter is an ASCII character. -/
def records (delimiter : Char) (bytes : ByteArray) : List Record :=
  ((dropByteOrderMark bytes.data.toList).foldl (Reading.next delimiter.toUInt8) {}).result

/-- Bytes that are apart only by quotes are one character when the quotes are off. -/
example : records ',' ⟨#[0x22, 0xC3, 0x22, 0xA9]⟩ = [[[0xC3, 0xA9]]] := by decide

end ColumnRoles.Delimited
