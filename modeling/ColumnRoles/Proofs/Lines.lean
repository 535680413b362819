import ColumnRoles.Delimited
import ColumnRoles.Proofs.Encoding
import Mathlib.Data.List.Basic

/-!
Writing delimited text, and reading it back. A field is written in quotes, with its own quotes
doubled, or bare where it holds neither quotes nor delimiters nor line ends. Within a field in
quotes nothing but a quote has a meaning of its own, so whatever the field holds is read as it is.
Lines end in any of the three usual ways, and the last line need not be ended.
-/
namespace ColumnRoles.Delimited

def quoted (text : String) : List Char :=
  '"' :: text.toList.flatMap (fun c => if c = '"' then ['"', '"'] else [c]) ++ ['"']

/-- How a field may be written. -/
inductive Writes (delimiter : Char) (text : String) : List Char → Prop
  | quoted : Writes delimiter text (quoted text)
  | bare (h : ∀ c ∈ text.toList, c ≠ '"' ∧ c ≠ delimiter ∧ c ≠ '\n' ∧ c ≠ '\r') :
      Writes delimiter text text.toList

inductive LineEnd where
  | lineFeed
  | carriageReturn
  | both
deriving DecidableEq, Repr

def LineEnd.chars : LineEnd → List Char
  | lineFeed => ['\n']
  | carriageReturn => ['\r']
  | both => ['\r', '\n']

def line (delimiter : Char) (fields : List (List Char)) : List Char :=
  [delimiter].intercalate fields

/-- Lines one below the other, the last of them ended or not. -/
def document (lineEnd : LineEnd) (ended : Bool) (lines : List (List Char)) : List Char :=
  lineEnd.chars.intercalate lines ++ if ended then lineEnd.chars else []

/-- A delimiter that takes one byte, and that is not taken for anything else. -/
structure Proper (delimiter : Char) : Prop where
  ascii : delimiter.toNat < 128
  ne_quote : delimiter ≠ '"'
  ne_lineFeed : delimiter ≠ '\n'
  ne_carriageReturn : delimiter ≠ '\r'

namespace Reading

def read (delimiter : Char) (reading : Reading) (chars : List Char) : Reading :=
  (chars.flatMap String.utf8EncodeChar).foldl (Reading.next delimiter.toUInt8) reading

section Bytes

variable {delimiter : UInt8}

def Plain (delimiter byte : UInt8) : Prop :=
  isQuote byte = false ∧ byte ≠ delimiter ∧ isLineEnd byte = false

theorem foldl_quoted (reading : Reading) {bytes : List UInt8} (h : reading.place = .quoted)
    (hbytes : ∀ byte ∈ bytes, isQuote byte = false) :
    bytes.foldl (Reading.next delimiter) reading =
      { reading with field := bytes.reverse ++ reading.field } := by
  induction bytes generalizing reading with
  | nil => rfl
  | cons byte rest ih =>
    obtain ⟨hbyte, hrest⟩ := List.forall_mem_cons.mp hbytes
    have hnext : reading.next delimiter byte =
        { reading with field := byte :: reading.field } := by
      simp [next, h, hbyte, add]
    have hbehind := ih { reading with field := byte :: reading.field } h hrest
    rw [List.foldl_cons, hnext, hbehind]
    simp

theorem next_plain (reading : Reading) {byte : UInt8} (h : reading.place ≠ .quoted)
    (hbyte : Plain delimiter byte) : reading.next delimiter byte = reading.add byte .bare := by
  obtain ⟨hquote, hdelimiter, hline⟩ := hbyte
  cases hplace : reading.place with
  | quoted => exact absurd hplace h
  | _ => simp [next, hplace, outside, hquote, hdelimiter, hline]

theorem foldl_plain (reading : Reading) {bytes : List UInt8} (h : reading.place = .bare)
    (hbytes : ∀ byte ∈ bytes, Plain delimiter byte) :
    bytes.foldl (Reading.next delimiter) reading =
      { reading with field := bytes.reverse ++ reading.field } := by
  induction bytes generalizing reading with
  | nil => rfl
  | cons byte rest ih =>
    obtain ⟨hbyte, hrest⟩ := List.forall_mem_cons.mp hbytes
    have hplace : reading.place ≠ .quoted := by simp [h]
    have hbehind := ih (reading.add byte .bare) rfl hrest
    rw [List.foldl_cons, next_plain reading hplace hbyte, hbehind]
    simp [add, h]

end Bytes

variable {delimiter : Char}

theorem read_nil (reading : Reading) : reading.read delimiter [] = reading :=
  rfl

theorem read_append (reading : Reading) (before behind : List Char) :
    reading.read delimiter (before ++ behind) =
      (reading.read delimiter before).read delimiter behind := by
  rw [read, List.flatMap_append, List.foldl_append]
  rfl

theorem read_ascii (reading : Reading) {c : Char} (h : c.toNat < 128) (rest : List Char) :
    reading.read delimiter (c :: rest) =
      (reading.next delimiter.toUInt8 c.toUInt8).read delimiter rest := by
  rw [read, List.flatMap_cons, Text.utf8EncodeChar_of_lt h]
  rfl

section Meaning

variable {c : Char} {byte : UInt8} (hbyte : byte ∈ String.utf8EncodeChar c)

include hbyte in
theorem isQuote_iff : isQuote byte = true ↔ c = '"' := by
  rw [isQuote, decide_eq_true_iff]
  exact Text.eq_toUInt8_iff (by decide) hbyte

include hbyte in
theorem isLineEnd_iff : isLineEnd byte = true ↔ c = '\n' ∨ c = '\r' := by
  rw [isLineEnd, Bool.or_eq_true, decide_eq_true_iff, decide_eq_true_iff]
  exact or_congr (Text.eq_toUInt8_iff (by decide) hbyte) (Text.eq_toUInt8_iff (by decide) hbyte)

include hbyte in
theorem plain_of_mem (hproper : Proper delimiter)
    (h : c ≠ '"' ∧ c ≠ delimiter ∧ c ≠ '\n' ∧ c ≠ '\r') : Plain delimiter.toUInt8 byte := by
  obtain ⟨hquote, hdelimiter, hlineFeed, hreturn⟩ := h
  have hline : ¬(c = '\n' ∨ c = '\r') := not_or.mpr ⟨hlineFeed, hreturn⟩
  exact ⟨Bool.eq_false_iff.mpr (mt (isQuote_iff hbyte).mp hquote),
    mt (Text.eq_toUInt8_iff hproper.ascii hbyte).mp hdelimiter,
    Bool.eq_false_iff.mpr (mt (isLineEnd_iff hbyte).mp hline)⟩

end Meaning

theorem read_doubled (reading : Reading) (chars : List Char) (h : reading.place = .quoted) :
    reading.read delimiter (chars.flatMap fun c => if c = '"' then ['"', '"'] else [c]) =
      { reading with
        field := (chars.flatMap String.utf8EncodeChar).reverse ++ reading.field } := by
  induction chars generalizing reading with
  | nil => rfl
  | cons c rest ih =>
    have hchar : reading.read delimiter (if c = '"' then ['"', '"'] else [c]) =
        { reading with field := (String.utf8EncodeChar c).reverse ++ reading.field } := by
      by_cases hc : c = '"'
      · subst hc
        have hbyte : String.utf8EncodeChar '"' = ['"'.toUInt8] := by decide
        rw [if_pos rfl, read_ascii _ (by decide), read_ascii _ (by decide), read_nil, hbyte]
        simp [next, h, add, isQuote]
      · have hbytes : ∀ byte ∈ String.utf8EncodeChar c, isQuote byte = false := fun _ hbyte =>
          Bool.eq_false_iff.mpr (mt (isQuote_iff hbyte).mp hc)
        rw [if_neg hc, read, List.flatMap_singleton, foldl_quoted reading h hbytes]
    have hrest := ih
      { reading with field := (String.utf8EncodeChar c).reverse ++ reading.field } h
    rw [List.flatMap_cons, read_append, hchar, hrest]
    simp

/-- A field that is written is read, and then the reader stands outside of quotes. -/
theorem read_field (hproper : Proper delimiter) (records : List Record) (fields : Record)
    {place : Place} {text : String} {chars : List Char} (h : Writes delimiter text chars)
    (hplace : place = .recordStart ∨ place = .fieldStart) :
    ∃ behind, behind ≠ .quoted ∧ (behind = .recordStart → place = .recordStart) ∧
      ({ records, fields, place } : Reading).read delimiter chars =
        { records, fields, field := (Text.bytes text).reverse, place := behind } := by
  rw [Text.bytes_eq_flatMap]
  cases h with
  | quoted =>
    have hopen : ({ records, fields, place } : Reading).next delimiter.toUInt8 '"'.toUInt8 =
        { records, fields, place := .quoted } := by
      rcases hplace with rfl | rfl <;> rfl
    have hclose : ∀ field, ({ records, fields, field, place := .quoted } : Reading).read delimiter
        ['"'] = { records, fields, field, place := .quote } := by
      intro field
      rw [read_ascii _ (by decide)]
      rfl
    refine ⟨.quote, by decide, by simp, ?_⟩
    rw [quoted, List.cons_append, read_ascii _ (by decide), hopen, read_append,
      read_doubled _ _ rfl, List.append_nil, hclose]
  | bare h =>
    have hbytes : ∀ byte ∈ text.toList.flatMap String.utf8EncodeChar,
        Plain delimiter.toUInt8 byte := by
      intro byte hbyte
      obtain ⟨c, hc, hmem⟩ := List.mem_flatMap.mp hbyte
      exact plain_of_mem hmem hproper (h c hc)
    rw [read]
    cases hfield : text.toList.flatMap String.utf8EncodeChar with
    | nil => exact ⟨place, by rcases hplace with rfl | rfl <;> decide, id, rfl⟩
    | cons byte rest =>
      rw [hfield] at hbytes
      obtain ⟨hbyte, hrest⟩ := List.forall_mem_cons.mp hbytes
      have hstart : ({ records, fields, place } : Reading).place ≠ .quoted := by
        rcases hplace with rfl | rfl <;> simp
      refine ⟨.bare, by decide, by simp, ?_⟩
      rw [List.foldl_cons, next_plain _ hstart hbyte, foldl_plain _ rfl hrest]
      simp [add]

variable {records : List Record} {fields : Record}

theorem next_delimiter (hproper : Proper delimiter) (reading : Reading)
    (h : reading.place ≠ .quoted) :
    reading.next delimiter.toUInt8 delimiter.toUInt8 = reading.endField := by
  have hbyte := Text.toUInt8_mem_utf8EncodeChar hproper.ascii
  have hquote : ¬isQuote delimiter.toUInt8 = true := mt (isQuote_iff hbyte).mp hproper.ne_quote
  have hline : ¬isLineEnd delimiter.toUInt8 = true := mt (isLineEnd_iff hbyte).mp
    (not_or.mpr ⟨hproper.ne_lineFeed, hproper.ne_carriageReturn⟩)
  cases hplace : reading.place with
  | quoted => exact absurd hplace h
  | _ => simp [next, hplace, outside, hquote, hline]

theorem next_lineEnd (hproper : Proper delimiter) (reading : Reading)
    (hquoted : reading.place ≠ .quoted) (hstart : reading.place ≠ .recordStart) {c : Char}
    (hc : c = '\n' ∨ c = '\r') :
    reading.next delimiter.toUInt8 c.toUInt8 = reading.endRecord := by
  have hascii : c.toNat < 128 := by rcases hc with rfl | rfl <;> decide
  have hbyte := Text.toUInt8_mem_utf8EncodeChar hascii
  have hquote : isQuote c.toUInt8 = false := by rcases hc with rfl | rfl <;> decide
  have hline : isLineEnd c.toUInt8 = true := (isLineEnd_iff hbyte).mpr hc
  have hdelimiter : c.toUInt8 ≠ delimiter.toUInt8 := by
    rw [Ne, Text.eq_toUInt8_iff hproper.ascii hbyte]
    rcases hc with rfl | rfl
    · exact hproper.ne_lineFeed.symm
    · exact hproper.ne_carriageReturn.symm
  cases hplace : reading.place with
  | quoted => exact absurd hplace hquoted
  | recordStart => exact absurd hplace hstart
  | _ => simp [next, hplace, outside, hline, hquote, hdelimiter]

/-- The reader stands behind the last field of a record with the given fields. -/
structure Ends (records : List Record) (record : Record) (reading : Reading) : Prop where
  records_eq : reading.records = records
  fields_eq : (reading.field.reverse :: reading.fields).reverse = record
  not_quoted : reading.place ≠ .quoted
  not_start : reading.place ≠ .recordStart

namespace Ends

variable {record : Record} {reading : Reading}

theorem endRecord_eq (h : Ends records record reading) :
    reading.endRecord = { records := record :: records } := by
  have hfields : (reading.field.reverse :: reading.fields).reverse = record := h.fields_eq
  rw [endRecord, endField, hfields, h.records_eq]

theorem result_eq (h : Ends records record reading) :
    reading.result = records.reverse ++ [record] := by
  rw [result, if_neg h.not_start, h.endRecord_eq, List.reverse_cons]

theorem read_lineEnd (hproper : Proper delimiter) (h : Ends records record reading)
    (lineEnd : LineEnd) :
    reading.read delimiter lineEnd.chars = { records := record :: records } := by
  have hend : ∀ c rest, c = '\n' ∨ c = '\r' →
      reading.read delimiter (c :: rest) =
        ({ records := record :: records } : Reading).read delimiter rest := by
    intro c rest hc
    have hascii : c.toNat < 128 := by rcases hc with rfl | rfl <;> decide
    rw [read_ascii _ hascii, next_lineEnd hproper _ h.not_quoted h.not_start hc, h.endRecord_eq]
  cases lineEnd with
  | lineFeed => exact hend _ _ (Or.inl rfl)
  | carriageReturn => exact hend _ _ (Or.inr rfl)
  | both => exact hend _ _ (Or.inr rfl)

end Ends

theorem endField_eq (field : Field) (place : Place) :
    ({ records, fields, field, place } : Reading).endField =
      { records, fields := field.reverse :: fields, place := .fieldStart } :=
  rfl

/-- The further fields of a record. -/
theorem read_fields (records : List Record) (hproper : Proper delimiter) {texts : List String}
    {written : List (List Char)} (h : List.Forall₂ (Writes delimiter) texts written)
    (hne : texts ≠ []) (fields : Record) :
    Ends records (fields.reverse ++ texts.map Text.bytes)
      (({ records, fields, place := .fieldStart } : Reading).read delimiter
        (line delimiter written)) := by
  induction h generalizing fields with
  | nil => exact absurd rfl hne
  | @cons text chars texts written hfield hrest ih =>
    obtain ⟨place, hquoted, hstart, hread⟩ :=
      read_field hproper records fields hfield (Or.inr rfl)
    cases hrest with
    | nil =>
      have hline : line delimiter [chars] = chars := by simp [line]
      rw [hline, hread]
      refine ⟨rfl, ?_, hquoted, fun h => by cases hstart h⟩
      simp
    | @cons next nextChars texts written hnext hrest =>
      have hline : line delimiter (chars :: nextChars :: written) =
          chars ++ delimiter :: line delimiter (nextChars :: written) := by
        simp [line, List.intercalate]
      have hbehind := ih (by simp) (Text.bytes text :: fields)
      rw [hline, read_append, hread, read_ascii _ hproper.ascii, next_delimiter hproper _ hquoted,
        endField_eq, List.reverse_reverse]
      simpa using hbehind

/-- A line of at least two fields makes a record of them. -/
theorem read_line (hproper : Proper delimiter) {text : String} {texts : List String}
    {written : List (List Char)} (h : List.Forall₂ (Writes delimiter) (text :: texts) written)
    (hne : texts ≠ []) :
    Ends records ((text :: texts).map Text.bytes)
      (({ records } : Reading).read delimiter (line delimiter written)) := by
  cases h with
  | @cons _ chars _ written hfield hrest =>
    obtain ⟨place, hquoted, -, hread⟩ :=
      read_field hproper records [] hfield (Or.inl rfl)
    have hline : line delimiter (chars :: written) =
        chars ++ delimiter :: line delimiter written := by
      cases hrest with
      | nil => exact absurd rfl hne
      | cons => simp [line, List.intercalate]
    have hbehind := read_fields records hproper hrest hne [Text.bytes text]
    rw [hline, read_append, hread, read_ascii _ hproper.ascii, next_delimiter hproper _ hquoted,
      endField_eq, List.reverse_reverse]
    simpa using hbehind

end Reading

def WritesLine (delimiter : Char) (texts : List String) (written : List Char) : Prop :=
  2 ≤ texts.length ∧ ∃ fields, List.Forall₂ (Writes delimiter) texts fields ∧
    written = line delimiter fields

/-- The records of lines are their fields, whichever way the lines end. -/
theorem read_document {delimiter : Char} (hproper : Proper delimiter) (lineEnd : LineEnd)
    (ended : Bool) {texts : List (List String)} {lines : List (List Char)}
    (h : List.Forall₂ (WritesLine delimiter) texts lines) (hne : texts ≠ [])
    (records : List Record) :
    (({ records } : Reading).read delimiter (document lineEnd ended lines)).result =
      records.reverse ++ texts.map fun fields => fields.map Text.bytes := by
  -- line by line; the records read so far are carried along
  induction h generalizing records with
  | nil => exact absurd rfl hne
  | @cons fields written texts lines hline hrest ih =>
    have hread : Reading.Ends records (fields.map Text.bytes)
        (({ records } : Reading).read delimiter written) := by
      obtain ⟨hlength, chars, hwrites, rfl⟩ := hline
      cases fields with
      | nil => simp at hlength
      | cons text others =>
        refine Reading.read_line hproper hwrites ?_
        rintro rfl
        simp at hlength
    cases hrest with
    | nil =>
      have hresult : (({ records } : Reading).read delimiter
          (document lineEnd ended [written])).result =
          records.reverse ++ [fields.map Text.bytes] := by
        cases ended with
        | false => simpa [document] using hread.result_eq
        | true =>
          have hdocument : document lineEnd true [written] = written ++ lineEnd.chars := by
            simp [document]
          rw [hdocument, Reading.read_append, hread.read_lineEnd hproper lineEnd]
          simp [Reading.result]
      simpa using hresult
    | @cons next nextLine texts lines hnext hrest =>
      have hdocument : document lineEnd ended (written :: nextLine :: lines) =
          written ++ (lineEnd.chars ++ document lineEnd ended (nextLine :: lines)) := by
        simp [document, List.intercalate]
      have hbehind := ih (by simp) (fields.map Text.bytes :: records)
      rw [hdocument, Reading.read_append, Reading.read_append, hread.read_lineEnd hproper lineEnd,
        hbehind]
      simp

end ColumnRoles.Delimited
