import ColumnRoles.Json
import ColumnRoles.Text.Symbol

/-!
The tokens of a JSON document. The document is read symbol by symbol; between two symbols the
reader knows the tokens that are complete and the part of a token that it stands in.
-/
namespace ColumnRoles.Json

inductive Token where
  | listStart
  | listEnd
  | recordStart
  | recordEnd
  | comma
  | colon
  /-- A value that is neither text nor made of others. -/
  | scalar (value : Json)
  | text (value : Literal)
deriving Repr

inductive Piece where
  | char (c : Char)
  /-- A unit of UTF-16, given by its number. -/
  | unit (code : Nat)
  | stray
deriving DecidableEq, Repr

namespace Piece

def isHighSurrogate (code : Nat) : Bool :=
  0xD800 ≤ code && code < 0xDC00

def isLowSurrogate (code : Nat) : Bool :=
  0xDC00 ≤ code && code < 0xE000

def joinSurrogates (high low : Nat) : Char :=
  Char.ofNat (0x10000 + (high - 0xD800) * 0x400 + (low - 0xDC00))

/-- The characters that pieces stand for, behind those already `read`, last one first. Surrogates
stand for a character only in pairs. -/
def decodeAfter (read : List Char) : List Piece → Option (List Char)
  | [] => some read.reverse
  | char c :: rest => decodeAfter (c :: read) rest
  | stray :: _ => none
  | unit high :: unit low :: rest =>
    if isHighSurrogate high then
      if isLowSurrogate low then decodeAfter (joinSurrogates high low :: read) rest else none
    else if isLowSurrogate high then none
    else decodeAfter (Char.ofNat high :: read) (unit low :: rest)
  | unit code :: rest =>
    if isHighSurrogate code || isLowSurrogate code then none
    else decodeAfter (Char.ofNat code :: read) rest

def decode (pieces : List Piece) : Literal :=
  (decodeAfter [] pieces).map String.ofList

end Piece

inductive Escape where
  | none
  | begun
  /-- So many hexadecimal digits are read, and they make this number. -/
  | code (digits value : Nat)
deriving DecidableEq, Repr

/-- A string literal that is not complete; its pieces stand last one first. -/
structure LiteralDraft where
  pieces : List Piece := []
  escape : Escape := .none
deriving DecidableEq, Repr

namespace LiteralDraft

def add (draft : LiteralDraft) (piece : Piece) : LiteralDraft :=
  { pieces := piece :: draft.pieces, escape := .none }

def letterEscape? (c : Char) : Option Char :=
  match c with
  | '"' => some '"'
  | '\\' => some '\\'
  | '/' => some '/'
  | 'b' => some '\x08'
  | 'f' => some '\x0c'
  | 'n' => some '\n'
  | 'r' => some '\r'
  | 't' => some '\t'
  | _ => none

def hexValue? (c : Char) : Option Nat :=
  if '0' ≤ c && c ≤ '9' then some (c.toNat - '0'.toNat)
  else if 'a' ≤ c && c ≤ 'f' then some (c.toNat - 'a'.toNat + 10)
  else if 'A' ≤ c && c ≤ 'F' then some (c.toNat - 'A'.toNat + 10)
  else none

def next? (draft : LiteralDraft) (symbol : Text.Symbol) : Option LiteralDraft :=
  match draft.escape, symbol with
  | .none, none => some (draft.add .stray)
  | .none, some c =>
    if c = '\\' then some { draft with escape := .begun }
    else if c.toNat < 0x20 then none
    else some (draft.add (.char c))
  | .begun, some 'u' => some { draft with escape := .code 0 0 }
  | .begun, some c => (letterEscape? c).map fun c => draft.add (.char c)
  | .code digits value, some c =>
    (hexValue? c).map fun d =>
      if digits = 3 then draft.add (.unit (16 * value + d))
      else { draft with escape := .code (digits + 1) (16 * value + d) }
  | _, none => none

def literal (draft : LiteralDraft) : Literal :=
  Piece.decode draft.pieces.reverse

end LiteralDraft

inductive NumeralStage where
  | sign
  | zero
  | whole
  | point
  | fraction
  | mark
  | markSign
  | exponent
deriving DecidableEq, Repr

structure NumeralDraft where
  stage : NumeralStage
  negative : Bool := false
  whole : List Nat := []
  fraction : List Nat := []
  negativeExponent : Bool := false
  exponent : Nat := 0
deriving DecidableEq, Repr

namespace NumeralDraft

def start? (c : Char) : Option NumeralDraft :=
  if c = '-' then some { stage := .sign, negative := true }
  else if c = '0' then some { stage := .zero, whole := [0] }
  else if c.isDigit then some { stage := .whole, whole := [c.toNat - '0'.toNat] }
  else none

def next? (draft : NumeralDraft) (c : Char) : Option NumeralDraft :=
  let digit := c.toNat - '0'.toNat
  let isMark := c = 'e' || c = 'E'
  match draft.stage with
  | .sign =>
    if c = '0' then some { draft with stage := .zero, whole := [0] }
    else if c.isDigit then some { draft with stage := .whole, whole := [digit] }
    else none
  | .zero =>
    if c = '.' then some { draft with stage := .point }
    else if isMark then some { draft with stage := .mark }
    else none
  | .whole =>
    if c.isDigit then some { draft with whole := digit :: draft.whole }
    else if c = '.' then some { draft with stage := .point }
    else if isMark then some { draft with stage := .mark }
    else none
  | .point | .fraction =>
    if c.isDigit then some { draft with stage := .fraction, fraction := digit :: draft.fraction }
    else if isMark && draft.stage = .fraction then some { draft with stage := .mark }
    else none
  | .mark | .markSign | .exponent =>
    if c.isDigit then
      some { draft with stage := .exponent, exponent := 10 * draft.exponent + digit }
    else if draft.stage = .mark && c = '+' then some { draft with stage := .markSign }
    else if draft.stage = .mark && c = '-' then
      some { draft with stage := .markSign, negativeExponent := true }
    else none

def numeral? (draft : NumeralDraft) : Option Numeral :=
  let numeral : Numeral :=
    { negative := draft.negative, whole := draft.whole.reverse,
      fraction := draft.fraction.reverse, exponent := none }
  match draft.stage with
  | .zero | .whole | .fraction => some numeral
  | .exponent =>
    let exponent : Int := if draft.negativeExponent then -draft.exponent else draft.exponent
    some { numeral with exponent := some exponent }
  | _ => none

end NumeralDraft

inductive Part where
  | between
  /-- A word that stands for a value, with the letters that are still to come. -/
  | word (left : List Char) (value : Json)
  | numeral (draft : NumeralDraft)
  | literal (draft : LiteralDraft)

/-- The tokens that are complete, last one first, and the part that is not. -/
structure Scan where
  tokens : List Token := []
  part : Part := .between

namespace Scan

def emit (scan : Scan) (token : Token) : Scan :=
  { tokens := token :: scan.tokens, part := .between }

def isSpace (c : Char) : Bool :=
  c = ' ' || c = '\t' || c = '\n' || c = '\r'

def begin? (scan : Scan) (c : Char) : Option Scan :=
  if isSpace c then some { scan with part := .between }
  else
    match c with
    | '[' => some (scan.emit .listStart)
    | ']' => some (scan.emit .listEnd)
    | '{' => some (scan.emit .recordStart)
    | '}' => some (scan.emit .recordEnd)
    | ',' => some (scan.emit .comma)
    | ':' => some (scan.emit .colon)
    | '"' => some { scan with part := .literal {} }
    | 'n' => some { scan with part := .word ['u', 'l', 'l'] .null }
    | 't' => some { scan with part := .word ['r', 'u', 'e'] (.bool true) }
    | 'f' => some { scan with part := .word ['a', 'l', 's', 'e'] (.bool false) }
    | c => (NumeralDraft.start? c).map fun draft => { scan with part := .numeral draft }

/-- Take up one more symbol. A numeral ends where it cannot go on. -/
def next? (scan : Scan) (symbol : Text.Symbol) : Option Scan :=
  match scan.part, symbol with
  | .between, some c => scan.begin? c
  | .word [last] value, some c => if c = last then some (scan.emit (.scalar value)) else none
  | .word (letter :: left) value, some c =>
    if c = letter then some { scan with part := .word left value } else none
  | .numeral draft, some c =>
    match draft.next? c with
    | some draft => some { scan with part := .numeral draft }
    | none =>
      match draft.numeral? with
      | some numeral => (scan.emit (.scalar (.number numeral))).begin? c
      | none => none
  | .literal draft, symbol =>
    if draft.escape = .none ∧ symbol = some '"' then some (scan.emit (.text draft.literal))
    else (draft.next? symbol).map fun draft => { scan with part := .literal draft }
  | _, _ => none

def result? (scan : Scan) : Option (List Token) :=
  match scan.part with
  | .between => some scan.tokens.reverse
  | .numeral draft =>
    draft.numeral?.map fun numeral => (scan.emit (.scalar (.number numeral))).tokens.reverse
  | _ => none

end Scan

def tokens? (symbols : List Text.Symbol) : Option (List Token) := do
  let scan ← symbols.foldlM Scan.next? {}
  scan.result?

end ColumnRoles.Json
