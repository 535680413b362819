import ColumnRoles.Pattern.Automaton
import ColumnRoles.Text.Blank
import ColumnRoles.Text.Table.Digit

/-!
Patterns as people write them. The text is cut into tokens, and the tokens are put together with a
stack of the groups that are still open. What cannot be read is refused as a whole, and so is what
is nested too deeply or would take automata too large. Among what is not read are names for groups,
characters by their number, classes by a property and classes within classes.
-/
namespace ColumnRoles.Pattern

/-- How the tokens that follow are to be understood. -/
structure Flags where
  ignoreCase : Bool := false
  multiLine : Bool := false
  dotAll : Bool := false
  /-- Repetitions are lazy unless they are marked as lazy. -/
  swapLazy : Bool := false
deriving DecidableEq, Repr

inductive ClassItem where
  | char (c : Char)
  | set (ranges : List Text.CodeRange)

def ClassItem.ranges : ClassItem → List Text.CodeRange
  | char c => [.single c.toNat]
  | set ranges => ranges

inductive Token where
  | char (c : Char)
  /-- A set that is closed under change of case. -/
  | set (ranges : List Text.CodeRange)
  /-- A class in brackets, with the sets of its items. -/
  | bracket (items : List (List Text.CodeRange)) (negated : Bool)
  | dot
  | lineStart
  | lineEnd
  /-- A place in the text that no flag affects. -/
  | place (place : Place)
  | opening (numbered : Bool) (change : Flags → Flags)
  | closing
  | bar
  | quantifier (least : Nat) (most : Option Nat) (lazily : Bool)
  /-- New flags up to the end of the group. -/
  | flags (change : Flags → Flags)

namespace Token

def boundLimit : Nat := 0x100000000

def readNumber (text : List Char) : Option Nat × List Char :=
  let text := text.dropWhile Text.isBlank
  let digits := text.takeWhile Char.isDigit
  let rest := (text.drop digits.length).dropWhile Text.isBlank
  let value := digits.foldl (fun n c => 10 * n + (c.toNat - '0'.toNat)) 0
  (if digits.isEmpty || boundLimit ≤ value then none else some value, rest)

def readBounds? (text : List Char) : Option ((Nat × Option Nat) × List Char) :=
  match readNumber text with
  | (some least, '}' :: rest) => some ((least, some least), rest)
  | (some least, ',' :: '}' :: rest) => some ((least, none), rest)
  | (some least, ',' :: rest) =>
    match readNumber rest with
    | (some most, '}' :: rest) =>
      if least ≤ most then some ((least, some most), rest) else none
    | _ => none
  | _ => none

def quantified (least : Nat) (most : Option Nat) : List Char → Token × List Char
  | '?' :: rest => (quantifier least most true, rest)
  | rest => (quantifier least most false, rest)

def isEscapable (c : Char) : Bool :=
  c.toNat < 0x80 && !c.isAlphanum && c ≠ '<' && c ≠ '>'

def escapedItem? (c : Char) : Option ClassItem :=
  match c with
  | 'd' => some (.set Text.digitRanges)
  | 'D' => some (.set (Text.complement Text.digitRanges))
  | 'w' => some (.set Text.wordRanges)
  | 'W' => some (.set (Text.complement Text.wordRanges))
  | 's' => some (.set Text.blankRanges)
  | 'S' => some (.set (Text.complement Text.blankRanges))
  | 'a' => some (.char '\x07')
  | 'f' => some (.char '\x0c')
  | 'n' => some (.char '\n')
  | 'r' => some (.char '\r')
  | 't' => some (.char '\t')
  | 'v' => some (.char '\x0b')
  | c => if isEscapable c then some (.char c) else none

def escaped? (c : Char) : Option Token :=
  match c with
  | 'A' => some (place .textStart)
  | 'z' => some (place .textEnd)
  | 'b' => some (place (.wordEdge false))
  | 'B' => some (place (.wordEdge true))
  | c =>
    (escapedItem? c).map fun item =>
      match item with
      | .char c => char c
      | .set ranges => set ranges

def readItem? : List Char → Option (ClassItem × List Char)
  | [] => none
  | '\\' :: c :: rest => (escapedItem? c).map (·, rest)
  | ['\\'] => none
  | c :: rest => some (.char c, rest)

def readRange? (text : List Char) : Option (List Text.CodeRange × List Char) := do
  let (first, rest) ← readItem? text
  match rest with
  | '-' :: ']' :: _ | '-' :: '-' :: _ => some (first.ranges, rest)
  | '-' :: rest =>
    let (last, rest) ← readItem? rest
    match first, last with
    | .char a, .char b => if a ≤ b then some ([(a.toNat, b.toNat)], rest) else none
    | _, _ => none
  | _ => some (first.ranges, rest)

/-- The items of a class up to its closing bracket. Classes within classes and operations on them
are not read. -/
def readItems? :
    Nat → List (List Text.CodeRange) → List Char → Option (List (List Text.CodeRange) × List Char)
  | 0, _, _ => none
  | fuel + 1, items, text =>
    match text with
    | ']' :: rest => some (items, rest)
    | '[' :: _ | '&' :: '&' :: _ | '-' :: '-' :: _ | '~' :: '~' :: _ => none
    | _ =>
      match readRange? text with
      | some (ranges, rest) => readItems? fuel (items ++ [ranges]) rest
      | none => none

def readClass? (text : List Char) : Option (Token × List Char) := do
  let (negated, text) :=
    match text with
    | '^' :: rest => (true, rest)
    | rest => (false, rest)
  let hyphens := text.takeWhile (· = '-')
  let text := text.drop hyphens.length
  let items := hyphens.map fun c => (ClassItem.char c).ranges
  let (items, text) :=
    match items, text with
    | [], ']' :: rest => ([(ClassItem.char ']').ranges], rest)
    | items, rest => (items, rest)
  let (items, rest) ← readItems? (text.length + 1) items text
  some (bracket items negated, rest)

def flag? (c : Char) (on : Bool) : Option (Flags → Flags) :=
  match c with
  | 'i' => some fun f => { f with ignoreCase := on }
  | 'm' => some fun f => { f with multiLine := on }
  | 's' => some fun f => { f with dotAll := on }
  | 'U' => some fun f => { f with swapLazy := on }
  | _ => none

/-- The change that a list of flag letters makes; those behind a hyphen are switched off. No letter
may be given twice, and something must follow the hyphen. -/
def readFlags? (on : Bool) (seen : List Char) : List Char → Option (Flags → Flags)
  | [] => if seen.isEmpty || seen.getLast? = some '-' then none else some id
  | '-' :: rest => if on then readFlags? false (seen ++ ['-']) rest else none
  | c :: rest =>
    if c ∈ seen then none
    else do
      let change ← flag? c on
      let later ← readFlags? on (seen ++ [c]) rest
      some fun f => later (change f)

def readGroup? (text : List Char) : Option (Token × List Char) :=
  match text with
  | '?' :: ':' :: rest => some (opening false id, rest)
  | '?' :: rest =>
    let letters := rest.takeWhile fun c => c ≠ ':' && c ≠ ')'
    match readFlags? true [] letters, rest.drop letters.length with
    | some change, ':' :: rest => some (opening false change, rest)
    | some change, ')' :: rest => some (flags change, rest)
    | _, _ => none
  | rest => some (opening true id, rest)

def read? : List Char → Option (Token × List Char)
  | [] => none
  | c :: rest =>
    match c with
    | '(' => readGroup? rest
    | ')' => some (closing, rest)
    | '|' => some (bar, rest)
    | '[' => readClass? rest
    | '.' => some (dot, rest)
    | '^' => some (lineStart, rest)
    | '$' => some (lineEnd, rest)
    | '*' => some (quantified 0 none rest)
    | '+' => some (quantified 1 none rest)
    | '?' => some (quantified 0 (some 1) rest)
    | '{' => (readBounds? rest).map fun ((least, most), rest) => quantified least most rest
    | '\\' =>
      match rest with
      | c :: rest => (escaped? c).map (·, rest)
      | [] => none
    | c => some (char c, rest)

def readAll? : Nat → List Token → List Char → Option (List Token)
  | _, tokens, [] => some tokens.reverse
  | 0, _, _ => none
  | fuel + 1, tokens, text =>
    match read? text with
    | some (token, rest) => readAll? fuel (token :: tokens) rest
    | none => none

end Token

structure Item where
  pattern : Pattern
  depth : Nat

namespace Item

def combine (build : List Pattern → Pattern) : List Item → Item
  | [item] => item
  | [] => { pattern := build [], depth := 0 }
  | items =>
    { pattern := build (items.map (·.pattern)),
      depth := (items.map (·.depth)).foldl max 0 + 1 }

end Item

/-- A group that is still open: the branches that are complete and the items of the current one,
both last one first. -/
structure Group where
  branches : List Item := []
  items : List Item := []
  /-- The last item can be repeated. -/
  repeatable : Bool := false
  flags : Flags := {}
  number : Option Nat := none

namespace Group

def add (group : Group) (pattern : Pattern) (depth : Nat) : Group :=
  { group with items := { pattern, depth } :: group.items, repeatable := true }

def bar (group : Group) : Group :=
  { group with
    branches := .combine sequence group.items.reverse :: group.branches, items := [],
    repeatable := false }

def close (group : Group) : Item :=
  let item := Item.combine choice group.bar.branches.reverse
  match group.number with
  | some number => { item with pattern := .group number item.pattern }
  | none => item

end Group

/-- The groups that are open, the innermost one first, and how many groups have got a number. -/
structure Reading where
  inner : Group := {}
  outer : List Group := []
  numbered : Nat := 0

namespace Reading

def bracketPattern (items : List (List Text.CodeRange)) (negated ignoreCase : Bool) : Pattern :=
  let listed := Text.unionOf items.flatten
  let listed := if ignoreCase then Text.ignoringCase listed else listed
  ofSet (if negated then Text.complement listed else listed)

def next? (reading : Reading) (token : Token) : Option Reading :=
  let inner := reading.inner
  let flags := inner.flags
  let add := fun pattern depth => some { reading with inner := inner.add pattern depth }
  match token with
  | .char c => add (if flags.ignoreCase then inAnyCase c else literal [c]) 0
  | .set ranges => add (ofSet ranges) 0
  | .bracket items negated =>
    add (bracketPattern items negated flags.ignoreCase) (if items.length ≤ 1 then 1 else 2)
  | .dot =>
    let skipped := if flags.dotAll then [] else [Text.CodeRange.single '\n'.toNat]
    add (ofSet (Text.complement skipped)) 0
  | .lineStart => add (.place (if flags.multiLine then .lineStart else .textStart)) 0
  | .lineEnd => add (.place (if flags.multiLine then .lineEnd else .textEnd)) 0
  | .place p => add (.place p) 0
  | .opening isNumbered change =>
    let numbered := if isNumbered then reading.numbered + 1 else reading.numbered
    some
      { inner := { flags := change flags, number := if isNumbered then some numbered else none },
        outer := inner :: reading.outer, numbered }
  | .closing =>
    match reading.outer with
    | [] => none
    | around :: outer =>
      let item := inner.close
      some { reading with inner := around.add item.pattern (item.depth + 1), outer }
  | .bar => some { reading with inner := inner.bar }
  | .quantifier least most lazily =>
    match inner.repeatable, inner.items with
    | true, item :: items =>
      let pattern := repetition item.pattern least most (lazily != flags.swapLazy)
      let inner := { inner with items := { pattern, depth := item.depth + 1 } :: items }
      some { reading with inner }
    | _, _ => none
  | .flags change =>
    let inner := { inner.add .empty 0 with flags := change flags, repeatable := false }
    some { reading with inner }

def result? (reading : Reading) : Option Item :=
  if reading.outer.isEmpty then some reading.inner.close else none

end Reading

def depthLimit : Nat := 250

/-- The pattern that a text stands for, if it stands for one. -/
def read? (text : String) : Option Pattern := do
  let tokens ← Token.readAll? text.toList.length [] text.toList
  let reading ← tokens.foldlM Reading.next? {}
  let item ← reading.result?
  if item.depth ≤ depthLimit && item.pattern.fits then some item.pattern else none

end ColumnRoles.Pattern
