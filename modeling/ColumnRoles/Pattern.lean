import ColumnRoles.Text.Table.WordPart

/-!
Patterns for column names, and when a name matches one. A pattern takes sets of positions in a text
to sets of positions: from the places where its match may start it reaches the places where it may
end. Sets of positions are rows of marks, so that every step looks at the text once, however many
ways lead to a position. A text matches when some position can be reached from any other.
-/
namespace ColumnRoles

inductive Place where
  | textStart
  | textEnd
  | lineStart
  | lineEnd
  /-- The edge of a word, or when negated any other place. -/
  | wordEdge (negated : Bool)
deriving DecidableEq, Repr

inductive Pattern where
  | empty
  | literal (text : List Char)
  | one (set : List Text.CodeRange)
  | place (place : Place)
  /-- What is matched inside counts as the group of this number. -/
  | group (number : Nat) (inner : Pattern)
  | seq (first second : Pattern)
  | either (left right : Pattern)
  /-- At least `least` times, and at most `most` times if there is a limit. Being lazy, it asks for
  the shortest match, which makes no difference to whether there is one. -/
  | repeated (inner : Pattern) (least : Nat) (most : Option Nat) (lazily : Bool)
deriving DecidableEq, Repr

/-- Marks on the positions of a text: before each of its characters and at its end. -/
abbrev Marks := List Bool

namespace Marks

def all (text : List Char) : Marks :=
  true :: text.map fun _ => true

def both (marks others : Marks) : Marks :=
  List.zipWith (· && ·) marks others

def union (marks others : Marks) : Marks :=
  List.zipWith (· || ·) marks others

def advance (test : Char → Bool) (text : List Char) (marks : Marks) : Marks :=
  false :: List.zipWith (fun mark c => mark && test c) marks text

def steps (next : Marks → Marks) : Nat → Marks → Marks
  | 0, marks => marks
  | n + 1, marks =>
    let more := next marks
    if more = marks then marks else steps next n more

def reached (next : Marks → Marks) : Nat → Marks → Marks
  | 0, marks => marks
  | n + 1, marks =>
    let more := marks.union (next marks)
    if more = marks then marks else reached next n more

end Marks

namespace Place

def isWordPart (c : Char) : Bool :=
  Text.inRanges Text.wordRanges c

/-- The positions of a text at which a place lies. The edge of a word lies where, of the characters
on the two sides, one belongs to a word. -/
def marks (text : List Char) : Place → Marks
  | textStart => true :: text.map fun _ => false
  | textEnd => (text.map fun _ => false) ++ [true]
  | lineStart => true :: text.map (· == '\n')
  | lineEnd => text.map (· == '\n') ++ [true]
  | wordEdge negated =>
    let inWord := text.map isWordPart
    List.zipWith (fun before after => (before != after) != negated) (false :: inWord)
      (inWord ++ [false])

end Place

namespace Pattern

/-- The positions at which a match that starts at a marked one can end. A step of a repetition
never goes back, so from as many steps on as there are positions nothing changes any more. -/
def reach (text : List Char) : Pattern → Marks → Marks
  | empty, marks => marks
  | literal chars, marks => chars.foldl (fun marks c => marks.advance (· == c) text) marks
  | one set, marks => marks.advance (Text.inRanges set) text
  | place p, marks => marks.both (p.marks text)
  | group _ inner, marks => inner.reach text marks
  | seq first second, marks => second.reach text (first.reach text marks)
  | either left right, marks => (left.reach text marks).union (right.reach text marks)
  | repeated inner least most _, marks =>
    let rounds := text.length + 1
    let further :=
      match most with
      | some most => min (most - least) rounds
      | none => rounds
    Marks.reached (inner.reach text) further
      (Marks.steps (inner.reach text) (min least rounds) marks)

def matchesText (pattern : Pattern) (text : String) : Bool :=
  (pattern.reach text.toList (Marks.all text.toList)).any id

end Pattern

end ColumnRoles
