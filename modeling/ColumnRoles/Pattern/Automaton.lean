import ColumnRoles.Pattern.Draft
import ColumnRoles.Pattern.Simplify

/-!
How large the automata of a pattern are. A pattern is matched by two automata over bytes, one that
reads a text forwards and one that reads it backwards from the end of a match to its beginning. A
pattern is of use only if both keep to the limit.
-/
namespace ColumnRoles.Pattern

inductive Direction where
  | forward
  | backward
deriving DecidableEq, Repr

/-- The least number of characters that a match takes up, unless a part of the pattern can never
match. -/
def leastLength? : Pattern → Option Nat
  | empty | place _ => some 0
  | literal text => some text.length
  | one set => if set.isEmpty then none else some 1
  | group _ inner => inner.leastLength?
  | seq first second => do
    let n ← first.leastLength?
    let m ← second.leastLength?
    some (n + m)
  | either left right => do
    let n ← left.leastLength?
    let m ← right.leastLength?
    some (min n m)
  | repeated inner least _ _ => inner.leastLength?.map (least * ·)

def takesUp (pattern : Pattern) : Bool :=
  pattern.leastLength?.any (0 < ·)

/-- A match can begin only where reading begins: at the start of the text or, backwards, at its
end. -/
def anchored (direction : Direction) : Pattern → Bool
  | empty | literal _ | one _ => false
  | place p =>
    match direction with
    | .forward => p = .textStart
    | .backward => p = .textEnd
  | group _ inner => inner.anchored direction
  | seq first second =>
    match direction with
    | .forward => first.anchored direction || (first.onlyEmpty && second.anchored direction)
    | .backward => second.anchored direction || (second.onlyEmpty && first.anchored direction)
  | either left right => left.anchored direction && right.anchored direction
  | repeated inner least _ _ => least ≠ 0 && inner.anchored direction

/-- The last state of a pattern is one that can still go on inside it, so that what follows is one
more alternative of that state. -/
def endsOpen (direction : Direction) : Pattern → Bool
  | empty | literal _ | one _ | place _ | either _ _ => false
  | group _ inner =>
    match direction with
    | .forward => false
    | .backward => inner.endsOpen direction
  | seq first second =>
    match direction with
    | .forward => second.endsOpen direction
    | .backward => first.endsOpen direction
  | repeated inner least most _ =>
    match most with
    | none => least ≠ 0 || inner.takesUp
    | some most => least = most && inner.endsOpen direction

def openEnds (direction : Direction) (pattern : Pattern) (n : Nat) : Nat :=
  if pattern.endsOpen direction then n else 0

def bytesOf (direction : Direction) (text : List Char) : List Nat :=
  let bytes := text.flatMap fun c => Text.encodeCode c.toNat
  match direction with
  | .forward => bytes
  | .backward => bytes.reverse

def literal? : Pattern → Option (List Char)
  | literal text => some text
  | _ => none

def words? (direction : Direction) (pattern : Pattern) : Option (List (List Nat)) :=
  match pattern with
  | either _ _ => (pattern.branches.mapM literal?).map (·.map (bytesOf direction))
  | _ => none

abbrev Growth := Draft → Option Draft

def joined (direction : Direction) (pattern : Pattern) (branchGrowths : List Growth) : Growth :=
  match words? direction pattern with
  | some words => fun draft => do
    let draft ← draft.addStates 1
    draft.addWords ((words.map List.length).foldl max 0 + 1) words
  | none =>
    match branchGrowths with
    | first :: second :: others => fun draft => do
      let draft ← first draft
      let draft ← second draft
      let draft ← draft.addStates 2
      let draft ← others.foldlM (fun draft grow => grow draft) draft
      let ends := pattern.branches.countP (·.endsOpen direction)
      draft.addAlternatives (pattern.branches.length + ends)
    | growths => fun draft => growths.foldlM (fun draft grow => grow draft) draft

def setGrowth (direction : Direction) (set : List Text.CodeRange) : Growth :=
  if set.all (·.2 < 0x80) then Draft.addBytes set
  else
    let sequences := Text.byteSequences set
    match direction with
    | .forward => Draft.addForward sequences
    | .backward => Draft.addBackward sequences

def repeatedGrowth (direction : Direction) (inner : Pattern) (grow : Growth) (least : Nat)
    (most : Option Nat) : Growth := fun draft =>
  let ends := openEnds direction inner
  match least, most with
  | 0, none =>
    if inner.takesUp then do
      let draft ← draft.addStates 1
      let draft ← grow draft
      draft.addAlternatives (1 + ends 1)
    else do
      let draft ← grow draft
      let draft ← draft.addStates 3
      draft.addAlternatives (4 + ends 1)
  | least, none => do
    let draft ← Draft.times grow least draft
    let draft ← draft.addStates 1
    draft.addAlternatives (1 + ends least)
  | 0, some 1 => do
    let draft ← draft.addStates 1
    let draft ← grow draft
    let draft ← draft.addStates 1
    draft.addAlternatives (2 + ends 1)
  | least, some most => do
    let draft ← if least = 0 then draft.addStates 1 else Draft.times grow least draft
    if least = most then draft.addAlternatives (ends (least - 1))
    else
      let optional := fun (draft : Draft) => do
        let draft ← draft.addStates 1
        let draft ← grow draft
        draft.addAlternatives 2
      let draft ← draft.addStates 1
      let draft ← Draft.times optional (most - least) draft
      draft.addAlternatives (ends most)

def branchGrowths (direction : Direction) : Pattern → List Growth
  | empty | place _ => [Draft.addStates 1]
  | literal text => [Draft.addStates (bytesOf direction text).length]
  | one set => [setGrowth direction set]
  | group _ inner =>
    let grow := joined direction inner (inner.branchGrowths direction)
    match direction with
    | .forward =>
      [fun draft => do
        let draft ← draft.addStates 1
        let draft ← grow draft
        let draft ← draft.addStates 1
        draft.addAlternatives (openEnds direction inner 1)]
    | .backward => [grow]
  | seq first second =>
    let growFirst := joined direction first (first.branchGrowths direction)
    let growSecond := joined direction second (second.branchGrowths direction)
    match direction with
    | .forward =>
      [fun draft => do
        let draft ← growFirst draft
        let draft ← growSecond draft
        draft.addAlternatives (openEnds direction first 1)]
    | .backward =>
      [fun draft => do
        let draft ← growSecond draft
        let draft ← growFirst draft
        draft.addAlternatives (openEnds direction second 1)]
  | either left right => left.branchGrowths direction ++ right.branchGrowths direction
  | repeated inner least most _ =>
    let grow := joined direction inner (inner.branchGrowths direction)
    [repeatedGrowth direction inner grow least most]

/-- The states before those of the pattern: none of substance if it is anchored, and otherwise a
loop over any bytes, one alternative of which goes on to the pattern. -/
def addLead (direction : Direction) (pattern : Pattern) : Option Draft :=
  if pattern.anchored direction then ({} : Draft).addStates 1
  else do
    let draft ← ({} : Draft).addStates 3
    let draft ← draft.addTransitions 1
    draft.addAlternatives 2

/-- The automaton of a pattern, which counts as the group of number zero. -/
def automaton? (direction : Direction) (pattern : Pattern) : Option Draft := do
  let whole := group 0 pattern
  let draft ← addLead direction pattern
  let draft ← joined direction whole (whole.branchGrowths direction) draft
  let draft ← draft.addStates 1
  draft.addAlternatives (openEnds direction whole 1)

def fits (pattern : Pattern) : Bool :=
  (automaton? .backward pattern).isSome && (automaton? .forward pattern).isSome

end ColumnRoles.Pattern
