import ColumnRoles.Text.ByteRange
import Std.Data.TreeMap.Basic

/-!
An automaton under construction, of which only the size is kept. Its states are numbered in the
order in which they are made, and it may not grow beyond a limit. States with the same transitions
are shared as far as a small table remembers them.
-/
namespace ColumnRoles.Pattern

structure Draft where
  states : Nat := 0
  links : Nat := 0
deriving DecidableEq, Repr

namespace Draft

def stateSize : Nat := 32

def transitionSize : Nat := 8

def alternativeSize : Nat := 4

/-- The memory that one automaton may take: ten mebibytes. -/
def limit : Nat := 0xA00000

def size (draft : Draft) : Nat :=
  stateSize * draft.states + draft.links

def checked (draft : Draft) : Option Draft :=
  if draft.size ≤ limit then some draft else none

def addStates (n : Nat) (draft : Draft) : Option Draft :=
  checked { draft with states := draft.states + n }

def addTransitions (n : Nat) (draft : Draft) : Option Draft :=
  checked { draft with links := draft.links + transitionSize * n }

def addAlternatives (n : Nat) (draft : Draft) : Option Draft :=
  checked { draft with links := draft.links + alternativeSize * n }

def times (grow : Draft → Option Draft) : Nat → Draft → Option Draft
  | 0, draft => some draft
  | n + 1, draft =>
    match grow draft with
    | some draft => times grow n draft
    | none => none

end Draft

def slotOf (size : Nat) (key : List Nat) : Nat :=
  let hash := key.foldl (fun hash n => (hash ^^^ UInt64.ofNat n) * 0x100000001B3) 0xCBF29CE484222325
  hash.toNat % size

/-- A draft and a table of states that can be shared: for some slots the key that was put there
last and the number of its state. -/
structure SharedDraft where
  draft : Draft
  table : Std.TreeMap Nat (List Nat × Nat) := {}

namespace SharedDraft

def make (slot transitions : Nat) (key : List Nat) (shared : SharedDraft) :
    Option (Nat × SharedDraft) := do
  let number := shared.draft.states
  let draft ← shared.draft.addStates 1
  let draft ← draft.addTransitions transitions
  some (number, { draft, table := shared.table.insert slot (key, number) })

def state (size transitions : Nat) (key : List Nat) (shared : SharedDraft) :
    Option (Nat × SharedDraft) :=
  let slot := slotOf size key
  match shared.table[slot]? with
  | some (known, number) =>
    if known = key then some (number, shared) else shared.make slot transitions key
  | none => shared.make slot transitions key

def addAlternatives (n : Nat) (shared : SharedDraft) : Option SharedDraft :=
  (shared.draft.addAlternatives n).map fun draft => { shared with draft }

def forwardSlots : Nat := 10000

def backwardSlots : Nat := 1000

/-- The state from which sequences of byte ranges, of a limited length, lead to the state `target`.
Sequences that begin with the same range go on from one state. A state is made after those it leads
to, and it is known by its transitions. -/
def descend (target : Nat) : Nat → List (List Text.ByteRange) → SharedDraft →
    Option (Nat × SharedDraft)
  | 0, _, shared => some (target, shared)
  | length + 1, sequences, shared =>
    if sequences.all List.isEmpty then some (target, shared)
    else do
      let groups := sequences.splitBy fun s t => s.head? == t.head?
      let (key, shared) ← groups.foldlM (fun (key, shared) group => do
        let (next, shared) ← descend target length (group.map List.tail) shared
        let range := (group.head?.bind List.head?).getD (0, 0)
        some (key ++ [range.1, range.2, next], shared)) ([], shared)
      shared.state forwardSlots groups.length key

/-- The states that read one sequence of byte ranges against its direction and end in the state
`target`, with one more alternative that leads to them. A state is known by its range and by where
it leads. -/
def ascend (target : Nat) (sequence : List Text.ByteRange) (shared : SharedDraft) :
    Option SharedDraft := do
  let (_, shared) ← sequence.foldlM (fun (next, shared) range =>
    shared.state backwardSlots 0 [next, range.1, range.2]) (target, shared)
  shared.addAlternatives 1

end SharedDraft

namespace Draft

def addBytes (ranges : List Text.CodeRange) (draft : Draft) : Option Draft := do
  let draft ← draft.addStates 2
  draft.addTransitions ranges.length

def maxBytes : Nat := 4

def addForward (sequences : List (List Text.ByteRange)) (draft : Draft) : Option Draft := do
  let target := draft.states
  let draft ← draft.addStates 1
  let (_, shared) ← SharedDraft.descend target (maxBytes + 1) sequences { draft }
  some shared.draft

def addBackward (sequences : List (List Text.ByteRange)) (draft : Draft) : Option Draft := do
  let target := draft.states + 1
  let draft ← draft.addStates 2
  let shared ← sequences.foldlM (fun shared s => SharedDraft.ascend target s shared) { draft }
  some shared.draft

/-- The states for a choice between words of a limited length that share what they begin with. The
words that go on are taken in chunks, which end where one of the words does; what stands in a later
chunk is not shared with an earlier one. -/
def addWords : Nat → List (List Nat) → Draft → Option Draft
  | 0, _, draft => some draft
  | length + 1, words, draft => do
    let chunks := (words.splitBy fun v w => v.isEmpty == w.isEmpty).filter (!·.all List.isEmpty)
    let leading := (words.takeWhile List.isEmpty).length
    let later := (words.drop leading).countP List.isEmpty
    let draft ← chunks.foldlM (fun draft chunk => do
      let heads := (chunk.filterMap List.head?).eraseDups
      let draft ← heads.foldlM (fun draft head =>
        let rests := (chunk.filter (·.head? == some head)).map List.tail
        if rests.all List.isEmpty then some draft else addWords length rests draft) draft
      let draft ← draft.addStates 1
      draft.addTransitions (if heads.length = 1 then 0 else heads.length)) draft
    let draft ← draft.addStates 1
    draft.addAlternatives (chunks.length + min leading 1 + later)

end Draft

end ColumnRoles.Pattern
