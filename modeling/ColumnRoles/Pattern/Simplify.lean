import ColumnRoles.Pattern
import ColumnRoles.Text.Fold

/-!
Building patterns in their simplest form. Sequences are flat, hold nothing empty and no two
literals next to each other; a choice between single characters is one set; what all branches of a
choice begin with stands before it. None of this changes what a pattern matches, but it is the form
by which the size of a pattern is judged.
-/
namespace ColumnRoles.Pattern

def parts : Pattern → List Pattern
  | empty => []
  | seq first second => first.parts ++ second.parts
  | p => [p]

def branches : Pattern → List Pattern
  | either left right => left.branches ++ right.branches
  | p => [p]

def prepend : Pattern → List Pattern → List Pattern
  | literal text, literal more :: rest => literal (text ++ more) :: rest
  | p, rest => p :: rest

def ofParts : List Pattern → Pattern
  | [] => empty
  | [p] => p
  | p :: rest => seq p (ofParts rest)

def sequence (patterns : List Pattern) : Pattern :=
  ofParts ((patterns.flatMap parts).foldr prepend [])

def reachAll (text : List Char) (patterns : List Pattern) (marks : Marks) : Marks :=
  patterns.foldl (fun marks p => p.reach text marks) marks

theorem reachAll_parts (text : List Char) (p : Pattern) (marks : Marks) :
    reachAll text p.parts marks = p.reach text marks := by
  induction p generalizing marks with
  | seq first second ihFirst ihSecond =>
    simp only [reachAll] at ihFirst ihSecond
    simp only [reachAll, parts, reach, List.foldl_append, ihFirst, ihSecond]
  | empty | literal | one | place | group | either | repeated => rfl

theorem reachAll_prepend (text : List Char) (p : Pattern) (rest : List Pattern) (marks : Marks) :
    reachAll text (prepend p rest) marks = reachAll text (p :: rest) marks := by
  unfold prepend
  split
  · simp only [reachAll, List.foldl_cons, reach, List.foldl_append]
  · rfl

theorem reach_ofParts (text : List Char) (patterns : List Pattern) (marks : Marks) :
    (ofParts patterns).reach text marks = reachAll text patterns marks := by
  induction patterns generalizing marks with
  | nil => rfl
  | cons p rest ih =>
    cases rest with
    | nil => rfl
    | cons q more => exact ih (p.reach text marks)

/-- A sequence in its simplest form matches what its patterns match one after the other. -/
theorem reach_sequence (text : List Char) (patterns : List Pattern) (marks : Marks) :
    (sequence patterns).reach text marks = reachAll text patterns marks := by
  have merged (ps : List Pattern) (marks : Marks) :
      reachAll text (ps.foldr prepend []) marks = reachAll text ps marks := by
    induction ps generalizing marks with
    | nil => rfl
    | cons p rest ih =>
      rw [List.foldr_cons, reachAll_prepend]
      exact ih (p.reach text marks)
  rw [sequence, reach_ofParts, merged]
  induction patterns generalizing marks with
  | nil => rfl
  | cons p rest ih =>
    rw [List.flatMap_cons, reachAll, List.foldl_append]
    exact (congrArg _ (reachAll_parts text p marks)).trans (ih (p.reach text marks))

def ofSet (set : List Text.CodeRange) : Pattern :=
  match set with
  | [(first, last)] => if first = last then literal [Char.ofNat first] else one set
  | set => one set

def inAnyCase (c : Char) : Pattern :=
  ofSet (Text.ignoringCase [.single c.toNat])

def singleCode? : Pattern → Option Text.CodeRange
  | literal [c] => some (.single c.toNat)
  | _ => none

def set? : Pattern → Option (List Text.CodeRange)
  | one set => some set
  | _ => none

def pickedFrom? (branches : List Pattern) : Option (List Text.CodeRange) :=
  (branches.mapM singleCode?).or ((branches.mapM set?).map List.flatten) |>.map Text.unionOf

def ofBranches : List Pattern → Pattern
  | [] => one []
  | [p] => p
  | p :: rest => either p (ofBranches rest)

def choiceOf (patterns : List Pattern) : Pattern :=
  let branches := patterns.flatMap branches
  match branches, pickedFrom? branches with
  | _ :: _ :: _, some set => ofSet set
  | _, _ => ofBranches branches

def commonStart : List Pattern → List Pattern → List Pattern
  | p :: rest, q :: more => if p = q then p :: commonStart rest more else []
  | _, _ => []

def sharedStart : List (List Pattern) → List Pattern
  | [] => []
  | first :: others => others.foldl commonStart first

/-- Any one of the patterns. If each branch is a sequence, what they share in front is taken out;
sequences that still share something cannot come to light by that, as they would have been taken
out of the branch in which they stand. -/
def choice (patterns : List Pattern) : Pattern :=
  let sequences := (patterns.flatMap branches).map parts
  let shared := sharedStart sequences
  if sequences.length ≤ 1 || shared.isEmpty || sequences.any (·.length ≤ 1) then
    choiceOf patterns
  else
    let rests := sequences.map fun parts => sequence (parts.drop shared.length)
    sequence (shared ++ [choiceOf rests])

def onlyEmpty : Pattern → Bool
  | empty | place _ => true
  | literal text => text.isEmpty
  | one _ => false
  | group _ inner | repeated inner _ _ _ => inner.onlyEmpty
  | seq first second => first.onlyEmpty && second.onlyEmpty
  | either left right => left.onlyEmpty && right.onlyEmpty

/-- The pattern as often as said; what takes up nothing need not be matched more than once. -/
def repetition (inner : Pattern) (least : Nat) (most : Option Nat) (lazily : Bool) : Pattern :=
  let (least, most) :=
    if inner.onlyEmpty then (min least 1, some (min (most.getD 1) 1)) else (least, most)
  match least, most with
  | 0, some 0 => empty
  | 1, some 1 => inner
  | least, most => repeated inner least most lazily

end ColumnRoles.Pattern
