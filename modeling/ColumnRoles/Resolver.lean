import ColumnRoles.Decision

/-!
From the signals about one column to a decision. Definitive signals are taken tier by tier, most
confident first. In each tier a signal that conflicts with one already accepted is overruled; the
others are accepted if they agree among themselves, and otherwise the walk stops there. Accepted
signals never conflict, so their roles lie on one path, and the most specific of them is the base
of the decision. Complimentary signals that no definitive one contradicts may deepen it, by the
same walk. Nothing is decided by the order of signals or by their number.
-/
namespace ColumnRoles.Resolver

def Compatible (signals : List Signal) : Prop :=
  signals.Pairwise fun a b => ¬a.Conflicts b

instance (signals : List Signal) : Decidable (Compatible signals) :=
  inferInstanceAs (Decidable (signals.Pairwise fun a b => ¬a.Conflicts b))

/-- What a walk through the tiers makes of its signals. Those below a tie are not looked at. -/
structure Chain where
  /-- Signals that agree with each other. -/
  accepted : List Signal
  /-- Signals that conflict with one accepted at a higher tier. -/
  overruled : List Signal
  /-- The signals of the tier that contradicts itself, if one does. -/
  tied : List Signal
deriving DecidableEq, Repr

namespace Chain

def empty : Chain :=
  { accepted := [], overruled := [], tied := [] }

def Admits (chain : Chain) (signal : Signal) : Prop :=
  ∀ a ∈ chain.accepted, ¬a.Conflicts signal

instance (chain : Chain) (signal : Signal) : Decidable (chain.Admits signal) :=
  inferInstanceAs (Decidable (∀ a ∈ chain.accepted, ¬a.Conflicts signal))

/-- Go on with the given tiers, and stop at the first that contradicts itself. -/
def descend (signals : List Signal) (chain : Chain) : List Confidence → Chain
  | [] => chain
  | tier :: lower =>
    let here := signals.filter (·.confidence = tier)
    let fitting := here.filter fun s => chain.Admits s
    let overruled := chain.overruled ++ here.filter fun s => ¬chain.Admits s
    if Compatible fitting then
      descend signals { chain with accepted := chain.accepted ++ fitting, overruled } lower
    else { chain with overruled, tied := fitting }

def walk (signals : List Signal) : Chain :=
  descend signals empty Confidence.descending

end Chain

/-- Keys are compared by their first part, and by the second where the first is the same. -/
def KeyLess (a b : Nat × Nat) : Prop :=
  a.1 < b.1 ∨ (a.1 = b.1 ∧ a.2 < b.2)

instance (a b : Nat × Nat) : Decidable (KeyLess a b) :=
  inferInstanceAs (Decidable (a.1 < b.1 ∨ (a.1 = b.1 ∧ a.2 < b.2)))

def firstGreatest (key : Signal → Nat × Nat) : List Signal → Option Signal
  | [] => none
  | first :: rest =>
    some (rest.foldl (fun best s => if KeyLess (key best) (key s) then s else best) first)

/-- The signal of the deepest role; among these the most confident, and then the first. -/
def mostSpecific (signals : List Signal) : Option Signal :=
  firstGreatest (fun s => (s.role.depth, s.confidence.rank)) signals

def mostConfident (signals : List Signal) : Option Signal :=
  firstGreatest (fun s => (s.confidence.rank, s.role.depth)) signals

def Contradicted (signals : List Signal) (signal : Signal) : Prop :=
  ¬signal.Definitive ∧ ∃ d ∈ signals, d.Definitive ∧ d.Conflicts signal

instance (signals : List Signal) (signal : Signal) : Decidable (Contradicted signals signal) :=
  inferInstanceAs
    (Decidable (¬signal.Definitive ∧ ∃ d ∈ signals, d.Definitive ∧ d.Conflicts signal))

/-- The reasons of the signals that a role bears out, the contradicted ones left out. -/
def supportingReasons (signals : List Signal) (role : Role) : List String :=
  (signals.filter fun s => role.Refines s.role ∧ ¬Contradicted signals s).map (·.reason)

def settle (column : ColumnRef) (signals : List Signal) (winner : Signal)
    (problems : List String) : Decision :=
  { column, resolution := .resolved winner.role, confidence := some winner.confidence,
    reasons := supportingReasons signals winner.role, problems, signals }

/-- Without definitive evidence, complimentary signals that agree are believed. -/
def solveComplimentary (column : ColumnRef) (signals : List Signal) : Decision :=
  if Compatible signals then
    match mostConfident signals with
    | some winner => settle column signals winner []
    | none =>
      { Decision.unresolved column .noSignals signals with
        problems := ["No rule produced a signal for this column"] }
  else
    let all := describeAll signals
    { Decision.unresolved column .conflictingComplimentary signals with
      problems :=
        [s!"Complimentary signals disagree and no definitive signal settles them: {all}"] }

def ignoredProblem (signal : Signal) : String :=
  let signal := signal.describe
  s!"Ignored complimentary {signal}: contradicted by definitive evidence"

def overruledProblem (signal : Signal) : String :=
  let signal := signal.describe
  s!"Overruled {signal}"

def stoppedProblems (base : Role) (tied : List Signal) : List String :=
  if tied = [] then []
  else
    let base := base.name
    let tied := describeAll tied
    [s!"Stopped refining at {base}: equally confident signals disagree: {tied}"]

def refinementProblems (base : Role) (refined : Chain) : List String :=
  (refined.overruled.map fun s =>
      let signal := s.describe
      s!"Overruled complimentary {signal}") ++
    if refined.tied = [] then []
    else
      let base := base.name
      let tied := describeAll refined.tied
      [s!"Complimentary refinements of {base} disagree: {tied}"]

/-- The complimentary signals that no definitive one contradicts and that are strictly more
specific than the base. -/
def refinements (signals : List Signal) (base : Role) : List Signal :=
  signals.filter fun s =>
    ¬s.Definitive ∧ ¬Contradicted signals s ∧ s.role.StrictlyRefines base

/-- Definitive evidence decides, and complimentary evidence may deepen the decision. -/
def solveDefinitive (column : ColumnRef) (signals : List Signal) : Decision :=
  let ignored := (signals.filter fun s => Contradicted signals s).map ignoredProblem
  let chain := Chain.walk (signals.filter fun s => s.Definitive)
  let losses := ignored ++ chain.overruled.map overruledProblem
  match mostSpecific chain.accepted with
  | none =>
    let tied := describeAll chain.tied
    { Decision.unresolved column .tiedDefinitive signals with
      problems := losses ++ [s!"Equally confident definitive signals disagree: {tied}"] }
  | some base =>
    let refined := Chain.walk (refinements signals base.role)
    settle column signals ((mostSpecific refined.accepted).getD base)
      (losses ++ stoppedProblems base.role chain.tied ++ refinementProblems base.role refined)

/-- The decision about a column, given every signal about it in the order of emission. -/
def solve (column : ColumnRef) (signals : List Signal) : Decision :=
  if ∃ s ∈ signals, s.Definitive then solveDefinitive column signals
  else solveComplimentary column signals

end ColumnRoles.Resolver
