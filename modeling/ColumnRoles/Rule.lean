import ColumnRoles.Signal
import ColumnRoles.Warehouse
import ColumnRoles.Text.Inspect

/-!
Rules. A rule looks at a warehouse and emits signals about the columns it recognises. Rules may be
given by anyone, so one may refuse, with a fault, and one may break off altogether; neither stops
the others. A matcher judges every column by itself, and where its test breaks off on one column
it keeps what it found about the rest.
-/
namespace ColumnRoles

/-- What is left of a computation that broke off. -/
inductive Crash where
  | text (message : String)
  /-- Something was left behind that is no text. -/
  | untold
deriving DecidableEq, Repr

namespace Crash

def message : Crash → String
  | text message => message
  | untold => "unknown panic payload"

def report (crash : Crash) : String :=
  let message := crash.message
  s!"rule panicked: {message}"

end Crash

/-- A complaint of a rule, about one column or about none in particular. -/
structure RuleFault where
  column : Option ColumnRef
  message : String
deriving DecidableEq, Repr

/-- What a rule found, and where it failed. -/
structure Evaluation where
  signals : List Signal
  faults : List RuleFault
deriving DecidableEq, Repr

namespace Evaluation

def ofResult : Except RuleFault (List Signal) → Evaluation
  | .ok signals => { signals, faults := [] }
  | .error fault => { signals := [], faults := [fault] }

def toResult (evaluation : Evaluation) : Except RuleFault (List Signal) :=
  match evaluation.faults with
  | [] => .ok evaluation.signals
  | fault :: _ => .error fault

end Evaluation

/-- A test of single columns, and the signal that each column passing it gets. -/
structure ColumnMatcher where
  name : String
  role : Role
  confidence : Confidence
  complimentary : Bool := false
  reason : String
  test : ColumnProfile → Except Crash Bool

namespace ColumnMatcher

def signal? (matcher : ColumnMatcher) (profile : ColumnProfile) : Option Signal :=
  match matcher.test profile with
  | .ok true =>
    some
      { column := profile.ref, role := matcher.role, confidence := matcher.confidence,
        complimentary := matcher.complimentary, reason := matcher.reason }
  | _ => none

def fault? (matcher : ColumnMatcher) (profile : ColumnProfile) : Option RuleFault :=
  match matcher.test profile with
  | .error crash => some { column := some profile.ref, message := crash.report }
  | .ok _ => none

def evaluate (matcher : ColumnMatcher) (warehouse : Warehouse) : Evaluation :=
  { signals := warehouse.columns.filterMap matcher.signal?,
    faults := warehouse.columns.filterMap matcher.fault? }

def inspect (matcher : ColumnMatcher) : String :=
  let name := Text.inspect matcher.name
  let role := matcher.role.tag
  let confidence := matcher.confidence.tag
  let complimentary := if matcher.complimentary then "true" else "false"
  s!"ColumnMatcherRule \x7b name: {name}, type_node: {role}, confidence: {confidence}, " ++
    s!"is_complimentary: {complimentary}, .. \x7d"

end ColumnMatcher

/-- A matcher of the columns whose values repeat: distinct values per row at most `threshold`. -/
structure LowCardinality where
  name : String
  threshold : Float
  role : Role
  confidence : Confidence
  complimentary : Bool := false

namespace LowCardinality

def accepts (rule : LowCardinality) (profile : ColumnProfile) : Bool :=
  profile.hasLowCardinality rule.threshold

def reason (rule : LowCardinality) : String :=
  let threshold := Decimal.text rule.threshold
  s!"Column cardinality ratio (distinct / rows) is at most {threshold}"

def matcher (rule : LowCardinality) : ColumnMatcher :=
  { name := rule.name, role := rule.role, confidence := rule.confidence,
    complimentary := rule.complimentary, reason := rule.reason,
    test := fun profile => .ok (rule.accepts profile) }

end LowCardinality

/-- A rule given by someone else: it may do anything, and `evaluate` may keep more than `process`
does. -/
structure CustomRule where
  name : String
  process : Warehouse → Except Crash (Except RuleFault (List Signal))
  evaluate : Warehouse → Except Crash Evaluation :=
    fun warehouse => (process warehouse).map Evaluation.ofResult

inductive Rule where
  | matcher (matcher : ColumnMatcher)
  | lowCardinality (rule : LowCardinality)
  /-- The only time column of a table is its primary time dimension. -/
  | onlyTimeColumn
  | custom (rule : CustomRule)

structure RuleFailure where
  rule : String
  column : Option ColumnRef
  message : String
deriving DecidableEq, Repr

structure Outcome where
  signals : List Signal
  failures : List RuleFailure
deriving DecidableEq, Repr

namespace Rule

def onlyTimeColumnName : String := "primary-time-dimension-if-only-time"

def name : Rule → String
  | matcher m => m.name
  | lowCardinality r => r.name
  | onlyTimeColumn => onlyTimeColumnName
  | custom r => r.name

/-- The signal about a table's only time column; a table with none or several gets none. -/
def onlyTimeSignal? (table : Table) : Option Signal :=
  match table.columnsOfType .dateTime with
  | [only] =>
    some
      { column := only.ref, role := .dimensionPrimaryTime, confidence := .forSure,
        complimentary := false, reason := "The column is the only time column in its table" }
  | _ => none

def onlyTimeSignals (warehouse : Warehouse) : List Signal :=
  warehouse.tables.filterMap onlyTimeSignal?

def process (rule : Rule) (warehouse : Warehouse) :
    Except Crash (Except RuleFault (List Signal)) :=
  match rule with
  | matcher m => .ok (m.evaluate warehouse).toResult
  | lowCardinality r => .ok (r.matcher.evaluate warehouse).toResult
  | onlyTimeColumn => .ok (.ok (onlyTimeSignals warehouse))
  | custom r => r.process warehouse

def evaluate (rule : Rule) (warehouse : Warehouse) : Except Crash Evaluation :=
  match rule with
  | matcher m => .ok (m.evaluate warehouse)
  | lowCardinality r => .ok (r.matcher.evaluate warehouse)
  | onlyTimeColumn => .ok { signals := onlyTimeSignals warehouse, faults := [] }
  | custom r => r.evaluate warehouse

/-- What a rule finds within a run; one that breaks off has found nothing and has one fault. -/
def attempt (rule : Rule) (warehouse : Warehouse) : Evaluation :=
  match rule.evaluate warehouse with
  | .ok evaluation => evaluation
  | .error crash => { signals := [], faults := [{ column := none, message := crash.report }] }

def failure (rule : Rule) (fault : RuleFault) : RuleFailure :=
  { rule := rule.name, column := fault.column, message := fault.message }

def outcome (rule : Rule) (warehouse : Warehouse) : Outcome :=
  let evaluation := rule.attempt warehouse
  { signals := evaluation.signals, failures := evaluation.faults.map rule.failure }

end Rule

end ColumnRoles
