import ColumnRoles.Json.Fields
import ColumnRoles.Report

/-!
Reports as JSON values, written and read. Decisions are written as a list, and read back under the
column that each one names.
-/
namespace ColumnRoles

open Json (Slot slots?)

def ColumnRef.toJson (ref : ColumnRef) : Json :=
  .ofMembers [("table_name", .ofText ref.table), ("column_name", .ofText ref.column)]

def ColumnRef.ofJson? (value : Json) : Option ColumnRef := do
  match ← slots? ["table_name", "column_name"] value with
  | [table, column] =>
    some { table := ← table.required Json.text?, column := ← column.required Json.text? }
  | _ => none

def Role.ofJson? : Json → Option Role :=
  Json.named? Json.isNull Role.ofName?

def Confidence.ofJson? : Json → Option Confidence :=
  Json.named? Json.isNull Confidence.ofName?

def Signal.toJson (signal : Signal) : Json :=
  .ofMembers
    [("column", signal.column.toJson), ("type_node", .ofText signal.role.name),
      ("confidence", .ofText signal.confidence.name),
      ("is_complimentary", .bool signal.complimentary), ("reason", .ofText signal.reason)]

def Signal.ofJson? (value : Json) : Option Signal := do
  match ← slots? ["column", "type_node", "confidence", "is_complimentary", "reason"] value with
  | [column, role, confidence, complimentary, reason] =>
    some
      { column := ← column.required ColumnRef.ofJson?
        role := ← role.required Role.ofJson?
        confidence := ← confidence.required Confidence.ofJson?
        complimentary := ← complimentary.required Json.bool?
        reason := ← reason.required Json.text? }
  | _ => none

namespace Resolution

def toJson : Resolution → Json
  | resolved role => .ofMembers [("status", .ofText "resolved"), ("value", .ofText role.name)]
  | unresolved cause =>
    .ofMembers [("status", .ofText "unresolved"), ("value", .ofText cause.name)]

def status? (name : String) : Option Bool :=
  if name = "resolved" then some true
  else if name = "unresolved" then some false
  else none

def ofValue? (isUnit : Json → Bool) (isResolved : Bool) (value : Json) : Option Resolution :=
  if isResolved then (Json.named? isUnit Role.ofName? value).map resolved
  else (Json.named? isUnit Unresolved.ofName? value).map unresolved

/-- In a list the status is a plain name. In a record it may be written as any name may, and a
value that comes before its status is read with the more indulgent notion of no value. -/
def ofJson? : Json → Option Resolution
  | .list [status, value] => do
    ofValue? Json.isNull (← status? (← Json.text? status)) value
  | .record members =>
    if members.all (·.1.isSome) then
      match members.filter fun m => m.1 = some "status" ∨ m.1 = some "value" with
      | [(some "status", status), (some "value", value)] => do
        ofValue? Json.isNull (← Json.named? Json.isNull status? status) value
      | [(some "value", value), (some "status", status)] => do
        ofValue? Json.isNullOrEmpty (← Json.named? Json.isNull status? status) value
      | _ => none
    else none
  | _ => none

end Resolution

namespace Decision

def toJson (decision : Decision) : Json :=
  .ofMembers
    ([("column", decision.column.toJson), ("resolution", decision.resolution.toJson)] ++
      (match decision.confidence with
        | some confidence => [("confidence", .ofText confidence.name)]
        | none => []) ++
      (if decision.reasons.isEmpty then []
        else [("reasons", .list (decision.reasons.map .ofText))]) ++
      (if decision.problems.isEmpty then []
        else [("problems", .list (decision.problems.map .ofText))]) ++
      [("signals", .list (decision.signals.map Signal.toJson))])

def ofJson? (value : Json) : Option Decision := do
  match ←
    slots? ["column", "resolution", "confidence", "reasons", "problems", "signals"] value with
  | [column, resolution, confidence, reasons, problems, signals] =>
    some
      { column := ← column.required ColumnRef.ofJson?
        resolution := ← resolution.required Resolution.ofJson?
        confidence := ← confidence.optional Confidence.ofJson?
        reasons := ← reasons.orElse [] (Json.list? Json.text?)
        problems := ← problems.orElse [] (Json.list? Json.text?)
        signals := ← signals.orElse [] (Json.list? Signal.ofJson?) }
  | _ => none

end Decision

namespace RuleFailure

def toJson (failure : RuleFailure) : Json :=
  .ofMembers
    ([("rule", .ofText failure.rule)] ++
      (match failure.column with
        | some column => [("column", column.toJson)]
        | none => []) ++
      [("message", .ofText failure.message)])

def ofJson? (value : Json) : Option RuleFailure := do
  match ← slots? ["rule", "column", "message"] value with
  | [rule, column, message] =>
    some
      { rule := ← rule.required Json.text?
        column := ← column.optional ColumnRef.ofJson?
        message := ← message.required Json.text? }
  | _ => none

end RuleFailure

namespace Report

def toJson (report : Report) : Json :=
  .ofMembers
    [("decisions", .list (report.decisions.values.map Decision.toJson)),
      ("failures", .list (report.failures.map RuleFailure.toJson)),
      ("signal_count", .ofNat report.signalCount), ("rule_count", .ofNat report.ruleCount)]

def file (decisions : List Decision) : OrderedMap ColumnRef Decision :=
  .ofList (decisions.map fun d => (d.column, d))

def ofJson? (value : Json) : Option Report := do
  match ← slots? ["decisions", "failures", "signal_count", "rule_count"] value with
  | [decisions, failures, signalCount, ruleCount] =>
    some
      { decisions := file (← decisions.required (Json.list? Decision.ofJson?))
        failures := ← failures.required (Json.list? RuleFailure.ofJson?)
        signalCount := (← signalCount.required Json.count?).toNat
        ruleCount := (← ruleCount.required Json.count?).toNat }
  | _ => none

end Report

end ColumnRoles
