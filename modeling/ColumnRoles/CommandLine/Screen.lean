import ColumnRoles.CommandLine.Style
import ColumnRoles.Engine

/-!
What the commands show to people, as lines. The table of decisions, with one row for each column,
is followed by a summary that counts the columns of each role.
-/
namespace ColumnRoles.CommandLine

def confidenceStyle : Confidence → Style
  | .forSure | .high => .green
  | .medium => .yellow
  | .low => .red

def shownDecisions (report : Report) (unresolvedOnly : Bool) : List Decision :=
  report.decisions.values.filter fun d => !unresolvedOnly || !d.isResolved

def decisionRow (color : Bool) (decision : Decision) : String :=
  let table := padRight 20 decision.column.table
  let column := padRight 24 decision.column.column
  let (outcome, confidence) :=
    match decision.resolution with
    | .resolved role =>
      (paint color .green (padRight 24 role.name),
        match decision.confidence with
        | some confidence => paint color (confidenceStyle confidence) confidence.label
        | none => "-")
    | .unresolved cause =>
      let label := cause.label
      (paint color .red (padRight 24 s!"UNRESOLVED ({label})"), "-")
  s!"  {table} {column} {outcome} {confidence}"

def evidenceLines (color : Bool) (decision : Decision) : List String :=
  let plus := paint color .green "+"
  let mark := paint color .yellow "!"
  (decision.reasons.map fun reason => s!"      {plus} {reason}") ++
    decision.problems.map fun problem => s!"      {mark} {problem}"

def decisionLines (color verbose : Bool) (decision : Decision) : List String :=
  decisionRow color decision :: if verbose then evidenceLines color decision else []

def headLines (color : Bool) (path : String) (outcome : FileReport) : List String :=
  let title := paint color .boldCyan "Inferring"
  let file := paint color .white path
  let number := fun (n : Nat) => paint color .boldWhite (toString n)
  let tables := number outcome.source.tableCount
  let columns := number outcome.source.columnCount
  let rules := number outcome.report.ruleCount
  let heading := fun (width : Nat) (name : String) => paint color .bold (padRight width name)
  let headings :=
    [heading 20 "TABLE", heading 24 "COLUMN", heading 24 "DECISION", heading 0 "CONFIDENCE"]
  [s!"{title} {file}", s!"{tables} tables, {columns} columns, {rules} rules", "",
    "  " ++ " ".intercalate headings]

def failureLine (failure : RuleFailure) : String :=
  match failure.column with
  | some column =>
    let column := column.text
    s!"  {failure.rule} ({column}): {failure.message}"
  | none => s!"  {failure.rule}: {failure.message}"

def failureLines (color : Bool) (failures : List RuleFailure) : List String :=
  if failures.isEmpty then []
  else ["", paint color .boldRed "Rule failures:"] ++ failures.map failureLine

def countLine (color : Bool) (style : Style) (name : String) (count : Nat) : String :=
  let name := padRight 24 name
  let count := paint color style (toString count)
  s!"  {name} {count}"

def summaryLines (color : Bool) (report : Report) : List String :=
  let unresolved := report.unresolved.length
  ["", paint color .boldYellow "Summary:"] ++
    (report.countsByRole.map fun (role, count) => countLine color .white role.name count) ++
    if 0 < unresolved then
      let option := paint color .boldCyan "--verbose"
      [countLine color .red "UNRESOLVED" unresolved, "",
        s!"Run with {option} to see why columns were left unresolved"]
    else ["", paint color .green "Every column was resolved."]

/-- Everything that is shown about the columns of a file. -/
def inferLines (color verbose unresolvedOnly : Bool) (path : String) (outcome : FileReport) :
    List String :=
  headLines color path outcome ++
    (shownDecisions outcome.report unresolvedOnly).flatMap (decisionLines color verbose) ++
    failureLines color outcome.report.failures ++ summaryLines color outcome.report

def numberedNames (names : List String) : List String :=
  names.zipIdx.map fun (name, i) =>
    let number := padLeft 2 (toString (i + 1))
    s!"  {number}. {name}"

/-- Everything that is shown about a ruleset. -/
def rulesLines (color verbose : Bool) (config : RulesetConfig) (rules : Ruleset) : List String :=
  let title := paint color .boldCyan "Active ruleset"
  let count := toString rules.length
  let disabled := config.disabledRules.map fun name => "  " ++ paint color .dimmed name
  let foreignIdentifierRatio := Decimal.text config.foreignIdentifierRatio
  let categoricalRatio := Decimal.text config.categoricalRatio
  s!"{title} ({count} rules)" :: numberedNames rules.names ++
    (if disabled.isEmpty then []
      else ["", paint color .boldYellow "Disabled:"] ++ disabled) ++
    if verbose then
      ["", paint color .boldYellow "Parameters:",
        s!"  foreign_identifier_ratio: {foreignIdentifierRatio}",
        s!"  categorical_ratio:        {categoricalRatio}",
        s!"  primary_time_pattern:     {config.primaryTimePattern}"]
    else []

end ColumnRoles.CommandLine
