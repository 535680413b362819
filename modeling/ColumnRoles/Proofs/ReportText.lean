import ColumnRoles.Proofs.Members
import ColumnRoles.Proofs.Reading
import ColumnRoles.Proofs.Run
import ColumnRoles.Report.Document

/-!
Reports as JSON values. Every part of a report is written as the record of its fields, with those
left out that are absent or empty, and each is read back by itself. Only the map of decisions is not
written as it is: the decisions stand in a list without their keys, and a reader files each under
the column that it names. For the report of a run this makes no difference, as the resolver decides
every column in its own name and the run decides no column twice.
-/
namespace ColumnRoles

open Json (Slot slots? ofFields)

theorem ColumnRef.toJson_eq (ref : ColumnRef) :
    ref.toJson = ofFields
      [("table_name", some (.ofText ref.table)), ("column_name", some (.ofText ref.column))] :=
  rfl

theorem ColumnRef.ofJson?_toJson (ref : ColumnRef) : ofJson? ref.toJson = some ref := by
  have hslots : slots? ["table_name", "column_name"] ref.toJson =
      some [.given (.ofText ref.table), .given (.ofText ref.column)] :=
    ref.toJson_eq ▸ Json.slots?_ofFields rfl (by decide)
  rw [ofJson?, hslots]
  rfl

theorem Signal.toJson_eq (signal : Signal) :
    signal.toJson = ofFields
      [("column", some signal.column.toJson), ("type_node", some (.ofText signal.role.name)),
        ("confidence", some (.ofText signal.confidence.name)),
        ("is_complimentary", some (.bool signal.complimentary)),
        ("reason", some (.ofText signal.reason))] :=
  rfl

theorem Role.ofJson?_ofText (role : Role) : ofJson? (.ofText role.name) = some role :=
  ofName?_name role

theorem Confidence.ofJson?_ofText (confidence : Confidence) :
    ofJson? (.ofText confidence.name) = some confidence :=
  ofName?_name confidence

theorem Signal.ofJson?_toJson (signal : Signal) : ofJson? signal.toJson = some signal := by
  have hslots : slots? ["column", "type_node", "confidence", "is_complimentary", "reason"]
      signal.toJson =
      some [.given signal.column.toJson, .given (.ofText signal.role.name),
        .given (.ofText signal.confidence.name), .given (.bool signal.complimentary),
        .given (.ofText signal.reason)] :=
    signal.toJson_eq ▸ Json.slots?_ofFields rfl (by decide)
  rw [ofJson?, hslots]
  simp only [Option.bind_eq_bind, Option.bind_some, Slot.required, ColumnRef.ofJson?_toJson,
    Role.ofJson?_ofText, Confidence.ofJson?_ofText]
  rfl

theorem Unresolved.ofName?_name (cause : Unresolved) : ofName? cause.name = some cause := by
  cases cause <;> decide

theorem Resolution.ofJson?_toJson (resolution : Resolution) :
    ofJson? resolution.toJson = some resolution := by
  cases resolution with
  | resolved role =>
    have hvalue : ofValue? Json.isNull true (.ofText role.name) = some (resolved role) :=
      congrArg (Option.map resolved) (Role.ofName?_name role)
    exact hvalue
  | unresolved cause =>
    have hvalue : ofValue? Json.isNull false (.ofText cause.name) = some (unresolved cause) :=
      congrArg (Option.map unresolved) (Unresolved.ofName?_name cause)
    exact hvalue

def Json.ofTexts? (texts : List String) : Option Json :=
  if texts = [] then none else some (.list (texts.map .ofText))

theorem Json.orElse_ofTexts? (texts : List String) :
    (Slot.ofOption (ofTexts? texts)).orElse [] (list? text?) = some texts := by
  by_cases hempty : texts = []
  · rw [ofTexts?, if_pos hempty, hempty]
    rfl
  · rw [ofTexts?, if_neg hempty]
    have htext : ∀ text, text? (ofText text) = some text := fun _ => rfl
    exact list?_map htext texts

def Decision.fields (decision : Decision) : List (String × Option Json) :=
  [("column", some decision.column.toJson), ("resolution", some decision.resolution.toJson),
    ("confidence", decision.confidence.map fun confidence => .ofText confidence.name),
    ("reasons", Json.ofTexts? decision.reasons), ("problems", Json.ofTexts? decision.problems),
    ("signals", some (.list (decision.signals.map Signal.toJson)))]

theorem Decision.toJson_eq (decision : Decision) : decision.toJson = ofFields decision.fields := by
  obtain ⟨column, resolution, confidence, reasons, problems, signals⟩ := decision
  cases confidence <;> cases reasons <;> cases problems <;> rfl

theorem Decision.ofJson?_toJson (decision : Decision) :
    ofJson? decision.toJson = some decision := by
  have hconfidence := Json.Slot.optional_ofOption Confidence.ofJson?_ofText
    (fun _ h => by cases h) decision.confidence
  have hsignals : (Slot.given (.list (decision.signals.map Signal.toJson))).orElse []
      (Json.list? Signal.ofJson?) = some decision.signals :=
    Json.list?_map Signal.ofJson?_toJson decision.signals
  have hslots : slots? ["column", "resolution", "confidence", "reasons", "problems", "signals"]
      decision.toJson =
      some [.given decision.column.toJson, .given decision.resolution.toJson,
        .ofOption (decision.confidence.map fun confidence => .ofText confidence.name),
        .ofOption (Json.ofTexts? decision.reasons), .ofOption (Json.ofTexts? decision.problems),
        .given (.list (decision.signals.map Signal.toJson))] :=
    decision.toJson_eq ▸ Json.slots?_ofFields rfl (by decide)
  rw [ofJson?, hslots]
  simp only [Option.bind_eq_bind, Option.bind_some, Slot.required, ColumnRef.ofJson?_toJson,
    Resolution.ofJson?_toJson, hconfidence, Json.orElse_ofTexts?, hsignals]

theorem RuleFailure.toJson_eq (failure : RuleFailure) :
    failure.toJson = ofFields
      [("rule", some (.ofText failure.rule)), ("column", failure.column.map ColumnRef.toJson),
        ("message", some (.ofText failure.message))] := by
  obtain ⟨rule, column, message⟩ := failure
  cases column <;> rfl

theorem RuleFailure.ofJson?_toJson (failure : RuleFailure) :
    ofJson? failure.toJson = some failure := by
  have hcolumn := Json.Slot.optional_ofOption ColumnRef.ofJson?_toJson
    (fun _ h => by cases h) failure.column
  have hslots : slots? ["rule", "column", "message"] failure.toJson =
      some [.given (.ofText failure.rule), .ofOption (failure.column.map ColumnRef.toJson),
        .given (.ofText failure.message)] :=
    failure.toJson_eq ▸ Json.slots?_ofFields rfl (by decide)
  rw [ofJson?, hslots]
  simp only [Option.bind_eq_bind, Option.bind_some, hcolumn]
  rfl

namespace Report

variable {report : Report}

theorem toJson_eq (report : Report) :
    report.toJson = ofFields
      [("decisions", some (.list (report.decisions.values.map Decision.toJson))),
        ("failures", some (.list (report.failures.map RuleFailure.toJson))),
        ("signal_count", some (.ofNat report.signalCount)),
        ("rule_count", some (.ofNat report.ruleCount))] :=
  rfl

/-- Every decision stands under the column that it names. -/
def Filed (report : Report) : Prop :=
  ∀ entry ∈ report.decisions.entries, entry.2.column = entry.1

/-- Decisions that stand under the columns they name are filed there again, in their order. -/
theorem Filed.file_values (h : report.Filed) : file report.decisions.values = report.decisions := by
  have hentries : report.decisions.values.map (fun decision => (decision.column, decision)) =
      report.decisions.entries := by
    rw [OrderedMap.values, List.map_map]
    refine (List.map_congr_left fun entry hentry => ?_).trans (List.map_id _)
    exact Prod.ext (h entry hentry) rfl
  rw [file, hentries]
  exact OrderedMap.ext (OrderedMap.entries_ofList report.decisions.nodup_keys)

/-- The counts of the report are numbers of 64 bits. -/
def Countable (report : Report) : Prop :=
  report.signalCount < UInt64.size ∧ report.ruleCount < UInt64.size

instance (report : Report) : Decidable report.Countable :=
  inferInstanceAs (Decidable (_ ∧ _))

/-- A report that is in order is read back, unless a count is too large to be read at all. -/
theorem Filed.ofJson?_toJson (h : report.Filed) :
    ofJson? report.toJson = if report.Countable then some report else none := by
  have hslots : slots? ["decisions", "failures", "signal_count", "rule_count"] report.toJson =
      some [.given (.list (report.decisions.values.map Decision.toJson)),
        .given (.list (report.failures.map RuleFailure.toJson)), .given (.ofNat report.signalCount),
        .given (.ofNat report.ruleCount)] :=
    report.toJson_eq ▸ Json.slots?_ofFields rfl (by decide)
  have hdecisions := Json.list?_map Decision.ofJson?_toJson report.decisions.values
  have hfailures := Json.list?_map RuleFailure.ofJson?_toJson report.failures
  rw [ofJson?, hslots]
  simp only [Option.bind_eq_bind, Option.bind_some, Slot.required, hdecisions, hfailures,
    h.file_values, Json.count?_ofNat]
  -- what is left is whether both counts can be read
  by_cases hsignals : report.signalCount < UInt64.size
  · by_cases hrules : report.ruleCount < UInt64.size
    · rw [if_pos hsignals, if_pos hrules, if_pos ⟨hsignals, hrules⟩]
      simp only [Option.bind_some, UInt64.toNat_ofNat_of_lt' hsignals,
        UInt64.toNat_ofNat_of_lt' hrules]
    · rw [if_neg hrules, if_neg fun hboth : report.Countable => hrules hboth.2]
      simp
  · rw [if_neg hsignals, if_neg fun hboth : report.Countable => hsignals hboth.1]
    rfl

end Report

section Printing

open Json (Plain)

theorem ColumnRef.plain_toJson (ref : ColumnRef) : Plain ref.toJson := by
  rw [toJson_eq]
  apply Json.plain_ofFields
  simp only [List.forall_mem_cons, Option.some.injEq, forall_eq']
  exact ⟨.text _, .text _, by simp⟩

theorem Signal.plain_toJson (signal : Signal) : Plain signal.toJson := by
  rw [toJson_eq]
  apply Json.plain_ofFields
  simp only [List.forall_mem_cons, Option.some.injEq, forall_eq']
  exact ⟨signal.column.plain_toJson, .text _, .text _, .bool _, .text _, by simp⟩

theorem Resolution.plain_toJson (resolution : Resolution) : Plain resolution.toJson := by
  cases resolution <;>
    exact .record fun member hmember => by
      simp only [List.mem_cons, List.not_mem_nil, or_false] at hmember
      rcases hmember with rfl | rfl <;> exact .text _

theorem Json.plain_of_ofTexts? {texts : List String} {value : Json}
    (h : ofTexts? texts = some value) : Plain value := by
  unfold ofTexts? at h
  split at h
  · cases h
  · cases h
    exact plain_list fun text _ => .text text

theorem Decision.plain_toJson (decision : Decision) : Plain decision.toJson := by
  have hconfidence : ∀ value, (decision.confidence.map fun confidence =>
      Json.ofText confidence.name) = some value → Plain value := by
    intro value hvalue
    obtain ⟨confidence, -, rfl⟩ := Option.map_eq_some_iff.mp hvalue
    exact .text _
  have hsignals : Plain (.list (decision.signals.map Signal.toJson)) :=
    Json.plain_list fun signal _ => signal.plain_toJson
  rw [toJson_eq, fields]
  apply Json.plain_ofFields
  simp only [List.forall_mem_cons, Option.some.injEq, forall_eq']
  exact ⟨decision.column.plain_toJson, decision.resolution.plain_toJson, hconfidence,
    fun _ h => Json.plain_of_ofTexts? h, fun _ h => Json.plain_of_ofTexts? h, hsignals, by simp⟩

theorem RuleFailure.plain_toJson (failure : RuleFailure) : Plain failure.toJson := by
  have hcolumn : ∀ value, failure.column.map ColumnRef.toJson = some value → Plain value := by
    intro value hvalue
    obtain ⟨column, -, rfl⟩ := Option.map_eq_some_iff.mp hvalue
    exact column.plain_toJson
  rw [toJson_eq]
  apply Json.plain_ofFields
  simp only [List.forall_mem_cons, Option.some.injEq, forall_eq']
  exact ⟨.text _, hcolumn, .text _, by simp⟩

theorem Report.plain_toJson (report : Report) : Plain report.toJson := by
  have hdecisions : Plain (.list (report.decisions.values.map Decision.toJson)) :=
    Json.plain_list fun decision _ => decision.plain_toJson
  have hfailures : Plain (.list (report.failures.map RuleFailure.toJson)) :=
    Json.plain_list fun failure _ => failure.plain_toJson
  rw [toJson_eq]
  apply Json.plain_ofFields
  simp only [List.forall_mem_cons, Option.some.injEq, forall_eq']
  exact ⟨hdecisions, hfailures, .nat _, .nat _, by simp⟩

end Printing

def Resolution.valueName : Resolution → String
  | resolved role => role.name
  | unresolved cause => cause.name

/-- How a report is written: decisions in a list, each with names for what is one of several things,
and nothing for what is absent or empty. -/
structure Report.Written (report : Report) (value : Json) : Prop where
  decisions : value.member? "decisions" =
    some (.list (report.decisions.values.map Decision.toJson))
  resolution : ∀ decision ∈ report.decisions.values,
    (decision.toJson.member? "resolution").bind (Json.member? "value") =
      some (.ofText decision.resolution.valueName)
  confidence : ∀ decision ∈ report.decisions.values,
    decision.toJson.member? "confidence" =
      decision.confidence.map fun confidence => .ofText confidence.name
  reasons : ∀ decision ∈ report.decisions.values,
    decision.toJson.member? "reasons" = Json.ofTexts? decision.reasons
  problems : ∀ decision ∈ report.decisions.values,
    decision.toJson.member? "problems" = Json.ofTexts? decision.problems
  column : ∀ failure ∈ report.failures,
    failure.toJson.member? "column" = failure.column.map ColumnRef.toJson

theorem Decision.member?_toJson (decision : Decision) {name : String} {value : Option Json}
    (h : (name, value) ∈ decision.fields) : decision.toJson.member? name = value := by
  rw [toJson_eq]
  exact Json.member?_ofFields (by simp [fields]) h

theorem Report.written_toJson (report : Report) : report.Written report.toJson where
  decisions := by
    rw [toJson_eq]
    exact Json.member?_ofFields (by simp) (by simp)
  resolution decision _ := by
    have hmember : decision.toJson.member? "resolution" = some decision.resolution.toJson :=
      decision.member?_toJson (by simp [Decision.fields])
    rw [hmember]
    cases decision.resolution <;> rfl
  confidence decision _ := decision.member?_toJson (by simp [Decision.fields])
  reasons decision _ := decision.member?_toJson (by simp [Decision.fields])
  problems decision _ := decision.member?_toJson (by simp [Decision.fields])
  column failure _ := by
    rw [RuleFailure.toJson_eq]
    exact Json.member?_ofFields (by simp) (by simp)

namespace Runner

/-- A run that decides columns in their own names files every decision under its column. -/
theorem filed_run {runner : Runner} (hsolver : runner.solver = Resolver.solve)
    (warehouse : Warehouse) : (runner.run warehouse).Filed := by
  rw [run_eq, hsolver]
  intro entry hentry
  obtain ⟨filed, -, rfl⟩ := List.mem_map.mp hentry
  exact Resolver.column_solve filed.1 filed.2

/-- The report of a run survives being written. What is written for it, as a value or as the bytes
of its text, is read as the same report: every decision under its column, in the same order, and
what was left out absent or empty again. Only a count that does not fit 64 bits is refused, and no
list that is ever held has so many elements. -/
theorem report_is_read_back (runner : Runner) (hsolver : runner.solver = Resolver.solve)
    (warehouse : Warehouse) :
    Report.ofJson? (runner.run warehouse).toJson =
        (if (runner.run warehouse).Countable then some (runner.run warehouse) else none) ∧
      Json.ofBytes? (Json.compact (runner.run warehouse).toJson).toUTF8 =
        some (runner.run warehouse).toJson ∧
      (runner.run warehouse).Written (runner.run warehouse).toJson := by
  have hbytes := (runner.run warehouse).plain_toJson.ofString?_compact
  rw [← Json.ofBytes?_toUTF8] at hbytes
  exact ⟨(filed_run hsolver warehouse).ofJson?_toJson, hbytes, Report.written_toJson _⟩

theorem report_is_read_back_shop :
    noisy.solver = Resolver.solve ∧ (noisy.run shop).Countable ∧
      Report.ofJson? (noisy.run shop).toJson = some (noisy.run shop) := by
  obtain ⟨hread, -, -⟩ := report_is_read_back noisy rfl shop
  have hcountable : (noisy.run shop).Countable := by decide +kernel
  rw [if_pos hcountable] at hread
  exact ⟨rfl, hcountable, hread⟩

end Runner

end ColumnRoles
