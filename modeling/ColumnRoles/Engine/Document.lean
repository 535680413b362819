import ColumnRoles.Engine
import ColumnRoles.Report.Document
import ColumnRoles.Ruleset.Document
import ColumnRoles.Timestamp

/-!
Configurations of engines read from JSON, and what was inferred from a file as a JSON value.
-/
namespace ColumnRoles

open Json (slots?)

def RunnerConfig.ofJson? (value : Json) : Option RunnerConfig := do
  let usual : RunnerConfig := {}
  match ← slots? ["parallel"] value with
  | [parallel] => some { parallel := ← parallel.orElse usual.parallel Json.bool? }
  | _ => none

def EngineConfig.ofJson? (value : Json) : Option EngineConfig := do
  let usual : EngineConfig := {}
  match ← slots? ["ruleset", "runner"] value with
  | [ruleset, runner] =>
    some
      { ruleset := ← ruleset.orElse usual.ruleset RulesetConfig.ofJson?
        runner := ← runner.orElse usual.runner RunnerConfig.ofJson? }
  | _ => none

namespace Snapshot.Source

def toJson (source : Source) : Json :=
  .ofMembers
    [("file", .ofText source.file), ("path", .ofText source.path), ("hash", .ofText source.hash),
      ("size_bytes", .ofNat source.size), ("format", .ofText source.format.name),
      ("table_count", .ofNat source.tableCount), ("column_count", .ofNat source.columnCount),
      ("loaded_at", .ofText source.loadedAt)]

def moment? (value : Json) : Option String := do
  let text ← value.text?
  if Timestamp.isTimestamp text then some text else none

def ofJson? (value : Json) : Option Source := do
  match ←
    slots?
      ["file", "path", "hash", "size_bytes", "format", "table_count", "column_count", "loaded_at"]
      value with
  | [file, path, hash, size, format, tableCount, columnCount, loadedAt] =>
    some
      { file := ← file.required Json.text?
        path := ← path.required Json.text?
        hash := ← hash.required Json.text?
        size := (← size.required Json.count?).toNat
        format := ← format.required (Json.named? Json.isNull Format.ofName?)
        tableCount := (← tableCount.required Json.count?).toNat
        columnCount := (← columnCount.required Json.count?).toNat
        loadedAt := ← loadedAt.required moment? }
  | _ => none

end Snapshot.Source

namespace FileReport

def toJson (fileReport : FileReport) : Json :=
  .ofMembers [("source", fileReport.source.toJson), ("report", fileReport.report.toJson)]

def ofJson? (value : Json) : Option FileReport := do
  match ← slots? ["source", "report"] value with
  | [source, report] =>
    some
      { source := ← source.required Snapshot.Source.ofJson?
        report := ← report.required Report.ofJson? }
  | _ => none

end FileReport

end ColumnRoles
