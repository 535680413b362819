import ColumnRoles.Report
import ColumnRoles.Snapshot.Loader

/-!
The engine: a configured ruleset, ready to infer the roles of the columns of any snapshot.
-/
namespace ColumnRoles

structure EngineConfig where
  ruleset : RulesetConfig := {}
  runner : RunnerConfig := {}

structure FileReport where
  source : Snapshot.Source
  report : Report
deriving DecidableEq, Repr

structure Engine where
  config : EngineConfig
  runner : Runner
  /-- The format of snapshots, if it is not left to the names of the files. -/
  format : Option Snapshot.Format := none

namespace Engine

/-- An engine of the built-in rules. -/
def create (config : EngineConfig) (compile : Naming.Compiler := .reader) :
    Except Error Engine := do
  let runner ← Runner.create (← config.ruleset.ruleset compile) config.runner
  .ok { config, runner }

/-- An engine of any rules; what the configuration says about rules does not matter. -/
def ofRules (rules : Ruleset) (config : EngineConfig) : Except Error Engine := do
  let runner ← Runner.create rules config.runner
  .ok { config, runner }

def withFormat (engine : Engine) (format : Option Snapshot.Format) : Engine :=
  { engine with format }

def rules (engine : Engine) : Ruleset :=
  engine.runner.rules

def infer (engine : Engine) (warehouse : Warehouse) : Report :=
  engine.runner.run warehouse

def inferFrom (engine : Engine) (provided : Except Error Warehouse) : Except Error Report :=
  provided.map engine.infer

def inferFile (engine : Engine) (files : Files) (now path : String) :
    Except Error FileReport := do
  let (warehouse, source) ← Snapshot.load files now engine.format path
  .ok { source, report := engine.infer warehouse }

end Engine

end ColumnRoles
