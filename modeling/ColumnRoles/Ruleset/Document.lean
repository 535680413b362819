import ColumnRoles.Json.Document
import ColumnRoles.Json.Fields
import ColumnRoles.Ruleset

/-!
Configurations read from JSON documents. Every field has a default.
-/
namespace ColumnRoles.RulesetConfig

def ofJson? (value : Json) : Option RulesetConfig := do
  let usual : RulesetConfig := {}
  match ←
    Json.slots?
      ["foreign_identifier_ratio", "categorical_ratio", "primary_time_pattern", "disabled_rules"]
      value with
  | [foreignIdentifierRatio, categoricalRatio, primaryTimePattern, disabledRules] =>
    some
      { foreignIdentifierRatio :=
          ← foreignIdentifierRatio.orElse usual.foreignIdentifierRatio Json.float?
        categoricalRatio := ← categoricalRatio.orElse usual.categoricalRatio Json.float?
        primaryTimePattern := ← primaryTimePattern.orElse usual.primaryTimePattern Json.text?
        disabledRules := ← disabledRules.orElse usual.disabledRules (Json.list? Json.text?) }
  | _ => none

def ofText (text : String) : Except Error RulesetConfig := do
  match (Json.ofString? text).bind ofJson? with
  | none => .error .badDocument
  | some config =>
    config.validate
    .ok config

end ColumnRoles.RulesetConfig
