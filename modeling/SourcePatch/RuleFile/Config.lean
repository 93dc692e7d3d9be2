import SourcePatch.Disk.Path
import SourcePatch.Rule.QuantityStep

/-!
# Configurations

A configuration lists rules together with the files that they are for. `PatchConfig.issues` lists
what is wrong with one, rule by rule in file order and within a rule in the order id, file, insert
text, pattern; a configuration without issues is valid.
-/

namespace SourcePatch

structure Metadata where
  name : String := ""
  description : Option String := none
  workspaceRelative : Bool := false
deriving DecidableEq, Repr

/-- A rule as it is written down. -/
structure RuleDefinition where
  id : String
  file : String
  pattern : String
  insert : String
  separator : Option String := none
  guard : Option String := none
  note : Option String := none
  expect : Option Nat := none
deriving DecidableEq, Repr

structure PatchConfig where
  info : Metadata := {}
  rules : List RuleDefinition := []
deriving DecidableEq, Repr

namespace RuleDefinition

/-- Compiles the rule. -/
def toRule (d : RuleDefinition) : Except RuleError InsertionRule :=
  (InsertionRule.ofPattern d.pattern d.insert).map fun rule =>
    { rule with separator := d.separator.getD rule.separator, guard := d.guard }

/-- What is reported after the rule was applied. -/
def message (d : RuleDefinition) : String :=
  d.note.getD s!"Applied rule '{d.id}' to {d.file}"

/-- The id, unless it is blank. -/
def name? (d : RuleDefinition) : Option String :=
  if Blank.isBlankText d.id then none else some d.id

end RuleDefinition

/-- A field that a rule has to fill in. -/
inductive RuleField where
  | id
  | file
  | insert
  | pattern
deriving DecidableEq, Repr

def RuleField.name : RuleField → String
  | .id => "id"
  | .file => "file"
  | .insert => "insert"
  | .pattern => "pattern"

inductive ConfigIssue where
  | emptyRuleList
  | duplicateId (id : String)
  | missingField (rule : Option String) (field : RuleField)
  | invalidPattern (rule : Option String) (cause : RuleError)
deriving DecidableEq, Repr

def ConfigIssue.message : ConfigIssue → String
  | .emptyRuleList => "rule file contains no rules"
  | .duplicateId id => s!"rule id '{id}' is used more than once"
  | .missingField (some rule) field => s!"rule '{rule}' missing required field '{field.name}'"
  | .missingField none field => s!"rule missing required field '{field.name}'"
  | .invalidPattern (some rule) cause => s!"rule '{rule}' has an unusable pattern: {cause.message}"
  | .invalidPattern none cause => s!"unusable pattern: {cause.message}"

namespace RuleDefinition

/-- What is wrong with the id of a rule; `earlier` are the ids of the rules before it. -/
def idIssues (d : RuleDefinition) (earlier : List String) : List ConfigIssue :=
  if Blank.isBlankText d.id then [.missingField none .id]
  else if earlier.contains d.id then [.duplicateId d.id] else []

/-- A missing field, if its text is blank. -/
def blankIssues (d : RuleDefinition) (field : RuleField) (text : String) : List ConfigIssue :=
  if Blank.isBlankText text then [.missingField d.name? field] else []

def patternIssues (d : RuleDefinition) : List ConfigIssue :=
  if Blank.isBlankText d.pattern then [.missingField d.name? .pattern]
  else match d.toRule with
    | .ok _ => []
    | .error cause => [.invalidPattern d.name? cause]

def issues (d : RuleDefinition) (earlier : List String) : List ConfigIssue :=
  d.idIssues earlier ++ d.blankIssues .file d.file ++ d.blankIssues .insert d.insert
    ++ d.patternIssues

end RuleDefinition

namespace PatchConfig

/-- The built-in configuration: the built-in rule for its usual file. -/
def builtin : PatchConfig where
  info :=
    { name := "quantity-step"
      description := some "Add a get_quantity_step stub to mock execution backends"
      workspaceRelative := true }
  rules :=
    [{ id := "get-quantity-step"
       file := QuantityStep.target
       pattern := QuantityStep.pattern
       insert := QuantityStep.method
       guard := some QuantityStep.guard
       note := some QuantityStep.message }]

/-- Where the file of a rule lies. -/
def resolveTarget (c : PatchConfig) (d : RuleDefinition) (workspace : String) : String :=
  if c.info.workspaceRelative then Path.join workspace d.file else d.file

/-- The issues of rules that follow rules with the ids `earlier`. -/
def ruleIssues (earlier : List String) : List RuleDefinition → List ConfigIssue
  | [] => []
  | d :: ds => d.issues earlier ++ ruleIssues (earlier ++ [d.id]) ds

/-- What is wrong with a configuration. -/
def issues (c : PatchConfig) : List ConfigIssue :=
  if c.rules.isEmpty then [.emptyRuleList] else ruleIssues [] c.rules

/-- Accepts a configuration without issues. -/
def validate (c : PatchConfig) : Except (List ConfigIssue) Unit :=
  if c.issues.isEmpty then .ok () else .error c.issues

end PatchConfig

end SourcePatch
