import SourcePatch.RuleFile.Config
import SourcePatch.Text.Quoted
import SourcePatch.Toml.Parser

/-!
# Rule files

Rule files are TOML documents with a table `meta` and an array of tables `rules`. `ofText` reads
one and validates it; `load` reads it from a file.

Fields are decoded in the order in which the document has them, and the first one that has a wrong
type is reported; a field that is missing is reported after all of them. Unknown fields are passed
over. A record may also be written as an array of its fields in their order.
-/

namespace SourcePatch.RuleFile

open SourcePatch.Toml (Value)

/-- What a value is instead of what it should be. -/
inductive DecodeError where
  | invalidType (found : Value) (expected : String)
  | invalidValue (found : Value) (expected : String)
  | invalidLength (length : Nat) (expected : String)
  | missingField (name : String)

/-- How a value is called in reports. -/
def describe : Value → String
  | .string text => "string " ++ Quoted.encode text
  | .integer n => s!"integer `{n}`"
  | .float x => s!"floating point `{x.display}`"
  | .boolean b => s!"boolean `{b}`"
  | .datetime _ => "map"
  | .array _ => "sequence"
  | .table _ => "map"

def DecodeError.message : DecodeError → String
  | .invalidType found expected => s!"invalid type: {describe found}, expected {expected}"
  | .invalidValue found expected => s!"invalid value: {describe found}, expected {expected}"
  | .invalidLength length expected => s!"invalid length {length}, expected {expected}"
  | .missingField name => s!"missing field `{name}`"

abbrev Decode (α : Type) := Value → Except DecodeError α

def text : Decode String
  | .string s => .ok s
  | v => .error (.invalidType v "a string")

def boolean : Decode Bool
  | .boolean b => .ok b
  | v => .error (.invalidType v "a boolean")

def count : Decode Nat
  | .integer n => if 0 ≤ n then .ok n.toNat else .error (.invalidValue (.integer n) "usize")
  | v => .error (.invalidType v "usize")

/-- The entries of a value that can stand for a record; a date has none that a record knows. -/
def entries? : Value → Option (List (String × Value))
  | .table es => some es
  | .datetime _ => some []
  | _ => none

/-! ## Metadata -/

def setMetadata (m : Metadata) (field : String × Value) : Except DecodeError Metadata :=
  match field.1 with
  | "name" => return { m with name := ← text field.2 }
  | "description" => return { m with description := some (← text field.2) }
  | "workspace_relative" => return { m with workspaceRelative := ← boolean field.2 }
  | _ => return m

def metadataFields : List String := ["name", "description", "workspace_relative"]

def metadata : Decode Metadata := fun v =>
  match v, entries? v with
  | .array vs, _ => (metadataFields.zip vs).foldlM setMetadata {}
  | _, some es => es.foldlM setMetadata {}
  | v, none => .error (.invalidType v "struct Metadata")

/-! ## Rules -/

/-- A rule of which some fields may not be known yet. -/
structure Draft where
  id : Option String := none
  file : Option String := none
  pattern : Option String := none
  insert : Option String := none
  separator : Option String := none
  guard : Option String := none
  note : Option String := none
  expect : Option Nat := none

def setRule (d : Draft) (field : String × Value) : Except DecodeError Draft :=
  match field.1 with
  | "id" => return { d with id := some (← text field.2) }
  | "file" => return { d with file := some (← text field.2) }
  | "pattern" => return { d with pattern := some (← text field.2) }
  | "insert" => return { d with insert := some (← text field.2) }
  | "separator" => return { d with separator := some (← text field.2) }
  | "guard" => return { d with guard := some (← text field.2) }
  | "message" => return { d with note := some (← text field.2) }
  | "expect" => return { d with expect := some (← count field.2) }
  | _ => return d

def ruleFields : List String :=
  ["id", "file", "pattern", "insert", "separator", "guard", "message", "expect"]

/-- How many fields a rule cannot do without; they come first. -/
def requiredFields : Nat := 4

def required (name : String) : Option String → Except DecodeError String
  | some s => .ok s
  | none => .error (.missingField name)

def Draft.finish (d : Draft) : Except DecodeError RuleDefinition := do
  let id ← required "id" d.id
  let file ← required "file" d.file
  let pattern ← required "pattern" d.pattern
  let insert ← required "insert" d.insert
  return ⟨id, file, pattern, insert, d.separator, d.guard, d.note, d.expect⟩

def rule : Decode RuleDefinition := fun v =>
  match v, entries? v with
  | .array vs, _ => do
    let d ← (ruleFields.zip vs).foldlM setRule {}
    if vs.length < requiredFields then
      throw (.invalidLength vs.length "struct RuleDefinition with 8 elements")
    d.finish
  | _, some es => do (← es.foldlM setRule {}).finish
  | v, none => .error (.invalidType v "struct RuleDefinition")

def rules : Decode (List RuleDefinition)
  | .array vs => vs.mapM rule
  | v => .error (.invalidType v "a sequence")

/-! ## Documents -/

def setConfig (c : PatchConfig) (field : String × Value) : Except DecodeError PatchConfig :=
  match field.1 with
  | "meta" => return { c with info := ← metadata field.2 }
  | "rules" => return { c with rules := ← rules field.2 }
  | _ => return c

def config (entries : List (String × Value)) : Except DecodeError PatchConfig :=
  entries.foldlM setConfig {}

/-- Why a text is no rule file. -/
inductive TextError where
  | syntaxFault (fault : Toml.Fault)
  | decode (cause : DecodeError)
  | invalid (issues : List ConfigIssue)

/-- The issues, one on each line. -/
def issuesMessage (issues : List ConfigIssue) : String :=
  "\n".intercalate (issues.map ConfigIssue.message)

def TextError.message : TextError → String
  | .syntaxFault fault => s!"malformed TOML: {fault.message}"
  | .decode cause => s!"malformed TOML: {cause.message}"
  | .invalid issues => issuesMessage issues

/-- Reads and validates a rule file. -/
def ofText (input : String) : Except TextError PatchConfig :=
  match Toml.parse input with
  | .error fault => .error (.syntaxFault fault)
  | .ok entries =>
    match config entries with
    | .error cause => .error (.decode cause)
    | .ok c =>
      match c.validate with
      | .ok () => .ok c
      | .error issues => .error (.invalid issues)

end SourcePatch.RuleFile
