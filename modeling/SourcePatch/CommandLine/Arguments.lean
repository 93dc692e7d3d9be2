/-!
# Arguments

What the command line may say. Switches have a long name, and some also a letter; letters may
stand together after one dash. A setting takes its value from the same argument or from the next
one. The argument `--` ends the switches, and what is no switch is the file to patch.

* `parse` reads the arguments from left to right and stops at the first fault, or where help or
  the version is asked for.
-/

namespace SourcePatch.CommandLine

structure Arguments where
  file : Option String := none
  rules : Option String := none
  workspace : Option String := none
  dryRun : Bool := false
  diff : Bool := false
  skipExisting : Bool := false
  expect : Option Nat := none
  checkSyntax : Bool := false
  verbose : Bool := false
deriving DecidableEq, Repr

/-- A switch that is given or not. -/
inductive Flag where
  | dryRun
  | diff
  | skipExisting
  | checkSyntax
  | verbose
deriving DecidableEq, Repr

/-- A switch with a value. -/
inductive Setting where
  | rules
  | workspace
  | expect
deriving DecidableEq, Repr

inductive Switch where
  | flag (flag : Flag)
  | setting (setting : Setting)
  | help
  | version
deriving DecidableEq, Repr

inductive UsageError where
  | unknownArgument (text : String)
  | repeatedArgument (text : String)
  | missingValue (setting : Setting)
  | invalidValue (setting : Setting) (value : String)
  | unwantedValue (name : String)
  | emptyFile
  | fileAndRules
deriving DecidableEq, Repr

/-- Why the arguments are not read to their end. -/
inductive Stop where
  | help
  | version
  | misuse (cause : UsageError)
deriving DecidableEq, Repr

namespace Switch

def ofName? : String → Option Switch
  | "rules" => some (.setting .rules)
  | "workspace" => some (.setting .workspace)
  | "expect" => some (.setting .expect)
  | "dry-run" => some (.flag .dryRun)
  | "diff" => some (.flag .diff)
  | "skip-existing" => some (.flag .skipExisting)
  | "check-syntax" => some (.flag .checkSyntax)
  | "verbose" => some (.flag .verbose)
  | "help" => some .help
  | "version" => some .version
  | _ => none

def ofLetter? : Char → Option Switch
  | 'r' => some (.setting .rules)
  | 'w' => some (.setting .workspace)
  | 'n' => some (.flag .dryRun)
  | 'd' => some (.flag .diff)
  | 'v' => some (.flag .verbose)
  | 'h' => some .help
  | 'V' => some .version
  | _ => none

end Switch

def Setting.name : Setting → String
  | .rules => "--rules"
  | .workspace => "--workspace"
  | .expect => "--expect"

namespace UsageError

def message : UsageError → String
  | .unknownArgument text => s!"unexpected argument '{text}' found"
  | .repeatedArgument text => s!"the argument '{text}' cannot be used multiple times"
  | .missingValue setting => s!"a value is required for '{setting.name}' but none was supplied"
  | .invalidValue setting value => s!"invalid value '{value}' for '{setting.name}'"
  | .unwantedValue name => s!"the argument '--{name}' takes no value"
  | .emptyFile => "a value is required for '[FILE]' but none was supplied"
  | .fileAndRules => "the argument '[FILE]' cannot be used with '--rules'"

end UsageError

/-- The greatest count that can be asked for. -/
def maxCount : Nat := 0xFFFFFFFFFFFFFFFF

/-- A count in decimal digits, with or without a plus sign. -/
def count? (text : String) : Option Nat :=
  let digits := match text.toList with
    | '+' :: cs => cs
    | cs => cs
  if digits.isEmpty || !digits.all Char.isDigit then none
  else
    let n := Nat.ofDigitChars 10 digits 0
    if n ≤ maxCount then some n else none

namespace Arguments

/-- Turns a flag on, unless it is on already. -/
def turnOn (a : Arguments) : Flag → Except UsageError Arguments
  | .dryRun => if a.dryRun then .error (.repeatedArgument "--dry-run")
    else .ok { a with dryRun := true }
  | .diff => if a.diff then .error (.repeatedArgument "--diff") else .ok { a with diff := true }
  | .skipExisting => if a.skipExisting then .error (.repeatedArgument "--skip-existing")
    else .ok { a with skipExisting := true }
  | .checkSyntax => if a.checkSyntax then .error (.repeatedArgument "--check-syntax")
    else .ok { a with checkSyntax := true }
  | .verbose => if a.verbose then .error (.repeatedArgument "--verbose")
    else .ok { a with verbose := true }

/-- Whether a setting has a value already. -/
def hasSetting (a : Arguments) : Setting → Bool
  | .rules => a.rules.isSome
  | .workspace => a.workspace.isSome
  | .expect => a.expect.isSome

/-- Gives a setting its value, once. A path is not empty. -/
def assign (a : Arguments) (setting : Setting) (value : String) : Except UsageError Arguments :=
  if a.hasSetting setting then .error (.repeatedArgument setting.name)
  else if value.isEmpty then .error (.missingValue setting)
  else match setting with
    | .rules => .ok { a with rules := some value }
    | .workspace => .ok { a with workspace := some value }
    | .expect => match count? value with
      | some n => .ok { a with expect := some n }
      | none => .error (.invalidValue .expect value)

def setFile (a : Arguments) (file : String) : Except UsageError Arguments :=
  if a.file.isSome then .error (.unknownArgument file)
  else if file.isEmpty then .error .emptyFile
  else .ok { a with file := some file }

end Arguments

/-- What the next argument may be. -/
inductive Mode where
  | any
  | valueOf (setting : Setting)
  | filesOnly
deriving DecidableEq, Repr

/-- What was read so far. -/
structure Reading where
  arguments : Arguments := {}
  mode : Mode := .any
deriving DecidableEq, Repr

namespace Reading

/-- Goes on with new arguments, or stops with the fault. -/
def accept (result : Except UsageError Arguments) (mode : Mode) : Except Stop Reading :=
  match result with
  | .ok a => .ok ⟨a, mode⟩
  | .error cause => .error (.misuse cause)

/-- A switch by its name. -/
def long (r : Reading) (name : String) (value : Option String) : Except Stop Reading :=
  match Switch.ofName? name, value with
  | none, _ => .error (.misuse (.unknownArgument ("--" ++ name)))
  | some (.setting s), some v => accept (r.arguments.assign s v) .any
  | some (.setting s), none => .ok { r with mode := .valueOf s }
  | some _, some _ => .error (.misuse (.unwantedValue name))
  | some (.flag f), none => accept (r.arguments.turnOn f) .any
  | some .help, none => .error .help
  | some .version, none => .error .version

/-- Switches by their letters. What follows the letter of a setting is its value, with or without
an equals sign. -/
def letters (r : Reading) : List Char → Except Stop Reading
  | [] => .ok r
  | c :: cs =>
    match Switch.ofLetter? c with
    | none => .error (.misuse (.unknownArgument (String.ofList ['-', c])))
    | some .help => .error .help
    | some .version => .error .version
    | some (.flag f) =>
      match r.arguments.turnOn f with
      | .ok a => letters { r with arguments := a } cs
      | .error cause => .error (.misuse cause)
    | some (.setting s) =>
      match cs with
      | [] => .ok { r with mode := .valueOf s }
      | '=' :: value => accept (r.arguments.assign s (String.ofList value)) .any
      | value => accept (r.arguments.assign s (String.ofList value)) .any

/-- The next argument, where switches are looked for. -/
def switchOrFile (r : Reading) (arg : String) : Except Stop Reading :=
  match arg.toList with
  | ['-', '-'] => .ok { r with mode := .filesOnly }
  | '-' :: '-' :: cs =>
    let name := cs.takeWhile (· != '=')
    let value := match cs.dropWhile (· != '=') with
      | _ :: value => some (String.ofList value)
      | [] => none
    r.long (String.ofList name) value
  | '-' :: c :: cs => r.letters (c :: cs)
  | _ => accept (r.arguments.setFile arg) .any

/-- Does an argument look like a switch? A lone dash does not. -/
def isDashed (arg : String) : Bool :=
  match arg.toList with
  | '-' :: _ :: _ => true
  | _ => false

def next (r : Reading) (arg : String) : Except Stop Reading :=
  match r.mode with
  | .any => r.switchOrFile arg
  | .filesOnly => accept (r.arguments.setFile arg) .filesOnly
  | .valueOf s =>
    if isDashed arg then .error (.misuse (.missingValue s))
    else accept (r.arguments.assign s arg) .any

/-- What was asked for, if it is complete. A file and a rule file exclude each other. -/
def finish (r : Reading) : Except Stop Arguments :=
  match r.mode with
  | .valueOf s => .error (.misuse (.missingValue s))
  | _ =>
    if r.arguments.file.isSome && r.arguments.rules.isSome then
      .error (.misuse .fileAndRules)
    else .ok r.arguments

end Reading

/-- Reads the arguments of the command line. -/
def parse (args : List String) : Except Stop Arguments := do
  (← args.foldlM Reading.next {}).finish

end SourcePatch.CommandLine
