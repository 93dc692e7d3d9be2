import SourcePatch.CommandLine.Arguments
import SourcePatch.CommandLine.Failure
import SourcePatch.CommandLine.Log
import SourcePatch.Diff.Lines

/-!
# Runs

A run applies the rules of a rule file, or the built-in one, one after the other and stops at the
first that fails. Rules before it stay applied.

* `applyRule` finds, guards, plans and commits one rule; in a dry run it only tells what it would
  do.
* `execute` is a run with given arguments, `run` one with the arguments of the command line.
-/

namespace SourcePatch.CommandLine

variable {m : Type → Type} [Monad m] [Host m]

/-- How a run ends. -/
inductive Exit where
  | success
  | failure
  | misuse
deriving DecidableEq, Repr

def Exit.code : Exit → Nat
  | .success => 0
  | .failure => 1
  | .misuse => 2

/-! ## What is shown -/

def printLine (text : String) : m Unit := Host.print (text ++ "\n")

def noteLine (text : String) : m Unit := Host.note (text ++ "\n")

/-- Shows log entries, if they are asked for. -/
def logAll (a : Arguments) (coloured : Bool) (entries : List LogEntry) : m Unit :=
  if a.verbose then Host.note (String.join (entries.map (LogEntry.render coloured)))
  else pure ()

/-- The line of a diff with a line break at its end, one of its own or a newline. -/
def completed (line : Diff.Line) : String :=
  match line.getLast? with
  | some '\n' => String.ofList line
  | some '\r' => String.ofList line
  | _ => String.ofList line ++ "\n"

def entryText (coloured : Bool) (e : Diff.DiffEntry) : String :=
  match e.mark with
  | .same => " " ++ completed e.line
  | .removed => Style.red.paint coloured ("-" ++ completed e.line)
  | .added => Style.green.paint coloured ("+" ++ completed e.line)

/-- All lines of two texts, with a mark on those that only one of them has. -/
def diffText (coloured : Bool) (file source patched : String) : String :=
  "\n" ++ Style.dimmed.paint coloured s!"--- {file} (original)" ++ "\n"
    ++ Style.dimmed.paint coloured s!"+++ {file} (patched)" ++ "\n"
    ++ String.join ((Diff.lineDiff source.toList patched.toList).map (entryText coloured))

/-- What a dry run notes on a plan. -/
def forecast (p : Plan) : String :=
  s!"{p.file}: {p.transform.hits.length} matched, {p.transform.inserted} would be inserted, " ++
    s!"{p.transform.skipped} skipped"

/-! ## Rules -/

/-- The options for a rule: the count on the command line goes before that of the rule. -/
def optionsFor (a : Arguments) (d : RuleDefinition) : PatchOptions where
  skipExisting := a.skipExisting
  expect := a.expect <|> d.expect
  checkSyntax := a.checkSyntax

/-- The file that a rule is for: the one on the command line, or else that of the rule. -/
def targetOf (a : Arguments) (c : PatchConfig) (root : String) (d : RuleDefinition) : String :=
  a.file.getD (c.resolveTarget d root)

/-- Drafts and checks the plan of a rule, and shows what is asked for. -/
def planRule (a : Arguments) (coloured : Bool) (patcher : Patcher) : m (Except PatchError Plan) := do
  match ← patcher.draft with
  | .error e => return .error e
  | .ok plan =>
    logAll a coloured (LogEntry.ofPlan plan)
    match plan.check patcher.options with
    | .error e => return .error e
    | .ok () =>
      if plan.transform.hits.isEmpty then
        noteLine (Style.yellow.paint coloured
          s!"Warning: pattern matched no locations in {plan.file}")
      if a.diff && !plan.isUnchanged then
        Host.print (diffText coloured plan.file plan.source plan.transform.content)
      return .ok plan

/-- Tells what a rule would do. -/
def tellPlan (coloured : Bool) (d : RuleDefinition) (plan : Plan) : m Unit := do
  noteLine (Style.dimmed.paint coloured (forecast plan))
  printLine <| Style.cyan.paint coloured "⊙" ++
    s!" {d.id}: would insert {plan.transform.inserted} into {plan.file}"

/-- Commits the plan of a rule and tells what was done. -/
def commitRule (a : Arguments) (coloured : Bool) (d : RuleDefinition) (patcher : Patcher)
    (plan : Plan) : m (Except PatchError Unit) := do
  match ← patcher.commit plan with
  | .error e => return .error e
  | .ok report =>
    logAll a coloured (LogEntry.ofReport report)
    noteLine (Style.dimmed.paint coloured report.display)
    printLine d.message
    return .ok ()

/-- Applies a rule to its file. -/
def applyRule (a : Arguments) (coloured : Bool) (g : WorkspaceGuard) (c : PatchConfig)
    (d : RuleDefinition) : m (Except Failure Unit) := do
  match ← g.validate (targetOf a c g.root d) with
  | .error e => return .error (.ofSafety e)
  | .ok target =>
    match d.toRule with
    | .error e => return .error (.ofRule e)
    | .ok rule =>
      let patcher : Patcher := ⟨target, rule, optionsFor a d⟩
      match ← planRule a coloured patcher with
      | .error e => return .error (.ofPatch d.id e)
      | .ok plan =>
        if a.dryRun then
          tellPlan coloured d plan
          return .ok ()
        else
          return (← commitRule a coloured d patcher plan).mapError (.ofPatch d.id)

/-- Applies rules in their order, up to the first that fails. -/
def applyRules (a : Arguments) (coloured : Bool) (g : WorkspaceGuard) (c : PatchConfig) :
    List RuleDefinition → m (Except Failure Unit)
  | [] => return .ok ()
  | d :: ds => do
    match ← applyRule a coloured g c d with
    | .error e => return .error e
    | .ok () => applyRules a coloured g c ds

/-! ## Runs -/

/-- The guard of the workspace that is asked for, or of the working directory. -/
def guardFor (a : Arguments) : m (Except Failure WorkspaceGuard) := do
  match a.workspace with
  | some root => return (← WorkspaceGuard.ofRoot root).mapError .ofSafety
  | none =>
    match ← (Host.currentDir : m (Except OsError String)) with
    | .error e => return .error (.ofCurrentDir e)
    | .ok root => return (← WorkspaceGuard.ofRoot root).mapError .ofSafety

/-- The rule file that is asked for, or the built-in configuration. -/
def configFor (a : Arguments) : m (Except Failure PatchConfig) := do
  match a.rules with
  | some path => return (← RuleFile.load path).mapError .ofLoad
  | none => return .ok .builtin

/-- Applies what the arguments ask for. -/
def execute (a : Arguments) (coloured : Bool) : m (Except Failure Unit) := do
  match ← (guardFor a : m (Except Failure WorkspaceGuard)) with
  | .error e => return .error e
  | .ok g =>
    match ← (configFor a : m (Except Failure PatchConfig)) with
    | .error e => return .error e
    | .ok c => applyRules a coloured g c c.rules

/-- The program's name and version. -/
def versionText : String := "backend-patcher 0.1.0"

def helpText : String :=
  "\n".intercalate
    ["Insert generated methods after matched declarations",
     "",
     "Usage: backend-patcher [OPTIONS] [FILE]",
     "",
     "Arguments:",
     "  [FILE]  Target file (default: src/strategy/atomic_execution.rs)",
     "",
     "Options:",
     "  -r, --rules <RULES>          Rule file to apply instead of the built-in quantity-step rule",
     "  -w, --workspace <WORKSPACE>  Workspace root that targets must live under (default: current directory)",
     "  -n, --dry-run                Dry run - show what would be inserted without modifying files",
     "  -d, --diff                   Show unified diff of changes",
     "      --skip-existing          Skip matches whose impl block already has the inserted method",
     "      --expect <N>             Fail without writing unless exactly this many insertions are made",
     "      --check-syntax           Refuse to write output that no longer parses as Rust",
     "  -v, --verbose                Log each match to stderr",
     "  -h, --help                   Print help",
     "  -V, --version                Print version"]

/-- Does what the command line asks for. -/
def run (args : List String) (coloured : Bool) : m Exit := do
  match parse args with
  | .error .help => printLine helpText; return .success
  | .error .version => printLine versionText; return .success
  | .error (.misuse cause) => noteLine s!"error: {cause.message}"; return .misuse
  | .ok a =>
    match ← (execute a coloured : m (Except Failure Unit)) with
    | .ok () => return .success
    | .error e => Host.note e.report; return .failure

end SourcePatch.CommandLine
