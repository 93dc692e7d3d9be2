import SourcePatch.Patch.Patcher
import SourcePatch.RuleFile.Load
import SourcePatch.Workspace.Guard

/-!
# Failures

Why a run fails: what went wrong, and the causes behind it, each the cause of the one before.
`Failure.report` is how they are told; with more than one cause, causes are numbered.
-/

namespace SourcePatch

/-- The errors behind an error, nearest first. -/
def SafetyError.causes : SafetyError → List String
  | .canonicalize _ cause => [cause.message]
  | _ => []

def EditError.causes : EditError → List String
  | .io cause => [cause.message]
  | .utf8 cause => [cause.message]
  | _ => []

def PatchError.causes : PatchError → List String
  | .io _ cause => [cause.message]
  | .decode _ cause => [cause.message]
  | .edit _ cause => cause.message :: cause.causes
  | .countMismatch .. => []
  | .malformed _ => [malformedMessage]

def RuleFile.LoadError.causes : RuleFile.LoadError → List String
  | .io _ cause => [cause.message]
  | .parse _ cause => [cause.message]

namespace CommandLine

structure Failure where
  text : String
  causes : List String := []
deriving DecidableEq, Repr

namespace Failure

def ofSafety (e : SafetyError) : Failure := ⟨e.message, e.causes⟩

def ofLoad (e : RuleFile.LoadError) : Failure := ⟨e.message, e.causes⟩

def ofRule (e : RuleError) : Failure := ⟨e.message, []⟩

/-- A patch that a rule asked for failed. -/
def ofPatch (id : String) (e : PatchError) : Failure :=
  ⟨s!"rule '{id}' failed", e.message :: e.causes⟩

/-- The working directory cannot be told. -/
def ofCurrentDir (e : OsError) : Failure := ⟨"cannot determine current directory", [e.message]⟩

/-- A text with `margin` in front of it and each further line moved in by `indent` blanks. -/
def indented (margin : String) (indent : Nat) (text : String) : String :=
  margin ++ ("\n" ++ "".pushn ' ' indent).intercalate (text.splitOn "\n")

/-- The number of a cause, right-aligned in five columns. -/
def numberText (n : Nat) : String := "".pushn ' ' (5 - (toString n).length) ++ s!"{n}: "

def causeLines : List String → List String
  | [] => []
  | [cause] => [indented "    " 4 cause]
  | causes => causes.zipIdx.map fun (cause, n) => indented (numberText n) 7 cause

/-- The failure with its causes, as it is told to the user. -/
def report (f : Failure) : String :=
  let causes := match causeLines f.causes with
    | [] => ""
    | lines => "\n\nCaused by:\n" ++ "\n".intercalate lines
  s!"Error: {f.text}{causes}\n"

end Failure

end CommandLine

end SourcePatch
