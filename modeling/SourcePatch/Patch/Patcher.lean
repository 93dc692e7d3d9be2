import SourcePatch.Rule.Edits
import SourcePatch.RustSyntax.File

/-!
# Patching a file

A `Patcher` applies one rule to one file. It first makes a `Plan`, which changes nothing, and then
commits it, which lands the planned insertions as verified edits.

* `Patcher.draft` reads the file and applies the rule; `Plan.check` holds the result against the
  options; `Patcher.plan` is both.
* `Patcher.commit` writes a plan, `Patcher.run` plans and commits.
-/

namespace SourcePatch

/-- Why a file is not patched. -/
inductive PatchError where
  | io (path : String) (cause : OsError)
  | decode (path : String) (cause : Utf8.DecodeError)
  | edit (path : String) (cause : EditError)
  | countMismatch (path : String) (expected found : Nat)
  | malformed (path : String)
deriving DecidableEq, Repr

/-- What is said about a text that is no source file. -/
def malformedMessage : String := "syn validation failed: not a source file"

def PatchError.message : PatchError → String
  | .io path cause => s!"failed to read {path}: {cause.message}"
  | .decode path cause => s!"{path} is not valid UTF-8: {cause.message}"
  | .edit path cause => s!"failed to write {path}: {cause.message}"
  | .countMismatch path expected found =>
    s!"expected {expected} insertions in {path}, found {found}"
  | .malformed path => s!"patched {path} does not parse: {malformedMessage}"

/-- Whether to leave matches alone that have the guard, how many insertions there have to be, and
whether the result has to be a well-formed source file. -/
structure PatchOptions where
  skipExisting : Bool := false
  expect : Option Nat := none
  checkSyntax : Bool := false
deriving DecidableEq, Repr

structure Patcher where
  target : String
  rule : InsertionRule
  options : PatchOptions := {}

/-- A patch that is computed and not yet written. -/
structure Plan where
  file : String
  source : String
  transform : Transform

/-- What a run did. `bytes` is the size of the file written, if one was. -/
structure PatchReport where
  file : String
  hits : List MatchSpan
  inserted : Nat
  bytes : Option Nat
deriving DecidableEq, Repr

namespace PatchReport

def skipped (r : PatchReport) : Nat := r.hits.countP (·.skipped)

/-- Was the file written? -/
def written (r : PatchReport) : Bool := r.bytes.isSome

def display (r : PatchReport) : String :=
  s!"{r.file}: {r.hits.length} matched, {r.inserted} inserted, {r.skipped} skipped"

end PatchReport

namespace Plan

def isUnchanged (p : Plan) : Bool := p.transform.isUnchanged

/-- Holds a plan against the options: the number of insertions first, then the syntax of a
changed text. -/
def check (p : Plan) (options : PatchOptions) : Except PatchError Unit := do
  match options.expect with
  | some expected =>
    if p.transform.inserted ≠ expected then
      throw (.countMismatch p.file expected p.transform.inserted)
  | none => pure ()
  if options.checkSyntax && !p.isUnchanged && !RustSyntax.isFile p.transform.content then
    throw (.malformed p.file)

/-- The edits that land the plan. With a syntax check the whole file has to be what was checked. -/
def edits (p : Plan) (options : PatchOptions) : FileEdits :=
  let batch := p.transform.edits.foldl .push { file := p.file }
  if options.checkSyntax then batch.pinSource p.source else batch

def report (p : Plan) (bytes : Option Nat) : PatchReport where
  file := p.file
  hits := p.transform.hits
  inserted := p.transform.inserted
  bytes := bytes

/-- The plan of a rule for a text. -/
def ofSource (file : String) (rule : InsertionRule) (options : PatchOptions) (source : String) :
    Plan :=
  ⟨file, source, rule.apply source options.skipExisting⟩

end Plan

namespace Patcher

variable {m : Type → Type} [Monad m] [Host m]

/-- Reads the target and applies the rule to it. -/
def draft (p : Patcher) : m (Except PatchError Plan) := do
  match ← Host.read p.target with
  | .error cause => return .error (.io p.target cause)
  | .ok bytes =>
    match Utf8.decodeString bytes with
    | .error cause => return .error (.decode p.target cause)
    | .ok source => return .ok (.ofSource p.target p.rule p.options source)

/-- A plan that may be committed. -/
def plan (p : Patcher) : m (Except PatchError Plan) := do
  match ← p.draft with
  | .error e => return .error e
  | .ok plan =>
    match plan.check p.options with
    | .error e => return .error e
    | .ok () => return .ok plan

/-- Lands the insertions of a plan. A plan without insertions leaves its file alone. -/
def commit (p : Patcher) (plan : Plan) : m (Except PatchError PatchReport) := do
  if plan.isUnchanged then return .ok (plan.report none)
  match ← (plan.edits p.options).apply with
  | .error cause => return .error (.edit plan.file cause)
  | .ok (.applied _ _ bytes) => return .ok (plan.report (some bytes))
  | .ok (.unchanged _) => return .ok (plan.report none)

def run (p : Patcher) : m (Except PatchError PatchReport) := do
  match ← p.plan with
  | .error e => return .error e
  | .ok plan => p.commit plan

end Patcher

end SourcePatch
