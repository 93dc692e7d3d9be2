import SourcePatch.Disk.Host

/-!
# Workspaces

A `WorkspaceGuard` confines patches to the files below a root directory, and keeps them out of
build output, version control and the toolchains of the user.

* `WorkspaceGuard.ofRoot` resolves the root and the forbidden directories that exist.
* `WorkspaceGuard.validate` resolves a path and says whether its file may be patched.
-/

namespace SourcePatch

inductive SafetyError where
  | outsideWorkspace (path workspace : String)
  | forbiddenPath (path forbidden : String)
  | notAFile (path : String)
  | canonicalize (path : String) (cause : OsError)
deriving DecidableEq, Repr

def SafetyError.message : SafetyError → String
  | .outsideWorkspace path workspace =>
    s!"Path is outside workspace: {path} (workspace: {workspace})"
  | .forbiddenPath path forbidden =>
    s!"Path is in forbidden directory: {path} (forbidden: {forbidden})"
  | .notAFile path => s!"Not a regular file: {path}"
  | .canonicalize path cause => s!"Cannot resolve {path}: {cause.message}"

/-- A resolved root and resolved directories that are never patched. -/
structure WorkspaceGuard where
  root : String
  forbidden : List String
deriving DecidableEq, Repr

namespace WorkspaceGuard

/-- Directories of a workspace that are never patched. -/
def forbiddenInWorkspace : List String := ["target", ".git"]

/-- Directories of a user that hold toolchains and the sources of libraries. -/
def forbiddenInHome : List String := [".cargo/registry", ".cargo/git", ".rustup"]

variable {m : Type → Type} [Monad m] [Host m]

/-- Those of some directories that exist, resolved. -/
def existing : List String → m (List String)
  | [] => return []
  | dir :: dirs => do
    match ← Host.canonicalize dir with
    | .ok path => return path :: (← existing dirs)
    | .error _ => existing dirs

def ofRoot (root : String) : m (Except SafetyError WorkspaceGuard) := do
  match ← Host.canonicalize root with
  | .error cause => return .error (.canonicalize root cause)
  | .ok root =>
    let inHome := match ← Host.homeDir with
      | some home => forbiddenInHome.map (Path.join home)
      | none => []
    return .ok ⟨root, ← existing (forbiddenInWorkspace.map (Path.join root) ++ inHome)⟩

/-- Where a resolved path may not be patched, the reason. -/
def refusal? (g : WorkspaceGuard) (path : String) : Option SafetyError :=
  if !Path.isWithin g.root path then some (.outsideWorkspace path g.root)
  else (g.forbidden.find? fun dir => Path.isWithin dir path).map (.forbiddenPath path ·)

/-- The resolved path of a file that may be patched. A relative path is taken from the root. -/
def validate (g : WorkspaceGuard) (path : String) : m (Except SafetyError String) := do
  let path := if Path.isAbsolute path then path else Path.join g.root path
  match ← Host.canonicalize path with
  | .error cause => return .error (.canonicalize path cause)
  | .ok path =>
    match g.refusal? path with
    | some e => return .error e
    | none =>
      if ← Host.isRegularFile path then return .ok path else return .error (.notAFile path)

end WorkspaceGuard

end SourcePatch
