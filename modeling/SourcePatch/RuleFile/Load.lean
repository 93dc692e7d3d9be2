import SourcePatch.Disk.Host
import SourcePatch.RuleFile.Decode

/-!
# Loading rule files

`load` reads a rule file from disk; its errors name the file.
-/

namespace SourcePatch.RuleFile

inductive LoadError where
  | io (path : String) (cause : OsError)
  | parse (path : String) (cause : TextError)

def LoadError.message : LoadError → String
  | .io path cause => s!"failed to read rule file {path}: {cause.message}"
  | .parse path cause => s!"rule file {path}: {cause.message}"

variable {m : Type → Type} [Monad m] [Host m]

def load (path : String) : m (Except LoadError PatchConfig) := do
  match ← Host.read path with
  | .error cause => return .error (.io path cause)
  | .ok bytes =>
    match Utf8.decodeString bytes with
    | .error _ => return .error (.io path .notText)
    | .ok input =>
      match ofText input with
      | .error cause => return .error (.parse path cause)
      | .ok c => return .ok c

end SourcePatch.RuleFile
