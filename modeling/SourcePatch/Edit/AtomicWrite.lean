import SourcePatch.Disk.Host

/-!
# Atomic writes

A file is replaced as a whole or left as it is. The new content goes to a temporary file in the same
directory, which takes the place of the old file when it is complete, and is removed if anything
fails before. Since a file is moved without regard to the one that it replaces, that one is opened
for writing first, and what may not be written is not replaced.
-/

namespace SourcePatch

variable {m : Type → Type} [Monad m] [Host m]

/-- Asks whether a path may be written. Where nothing is yet, it may. -/
def checkWritable (path : String) : m (Except OsError Unit) := do
  match ← Host.openForWriting path with
  | .error .notFound => return .ok ()
  | answer => return answer

/-- Gives a temporary file the permission bits of the file that a path leads to, if there is one. -/
def copyPermissions (temp : Host.Temporary m) (path : String) : m (Except OsError Unit) := do
  match ← Host.permissions path with
  | .error _ => return .ok ()
  | .ok mode => Host.setPermissions temp mode

/-- Completes a temporary file and moves it to the entry that a path names. -/
def fillAndPersist (temp : Host.Temporary m) (path : String) (content : Bytes) :
    ExceptT OsError m Unit := do
  ExceptT.mk (Host.fill temp content)
  ExceptT.mk (Host.sync temp)
  ExceptT.mk (copyPermissions temp path)
  ExceptT.mk (Host.persist temp path)

/-- Puts a new file in the place of the entry that a path names, all at once. -/
def atomicWrite (path : String) (content : Bytes) : m (Except OsError Unit) := do
  match ← checkWritable path with
  | .error e => return .error e
  | .ok () =>
    match ← Host.makeTemporary (Path.parentOf path) with
    | .error e => return .error e
    | .ok temp =>
      match ← (fillAndPersist temp path content).run with
      | .error e => Host.discard temp; return .error e
      | .ok () => return .ok ()

end SourcePatch
