import SourcePatch.Disk.Tree

/-!
# What a file system refuses

It takes several steps to put a file in the place of another one, and a file system may refuse each
of them: for want of permission or of space, or because a device fails. A `Policy` says which steps
it refuses, and why.

* `Policy.permissive` refuses nothing, as if to a privileged user with a sound disk.
* `Policy.unprivileged` goes by the write bits of files, and by directories that may not be changed.

To read a file, to follow a path and to remove a temporary file that one has made are no requests:
none of them is refused here.
-/

namespace SourcePatch

/-- What a file system is asked for while a file is replaced. -/
inductive Request where
  /-- To open the file that a path leads to for writing. -/
  | openForWriting (path : String)
  /-- To make a temporary file in a directory. -/
  | makeTemporary (dir : String)
  /-- To write the content of the temporary file. -/
  | fill (content : Bytes)
  /-- To bring it to the disk. -/
  | sync
  /-- To set its permission bits. -/
  | setPermissions (mode : Nat)
  /-- To move it to the entry that a path names. -/
  | persist (path : String)
  /-- To set the time of the last change of the file that a path leads to. -/
  | stamp (path : String)
deriving DecidableEq, Repr

/-- Why a request is refused, if it is. This may depend on the tree and the working directory. -/
abbrev Policy := Tree → Location → Request → Option OsError

namespace Policy

def permissive : Policy := fun _ _ _ => none

def permissionDenied : OsError := .other 13 "Permission denied"

/-- May the owner of a file with these permission bits write it? -/
def ownerWrites (mode : Nat) : Bool := mode.testBit 7

/-- Denies permission to change a directory that is locked. -/
def checkLock (locked : Location → Bool) (dir : Except OsError Location) : Option OsError :=
  match dir with
  | .ok dir => if locked dir then some permissionDenied else none
  | .error _ => none

/-- Towards a user without privileges who owns all files: a file is opened for writing only if its
owner may write it, and in a locked directory no entry is made or replaced. -/
def unprivileged (locked : Location → Bool) : Policy := fun t cwd request =>
  match request with
  | .openForWriting path =>
    match t.file? cwd path with
    | .ok data => if ownerWrites data.mode then none else some permissionDenied
    | .error _ => none
  | .makeTemporary dir => checkLock locked (t.resolve cwd dir)
  | .persist path => checkLock locked ((t.locate cwd path).map List.dropLast)
  | .fill _ | .sync | .setPermissions _ | .stamp _ => none

end Policy

end SourcePatch
