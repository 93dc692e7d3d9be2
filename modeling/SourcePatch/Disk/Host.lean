import SourcePatch.Disk.Policy

/-!
# Hosts

A `Host` is what the patcher needs from the machine that it runs on: reading and resolving files,
the single steps of replacing one, and two streams for what it has to say. A `World` is a host
inside the logic: a file tree with a working directory, a policy that may refuse any step of a
write, and the texts written so far.
-/

namespace SourcePatch

class Host (m : Type → Type) where
  /-- A file that was made to be moved elsewhere, or else to be removed. -/
  Temporary : Type
  /-- The contents of the file that a path leads to. -/
  read : String → m (Except OsError Bytes)
  /-- The path without links, `.` and `..` that leads to the same entry. -/
  canonicalize : String → m (Except OsError String)
  /-- Does the path lead to a regular file? -/
  isRegularFile : String → m Bool
  /-- The permission bits of the file that a path leads to. -/
  permissions : String → m (Except OsError Nat)
  /-- Opens the file that a path leads to for writing, and closes it again. -/
  openForWriting : String → m (Except OsError Unit)
  /-- Makes an empty file with a name of its own in a directory. -/
  makeTemporary : String → m (Except OsError Temporary)
  /-- Writes the content of a temporary file. -/
  fill : Temporary → Bytes → m (Except OsError Unit)
  /-- Waits until the content of a temporary file is on the disk. -/
  sync : Temporary → m (Except OsError Unit)
  /-- Sets the permission bits of a temporary file. -/
  setPermissions : Temporary → Nat → m (Except OsError Unit)
  /-- Moves a temporary file to the entry that a path names, in the place of what is there. -/
  persist : Temporary → String → m (Except OsError Unit)
  /-- Removes a temporary file. -/
  discard : Temporary → m Unit
  /-- Sets the time of the last change of the file that a path leads to. -/
  stamp : String → m (Except OsError Unit)
  /-- The working directory. -/
  currentDir : m (Except OsError String)
  /-- The home directory of the user. -/
  homeDir : m (Option String)
  /-- Writes to the output. -/
  print : String → m Unit
  /-- Writes to the stream of warnings and errors. -/
  note : String → m Unit

/-- A tree, where one stands in it, whose home it is, what was written, and which steps of a write
the file system refuses. -/
structure World where
  tree : Tree
  cwd : Location
  home : Option String := none
  output : String := ""
  notes : String := ""
  policy : Policy := .permissive

namespace World

def canonicalize (w : World) (path : String) : Except OsError String :=
  (w.tree.resolve w.cwd path).map Path.ofLocation

/-- Changes the tree, unless the policy refuses the request or the change fails. -/
@[noinline]
def attempt {α : Type} (request : Request)
    (change : Tree → Location → Except OsError (α × Tree)) : StateM World (Except OsError α) := do
  let w ← get
  match w.policy w.tree w.cwd request with
  | some e => return .error e
  | none =>
    match change w.tree w.cwd with
    | .error e => return .error e
    | .ok (a, tree) => set { w with tree }; return .ok a

/-- A temporary file of a world is known by its location. -/
instance : Host (StateM World) where
  Temporary := Location
  read path := do return (← get).tree.read (← get).cwd path
  canonicalize path := do return (← get).canonicalize path
  isRegularFile path := do return (← get).tree.isRegularFile (← get).cwd path
  permissions path := do return (← get).tree.permissions (← get).cwd path
  openForWriting path := attempt (.openForWriting path) fun t cwd =>
    (t.file? cwd path).map fun _ => ((), t)
  makeTemporary dir := attempt (.makeTemporary dir) fun t cwd => t.makeTemporary cwd dir
  fill temp content := attempt (.fill content) fun t _ =>
    .ok ((), t.modifyFile temp fun data => { data with content, modified := t.clock })
  sync _ := attempt .sync fun t _ => .ok ((), t)
  setPermissions temp mode := attempt (.setPermissions mode) fun t _ =>
    .ok ((), t.modifyFile temp fun data => { data with mode })
  persist temp path := attempt (.persist path) fun t cwd => (t.persist cwd temp path).map ((), ·)
  discard temp := modify fun w => { w with tree := w.tree.erase temp }
  stamp path := attempt (.stamp path) fun t cwd => (t.stamp cwd path).map ((), ·)
  currentDir := do return .ok (Path.ofLocation (← get).cwd)
  homeDir := do return (← get).home
  print text := modify fun w => { w with output := w.output ++ text }
  note text := modify fun w => { w with notes := w.notes ++ text }

end World

end SourcePatch
