import SourcePatch.Disk.OsError
import SourcePatch.Disk.Path
import SourcePatch.Text.Utf8

/-!
# File trees

A tree of directories, regular files and symbolic links. Entries are kept under their location; the
root is a directory without an entry.

* `Tree.resolve` follows a path to a location, through links and past `.` and `..`.
* `Tree.read`, `Tree.makeTemporary`, `Tree.modifyFile`, `Tree.persist` and `Tree.stamp` are what a
  patcher does with files. A file that it makes under a fresh name is moved at once to the entry
  that a path names, and there it replaces a file or a link.
* `Tree.writeFile`, `Tree.appendFile`, `Tree.remove`, `Tree.makeLink` and `Tree.mark` are what
  others do.
-/

namespace SourcePatch

/-- A regular file: its contents, permission bits and the time of its last change. -/
structure FileData where
  content : Bytes
  mode : Nat
  modified : Nat
deriving DecidableEq, Repr

inductive Entry where
  | directory
  | file (data : FileData)
  | link (target : String)
deriving DecidableEq, Repr

/-- Entries by location, and the time that the next change is stamped with. -/
structure Tree where
  entries : List (Location × Entry) := []
  clock : Nat := 2000000000
deriving DecidableEq, Repr

namespace Tree

def entryAt? (t : Tree) (loc : Location) : Option Entry :=
  if loc.isEmpty then some .directory else t.entries.lookup loc

/-- Puts an entry at a location, in the place of the one that is there. -/
def put (t : Tree) (loc : Location) (e : Entry) : Tree :=
  if (t.entries.lookup loc).isSome then
    { t with entries := t.entries.map fun p => if p.1 = loc then (loc, e) else p }
  else { t with entries := t.entries ++ [(loc, e)] }

theorem lookup_map_put (entries : List (Location × Entry)) (loc l : Location) (e : Entry) :
    (entries.map fun p => if p.1 = loc then (loc, e) else p).lookup l =
      if l = loc then (entries.lookup loc).map fun _ => e else entries.lookup l := by
  induction entries with
  | nil => simp
  | cons p ps ih =>
    obtain ⟨k, old⟩ := p
    by_cases hk : k = loc
    · subst hk
      by_cases hl : l = k
      · subst hl
        simp
      · have hne : (l == k) = false := by simpa using hl
        simp [List.lookup_cons, hl, hne, ih]
    · by_cases hl : l = loc
      · subst hl
        have hne : (l == k) = false := by simpa using Ne.symm hk
        simp [List.lookup_cons, hk, hne, ih]
      · by_cases hlk : l = k
        · subst hlk
          simp [hk]
        · have hne : (l == k) = false := by simpa using hlk
          simp [List.lookup_cons, hk, hl, hne, ih]

/-- An entry that is put at a location stands there, and all others stay. -/
theorem entryAt?_put (t : Tree) {loc : Location} (h : loc ≠ []) (e : Entry) (l : Location) :
    (t.put loc e).entryAt? l = if l = loc then some e else t.entryAt? l := by
  have hloc : loc.isEmpty = false := by simpa using h
  unfold put
  split
  · rename_i hsome
    obtain ⟨old, hold⟩ := Option.isSome_iff_exists.1 hsome
    simp only [entryAt?, lookup_map_put, hold]
    by_cases hl : l = loc
    · simp [hl, hloc]
    · simp [hl]
  · rename_i hnone
    have hnone : t.entries.lookup loc = none := Option.not_isSome_iff_eq_none.1 hnone
    simp only [entryAt?, List.lookup_append]
    by_cases hl : l = loc
    · simp [hl, hloc, hnone]
    · have hne : (l == loc) = false := by simpa using hl
      simp [hl, hne, List.lookup_cons]

@[simp] theorem clock_put (t : Tree) (loc : Location) (e : Entry) :
    (t.put loc e).clock = t.clock := by
  unfold put
  split <;> rfl

/-- Of two entries that are put at one location the second stays. -/
theorem put_put (t : Tree) (loc : Location) (e e' : Entry) :
    (t.put loc e).put loc e' = t.put loc e' := by
  cases hloc : t.entries.lookup loc with
  | some old =>
    have hput (e : Entry) : t.put loc e =
        { t with entries := t.entries.map fun p => if p.1 = loc then (loc, e) else p } := by
      rw [put, hloc]
      rfl
    have hagain : (t.put loc e).entries.lookup loc = some e := by
      rw [hput e, lookup_map_put, if_pos rfl, hloc]
      rfl
    rw [put, hagain, Option.isSome_some, if_pos rfl, hput e, hput e', List.map_map]
    congr 1
    refine List.map_congr_left fun p _ => ?_
    by_cases hp : p.1 = loc <;> simp [hp]
  | none =>
    have hput (e : Entry) : t.put loc e = { t with entries := t.entries ++ [(loc, e)] } := by
      rw [put, hloc]
      rfl
    have hagain : (t.put loc e).entries.lookup loc = some e := by
      rw [hput e, List.lookup_append, hloc]
      simp
    -- No entry was there before, so the one that is replaced is the last.
    have hothers : t.entries.map (fun p => if p.1 = loc then (loc, e') else p) = t.entries := by
      refine (List.map_congr_left fun p hp => if_neg ?_).trans (List.map_id _)
      rintro rfl
      simpa using List.lookup_eq_none_iff.1 hloc p hp
    rw [put, hagain, Option.isSome_some, if_pos rfl, hput e, hput e', List.map_append, hothers]
    simp

def erase (t : Tree) (loc : Location) : Tree :=
  { t with entries := t.entries.filter fun p => p.1 != loc }

/-- An entry that is put where there was none, and erased, leaves no trace. -/
theorem erase_put {t : Tree} {loc : Location} (h : t.entryAt? loc = none) (e : Entry) :
    (t.put loc e).erase loc = t := by
  have hloc : t.entries.lookup loc = none := by
    rw [entryAt?] at h
    split at h
    · cases h
    · exact h
  have hother : ∀ p ∈ t.entries, (p.1 != loc) = true := by
    intro p hp
    have := List.lookup_eq_none_iff.1 hloc p hp
    rw [bne_iff_ne] at this ⊢
    exact Ne.symm this
  rw [put, if_neg (by rw [hloc]; simp), erase, List.filter_append, List.filter_eq_self.2 hother]
  simp

/-- Lets time pass. -/
def tick (t : Tree) : Tree := { t with clock := t.clock + 1 }

/-! ## Paths -/

/-- How many links a path may lead through. -/
def linkLimit : Nat := 40

/-- The most octets that a name may have. -/
def nameLimit : Nat := 255

/-- Follows names from a location on. What to do at a link is left to `onLink`, which gets the
directory that holds it, its target and the names after it. -/
def walkNames (t : Tree)
    (onLink : Location → String → List String → Except OsError Location) :
    Location → List String → Except OsError Location
  | here, [] => .ok here
  | here, name :: names =>
    if t.entryAt? here != some .directory then .error .notADirectory
    else if name = "." then walkNames t onLink here names
    else if name = ".." then
      if t.entryAt? here.dropLast = some .directory then walkNames t onLink here.dropLast names
      else .error .notFound
    else if nameLimit < name.utf8ByteSize then .error .nameTooLong
    else match t.entryAt? (here ++ [name]) with
      | none => .error .notFound
      | some (.link target) => onLink here target names
      | some _ => walkNames t onLink (here ++ [name]) names

/-- Follows names from a location on, through at most `links` links. -/
def walk (t : Tree) : (links : Nat) → Location → List String → Except OsError Location
  | 0 => t.walkNames fun _ _ _ => .error .tooManyLinks
  | links + 1 => t.walkNames fun here target names =>
    t.walk links (if Path.isAbsolute target then [] else here)
      (Path.components target ++ (if Path.asksForDirectory target then ["."] else []) ++ names)

/-- The location that a path leads to from the directory `cwd`, through links at every step. -/
def resolve (t : Tree) (cwd : Location) (path : String) : Except OsError Location :=
  if path.toList.contains '\x00' then .error .nulInPath
  else if path.isEmpty then .error .notFound
  else
    t.walk linkLimit (if Path.isAbsolute path then [] else cwd)
      (Path.components path ++ if Path.asksForDirectory path then ["."] else [])

/-- The location of the entry that a path names, without following a link at its end. -/
def locate (t : Tree) (cwd : Location) (path : String) : Except OsError Location := do
  if path.toList.contains '\x00' then .error .nulInPath
  else if path.isEmpty then .error .notFound
  else
    let dir ← t.resolve cwd (Path.parentOf path)
    if t.entryAt? dir = some .directory then return dir ++ [(Path.splitLast path).2]
    else .error .notADirectory

/-! ## What a patcher does -/

/-- The regular file that a path leads to. -/
def file? (t : Tree) (cwd : Location) (path : String) : Except OsError FileData := do
  match t.entryAt? (← t.resolve cwd path) with
  | some (.file data) => return data
  | some _ => .error .isADirectory
  | none => .error .notFound

def read (t : Tree) (cwd : Location) (path : String) : Except OsError Bytes :=
  (t.file? cwd path).map (·.content)

def isRegularFile (t : Tree) (cwd : Location) (path : String) : Bool :=
  match t.file? cwd path with
  | .ok _ => true
  | .error _ => false

/-- The permission bits of the file that a path leads to. -/
def permissions (t : Tree) (cwd : Location) (path : String) : Except OsError Nat :=
  (t.file? cwd path).map (·.mode)

/-- Permission bits of a temporary file. -/
def temporaryMode : Nat := 0o600

/-- A name that no entry has, being longer than all names. -/
def freshName (t : Tree) : String :=
  let longest := (t.entries.map fun p => (p.1.getLastD "").length).foldl max 0
  String.ofList (List.replicate (longest + 1) '_')

/-- Makes an empty file with a fresh name in a directory, and tells where it is. -/
def makeTemporary (t : Tree) (cwd : Location) (dir : String) :
    Except OsError (Location × Tree) := do
  let loc ← t.resolve cwd dir
  if t.entryAt? loc = some .directory then
    let temp := loc ++ [t.freshName]
    return (temp, t.put temp (.file ⟨[], temporaryMode, t.clock⟩))
  else .error .notADirectory

/-- Changes the file at a location. -/
def modifyFile (t : Tree) (loc : Location) (change : FileData → FileData) : Tree :=
  match t.entryAt? loc with
  | some (.file data) => t.put loc (.file (change data))
  | _ => t

/-- Moves an entry to another location, in the place of a file or link that is there. -/
def rename (t : Tree) (source target : Location) : Except OsError Tree :=
  match t.entryAt? source, t.entryAt? target with
  | none, _ => .error .notFound
  | some _, some .directory => .error .isADirectory
  | some e, _ => .ok ((t.erase source).put target e)

/-- Moves a file to the entry that a path names. A link is not followed there, but replaced. -/
def persist (t : Tree) (cwd source : Location) (path : String) : Except OsError Tree := do
  t.rename source (← t.locate cwd path)

/-- Sets the time of the last change of the file that a path leads to, and lets time pass. -/
def stamp (t : Tree) (cwd : Location) (path : String) : Except OsError Tree := do
  let loc ← t.resolve cwd path
  return (t.modifyFile loc fun data => { data with modified := t.clock }).tick

/-! ## What others do -/

/-- Permission bits of a new file. -/
def defaultMode : Nat := 0o644

/-- Makes the directories that some names lead through, from a directory on. -/
def makeDirsBelow (t : Tree) (here : Location) : List String → Except OsError Tree
  | [] => .ok t
  | name :: names =>
    match t.resolve here name with
    | .ok loc =>
      if t.entryAt? loc = some .directory then makeDirsBelow t loc names
      else .error (if names.isEmpty then .alreadyExists else .notADirectory)
    | .error .notFound =>
      makeDirsBelow (t.put (here ++ [name]) .directory) (here ++ [name]) names
    | .error e => .error e

/-- Makes a directory and those above it. -/
def makeDirs (t : Tree) (cwd : Location) (path : String) : Except OsError Tree :=
  t.makeDirsBelow (if Path.isAbsolute path then [] else cwd) (Path.components path)

/-- Where a path that is opened for writing leads to: an existing file, or the place of a new
one. -/
def writeLocation (t : Tree) : (links : Nat) → Location → String → Except OsError Location
  | 0, _, _ => .error .tooManyLinks
  | links + 1, cwd, path =>
    match t.resolve cwd path with
    | .ok loc => .ok loc
    | .error .notFound => do
      let loc ← t.locate cwd path
      match t.entryAt? loc with
      | some (.link target) => t.writeLocation links loc.dropLast target
      | _ => return loc
    | .error e => .error e

/-- Writes a file, which is made if there is none. -/
def writeFile (t : Tree) (cwd : Location) (path : String) (content : Bytes) :
    Except OsError Tree := do
  let loc ← t.writeLocation linkLimit cwd path
  match t.entryAt? loc with
  | some (.file old) => return (t.put loc (.file ⟨content, old.mode, t.clock⟩)).tick
  | none => return (t.put loc (.file ⟨content, defaultMode, t.clock⟩)).tick
  | some _ => .error .isADirectory

/-- Adds to the end of a file. -/
def appendFile (t : Tree) (cwd : Location) (path : String) (content : Bytes) :
    Except OsError Tree := do
  let loc ← t.resolve cwd path
  match t.entryAt? loc with
  | some (.file old) =>
    return (t.put loc (.file ⟨old.content ++ content, old.mode, t.clock⟩)).tick
  | _ => .error .isADirectory

/-- Removes a file or a link. -/
def remove (t : Tree) (cwd : Location) (path : String) : Except OsError Tree := do
  let loc ← t.locate cwd path
  match t.entryAt? loc with
  | some .directory => .error .isADirectory
  | some _ => return t.erase loc
  | none => .error .notFound

/-- Makes a symbolic link. -/
def makeLink (t : Tree) (cwd : Location) (path target : String) : Except OsError Tree := do
  let loc ← t.locate cwd path
  match t.entryAt? loc with
  | some _ => .error .alreadyExists
  | none => return t.put loc (.link target)

/-- Sets the permission bits, if given, and the time of the last change of a file. -/
def mark (t : Tree) (cwd : Location) (path : String) (mode : Option Nat) (modified : Nat) :
    Except OsError Tree := do
  let loc ← t.resolve cwd path
  match t.entryAt? loc with
  | some (.file old) =>
    return t.put loc (.file ⟨old.content, mode.getD old.mode, modified⟩)
  | _ => return t

end Tree

end SourcePatch
