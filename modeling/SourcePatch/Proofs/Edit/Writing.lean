import SourcePatch.Edit.FileEdits
import SourcePatch.Proofs.Disk.Temporary

/-!
# Writing in a world

What an atomic write does when the host is a `World`, whose policy may refuse each step of it.

* `World.Refuses` says that a step is refused before the file is in its place, `World.Accepts` that
  none is, and neither is the setting of the time at the end.
* `World.attempt_cases`: each step is refused or made. `World.fillAndPersist_cases` puts together
  what this says of the single requests.
* `World.atomicWrite_cases`: a write that is refused leaves the world as it was, with no temporary
  file; any other puts the file in the place of the entry that the path names.
* `World.apply_cases`: the same of edits that fit. Here one more step may be refused when the file
  is already there: the setting of its time.
* `World.Replaced.read`: what is read at a path when the entry that it names was replaced.
-/

namespace SourcePatch

/-- The requests that are made to put a file in the place of what a path names. -/
inductive Request.Serves (path : String) : Request → Prop where
  | openForWriting : Serves path (.openForWriting path)
  | makeTemporary : Serves path (.makeTemporary (Path.parentOf path))
  | fill (content : Bytes) : Serves path (.fill content)
  | sync : Serves path .sync
  | setPermissions (mode : Nat) : Serves path (.setPermissions mode)
  | persist : Serves path (.persist path)

/-- What a tree comes to while a file is written: it is as it was, or has a temporary file besides.
-/
inductive Tree.Midway (t : Tree) : Tree → Prop where
  | before : Midway t t
  | beside {temp : Location} (data : FileData) (h : t.entryAt? temp = none) :
      Midway t (t.put temp (.file data))

theorem Tree.Midway.extends {t t' : Tree} (h : t.Midway t') : t.Extends t' := by
  cases h with
  | before => exact .refl t
  | beside data h => exact extends_put h (.file data)

/-- The policy lets one set the time of a file that one has put in its place. So do file systems
towards the owner of a file, and whoever makes a file owns it. -/
def Policy.Stamps (policy : Policy) : Prop := ∀ t cwd path, policy t cwd (.stamp path) = none

namespace World

variable {w w' : World} {path : String} {d content : Bytes} {loc temp : Location}
  {data old : FileData} {cause : OsError}

/-- The content of the file that a path leads to. -/
def read (w : World) (path : String) : Except OsError Bytes := w.tree.read w.cwd path

/-- The file system refuses a step that a write to a path takes to put a file in its place. -/
def Refuses (w : World) (path : String) (cause : OsError) : Prop :=
  ∃ t request, w.tree.Midway t ∧ request.Serves path ∧ w.policy t w.cwd request = some cause

/-- The file system accepts all steps of a write to a path. -/
structure Accepts (w : World) (path : String) : Prop where
  writes : ∀ t request, w.tree.Midway t → request.Serves path → w.policy t w.cwd request = none
  stamps : ∀ t, w.policy t w.cwd (.stamp path) = none

theorem Accepts.not_refuses (h : w.Accepts path) (cause : OsError) : ¬ w.Refuses path cause := by
  rintro ⟨t, request, hmidway, hserves, hrefused⟩
  rw [h.writes t request hmidway hserves] at hrefused
  cases hrefused

theorem accepts_of_permissive (h : w.policy = .permissive) (path : String) : w.Accepts path where
  writes := by
    intro t request _ _
    rw [h]
    rfl
  stamps := by
    intro t
    rw [h]
    rfl

/-! ## Reading -/

theorem host_read (w : World) (path : String) :
    (Host.read (m := StateM World) path).run w = pure (w.read path, w) := rfl

theorem exists_file?_of_read (h : w.read path = .ok d) :
    ∃ data, w.tree.file? w.cwd path = .ok data ∧ data.content = d := by
  unfold read Tree.read at h
  cases hfile : w.tree.file? w.cwd path with
  | error cause =>
    rw [hfile] at h
    cases h
  | ok data =>
    rw [hfile] at h
    exact ⟨data, rfl, Except.ok.inj h⟩

theorem read_of_file? (h : w.tree.file? w.cwd path = .ok data) :
    w.read path = .ok data.content := by
  rw [read, Tree.read, h]
  rfl

theorem host_permissions (w : World) (path : String) :
    (Host.permissions (m := StateM World) path).run w
      = pure (w.tree.permissions w.cwd path, w) := rfl

/-! ## Requests -/

theorem host_discard (w : World) (temp : Location) :
    (Host.discard (m := StateM World) temp).run w
      = pure ((), { w with tree := w.tree.erase temp }) := rfl

section Attempt

variable {α β : Type} {request : Request} {change : Tree → Location → Except OsError (α × Tree)}
  {a : α} {t tree : Tree}

theorem attempt_of_refused (h : w.policy w.tree w.cwd request = some cause) :
    (attempt request change).run w = pure (.error cause, w) := by
  simp only [attempt, StateT.run_bind, StateT.run_get, pure_bind, h]
  rfl

theorem attempt_of_granted (h : w.policy w.tree w.cwd request = none)
    (hchange : change w.tree w.cwd = .ok (a, tree)) :
    (attempt request change).run w = pure (.ok a, { w with tree }) := by
  simp only [attempt, StateT.run_bind, StateT.run_get, pure_bind, h, hchange]
  rfl

/-- A step of a write is refused, and the tree is what it has come to; or the step is made. -/
theorem attempt_cases (hmidway : w.tree.Midway t) (hserves : request.Serves path)
    (hchange : change t w.cwd = .ok (a, tree)) :
    (∃ cause, w.Refuses path cause ∧
      (attempt request change).run { w with tree := t }
        = pure (.error cause, { w with tree := t })) ∨
    (attempt request change).run { w with tree := t } = pure (.ok a, { w with tree }) := by
  cases hrequest : w.policy t w.cwd request with
  | some cause =>
    exact Or.inl ⟨cause, ⟨t, request, hmidway, hserves, hrequest⟩, attempt_of_refused hrequest⟩
  | none => exact Or.inr (attempt_of_granted hrequest hchange)

variable {act : StateM World (Except OsError α)} {next : α → ExceptT OsError (StateM World) β}

/-- A step that fails is the last one. -/
theorem bind_of_error (h : act.run w = pure (.error cause, w')) :
    (ExceptT.mk act >>= next).run.run w = pure (.error cause, w') := by
  rw [ExceptT.run_bind, ExceptT.run_mk, StateT.run_bind, h]
  rfl

theorem bind_of_ok (h : act.run w = pure (.ok a, w')) :
    (ExceptT.mk act >>= next).run.run w = (next a).run.run w' := by
  rw [ExceptT.run_bind, ExceptT.run_mk, StateT.run_bind, h]
  rfl

end Attempt

/-- The world with a file at a location. -/
def withFile (w : World) (loc : Location) (data : FileData) : World :=
  { w with tree := w.tree.put loc (.file data) }

theorem openForWriting_cases (hfile : w.tree.file? w.cwd path = .ok old) :
    (∃ cause, w.Refuses path cause ∧
      (Host.openForWriting (m := StateM World) path).run w = pure (.error cause, w)) ∨
    (Host.openForWriting (m := StateM World) path).run w = pure (.ok (), w) := by
  refine attempt_cases .before .openForWriting ?_
  rw [hfile]
  rfl

/-- A path that may not be written is refused; this leaves the world alone. -/
theorem checkWritable_cases (hfile : w.tree.file? w.cwd path = .ok old) :
    (∃ cause, w.Refuses path cause ∧
      (checkWritable (m := StateM World) path).run w = pure (.error cause, w)) ∨
    (checkWritable (m := StateM World) path).run w = pure (.ok (), w) := by
  rw [checkWritable, StateT.run_bind]
  rcases openForWriting_cases hfile with ⟨cause, hrefuses, hrun⟩ | hrun
  · rw [hrun]
    -- What is said not to be there counts as writable.
    by_cases hcause : cause = .notFound
    · subst hcause
      exact Or.inr rfl
    · refine Or.inl ⟨cause, hrefuses, ?_⟩
      simp only [pure_bind]
      split
      · rename_i heq
        exact absurd (Except.error.inj heq) hcause
      · rfl
  · rw [hrun]
    exact Or.inr rfl

/-- A temporary file is made where nothing is. -/
theorem makeTemporary_cases (hloc : w.tree.locate w.cwd path = .ok loc) :
    (∃ cause, w.Refuses path cause ∧
      (Host.makeTemporary (m := StateM World) (Path.parentOf path)).run w
        = pure (.error cause, w)) ∨
    ∃ temp, w.tree.entryAt? temp = none ∧
      (Host.makeTemporary (m := StateM World) (Path.parentOf path)).run w
        = pure (.ok temp, w.withFile temp ⟨[], Tree.temporaryMode, w.tree.clock⟩) := by
  obtain ⟨temp, hfresh, htemp⟩ := Tree.makeTemporary_of_locate hloc
  refine Or.imp_right (fun hrun => ⟨temp, hfresh, hrun⟩) ?_
  exact attempt_cases .before .makeTemporary htemp

/-! ## The temporary file -/

section Temporary

variable (hfresh : w.tree.entryAt? temp = none)
include hfresh

theorem fill_cases (data : FileData) (content : Bytes) (path : String) :
    (∃ cause, w.Refuses path cause ∧
      (Host.fill (m := StateM World) temp content).run (w.withFile temp data)
        = pure (.error cause, w.withFile temp data)) ∨
    (Host.fill (m := StateM World) temp content).run (w.withFile temp data)
      = pure (.ok (), w.withFile temp { data with content, modified := w.tree.clock }) := by
  refine attempt_cases (.beside data hfresh) (.fill content) ?_
  rw [Tree.modifyFile_put (Tree.ne_nil_of_entryAt? hfresh), Tree.clock_put]

theorem sync_cases (data : FileData) (path : String) :
    (∃ cause, w.Refuses path cause ∧ (Host.sync (m := StateM World) temp).run (w.withFile temp data)
        = pure (.error cause, w.withFile temp data)) ∨
    (Host.sync (m := StateM World) temp).run (w.withFile temp data)
      = pure (.ok (), w.withFile temp data) :=
  attempt_cases (.beside data hfresh) .sync rfl

/-- The permission bits are those of the file that is going to be replaced. -/
theorem copyPermissions_cases (hfile : w.tree.file? w.cwd path = .ok old) (data : FileData) :
    (∃ cause, w.Refuses path cause ∧
      (copyPermissions (m := StateM World) temp path).run (w.withFile temp data)
        = pure (.error cause, w.withFile temp data)) ∨
    (copyPermissions (m := StateM World) temp path).run (w.withFile temp data)
      = pure (.ok (), w.withFile temp { data with mode := old.mode }) := by
  have hpermissions : (Host.permissions (m := StateM World) path).run (w.withFile temp data)
      = pure (.ok old.mode, w.withFile temp data) := by
    have hfile' := (Tree.extends_put hfresh (.file data)).file? hfile
    rw [host_permissions, Tree.permissions]
    simp only [withFile, hfile']
    rfl
  rw [copyPermissions, StateT.run_bind, hpermissions]
  simp only [pure_bind]
  refine attempt_cases (.beside data hfresh) (.setPermissions old.mode) ?_
  rw [Tree.modifyFile_put (Tree.ne_nil_of_entryAt? hfresh)]

variable (hfile : w.tree.file? w.cwd path = .ok old) (hloc : w.tree.locate w.cwd path = .ok loc)
include hfile hloc

theorem persist_cases (data : FileData) :
    (∃ cause, w.Refuses path cause ∧
      (Host.persist (m := StateM World) temp path).run (w.withFile temp data)
        = pure (.error cause, w.withFile temp data)) ∨
    (Host.persist (m := StateM World) temp path).run (w.withFile temp data)
      = pure (.ok (), w.withFile loc data) := by
  refine attempt_cases (.beside data hfresh) .persist ?_
  rw [Tree.persist_put hfresh hfile hloc]
  rfl

/-- The temporary file is completed and takes the place of the entry that the path names, or a step
is refused, and then it is still there. -/
theorem fillAndPersist_cases (data : FileData) (content : Bytes) :
    (∃ cause data', w.Refuses path cause ∧
      (fillAndPersist (m := StateM World) temp path content).run.run (w.withFile temp data)
        = pure (.error cause, w.withFile temp data')) ∨
    (fillAndPersist (m := StateM World) temp path content).run.run (w.withFile temp data)
      = pure (.ok (), w.withFile loc ⟨content, old.mode, w.tree.clock⟩) := by
  rw [fillAndPersist]
  rcases fill_cases hfresh data content path with ⟨cause, hrefuses, hrun⟩ | hrun
  · exact Or.inl ⟨cause, _, hrefuses, bind_of_error hrun⟩
  rw [bind_of_ok hrun]
  rcases sync_cases hfresh _ path with ⟨cause, hrefuses, hrun⟩ | hrun
  · exact Or.inl ⟨cause, _, hrefuses, bind_of_error hrun⟩
  rw [bind_of_ok hrun]
  rcases copyPermissions_cases hfresh hfile _ with ⟨cause, hrefuses, hrun⟩ | hrun
  · exact Or.inl ⟨cause, _, hrefuses, bind_of_error hrun⟩
  rw [bind_of_ok hrun]
  rcases persist_cases hfresh hfile hloc _ with ⟨cause, hrefuses, hrun⟩ | hrun
  · exact Or.inl ⟨cause, _, hrefuses, hrun⟩
  · exact Or.inr hrun

end Temporary

/-! ## Atomic writes -/

/-- A write to a path that leads to a file is refused at some step, and the world is as it was; or a
new file is in the place of the entry that the path names, with the permission bits of the old one.
-/
theorem atomicWrite_cases (hfile : w.tree.file? w.cwd path = .ok old)
    (hloc : w.tree.locate w.cwd path = .ok loc) (content : Bytes) :
    (∃ cause, w.Refuses path cause ∧
      (atomicWrite (m := StateM World) path content).run w = pure (.error cause, w)) ∨
    (atomicWrite (m := StateM World) path content).run w
      = pure (.ok (), w.withFile loc ⟨content, old.mode, w.tree.clock⟩) := by
  rw [atomicWrite, StateT.run_bind]
  rcases checkWritable_cases hfile with ⟨cause, hrefuses, hrun⟩ | hrun
  · rw [hrun]
    exact Or.inl ⟨cause, hrefuses, rfl⟩
  rw [hrun]
  simp only [pure_bind, StateT.run_bind]
  rcases makeTemporary_cases hloc with ⟨cause, hrefuses, hrun⟩ | ⟨temp, hfresh, hrun⟩
  · rw [hrun]
    exact Or.inl ⟨cause, hrefuses, rfl⟩
  · rw [hrun]
    simp only [pure_bind]
    rcases fillAndPersist_cases hfresh hfile hloc _ content with
      ⟨cause, data, hrefuses, hrun⟩ | hrun
    · -- The temporary file is removed, and no trace of it is left.
      refine Or.inl ⟨cause, hrefuses, ?_⟩
      rw [StateT.run_bind, hrun]
      simp only [pure_bind, StateT.run_bind, host_discard, withFile, Tree.erase_put hfresh]
      rfl
    · rw [StateT.run_bind, hrun]
      exact Or.inr rfl

/-! ## Replaced files -/

/-- The second world is the first with the entry at a location replaced by a file. -/
structure Replaced (w w' : World) (loc : Location) (new : FileData) : Prop where
  entry : w'.tree.entryAt? loc = some (.file new)
  other : ∀ l, l ≠ loc → w'.tree.entryAt? l = w.tree.entryAt? l
  cwd : w'.cwd = w.cwd
  home : w'.home = w.home
  output : w'.output = w.output
  policy : w'.policy = w.policy

theorem replaced_withFile (w : World) (hloc : loc ≠ []) (new : FileData) :
    Replaced w (w.withFile loc new) loc new where
  entry := (Tree.entryAt?_put _ hloc _ _).trans (if_pos rfl)
  other := fun l hl => (Tree.entryAt?_put _ hloc _ l).trans (if_neg hl)
  cwd := rfl
  home := rfl
  output := rfl
  policy := rfl

/-- A path that led to a file leads to the new file when the entry that it names is replaced. -/
theorem Replaced.read {new : FileData} (h : Replaced w w' loc new)
    (hloc : w.tree.locate w.cwd path = .ok loc) (hread : w.read path = .ok d) :
    w'.read path = .ok new.content ∧ w'.tree.locate w'.cwd path = .ok loc := by
  obtain ⟨old, hold, -⟩ := exists_file?_of_read hread
  obtain ⟨hnew, hloc'⟩ := Tree.file?_of_entryAt? hold hloc h.entry h.other
  rw [World.read, Tree.read, h.cwd, hnew]
  exact ⟨rfl, hloc'⟩

/-- The time of a file that was just written is set, or this is refused. -/
theorem stamp_cases (hfile : w.tree.file? w.cwd path = .ok old)
    (hloc : w.tree.locate w.cwd path = .ok loc) (data : FileData) :
    (∃ cause, w.policy (w.withFile loc data).tree w.cwd (.stamp path) = some cause ∧
      (Host.stamp (m := StateM World) path).run (w.withFile loc data)
        = pure (.error cause, w.withFile loc data)) ∨
    ∃ w', (Host.stamp (m := StateM World) path).run (w.withFile loc data) = pure (.ok (), w') ∧
      Replaced w w' loc { data with modified := w.tree.clock } := by
  obtain ⟨loc', hloc', -, hne⟩ := Tree.exists_location hfile
  obtain rfl := Except.ok.inj (hloc.symm.trans hloc')
  cases hstamp : w.policy (w.withFile loc data).tree w.cwd (.stamp path) with
  | some cause => exact Or.inl ⟨cause, rfl, attempt_of_refused hstamp⟩
  | none =>
    have hput := Tree.stamp_put hfile hloc data
    let stamped := w.withFile loc { data with modified := w.tree.clock }
    obtain ⟨hentry, hother, -⟩ := replaced_withFile w hne { data with modified := w.tree.clock }
    refine Or.inr ⟨{ stamped with tree := stamped.tree.tick },
      attempt_of_granted hstamp ?_, ⟨hentry, hother, rfl, rfl, rfl, rfl⟩⟩
    simp only [withFile, hput]
    rfl

/-! ## Applying edits -/

section Apply

variable {b : FileEdits}

/-- Edits that do not fit the file leave the world alone. -/
theorem apply_of_error {cause : EditError} (hedits : b.edits.isEmpty = false)
    (hread : w.read b.file = .ok d) (h : b.resultOn d = .error cause) :
    (b.apply (m := StateM World)).run w = pure (.error cause, w) := by
  rw [FileEdits.apply, if_neg (by simp [hedits]), StateT.run_bind, host_read, hread]
  simp only [pure_bind, h]
  rfl

/-- Edits of a file that cannot be read leave the world alone. -/
theorem apply_of_unreadable (hedits : b.edits.isEmpty = false)
    (hread : w.read b.file = .error cause) :
    (b.apply (m := StateM World)).run w = pure (.error (.io cause), w) := by
  rw [FileEdits.apply, if_neg (by simp [hedits]), StateT.run_bind, host_read, hread]
  rfl

/-- Edits that fit the file fail if the write does. -/
theorem apply_of_write_error {out : Bytes} (hedits : b.edits.isEmpty = false)
    (hread : w.read b.file = .ok d) (h : b.resultOn d = .ok out)
    (hwrite : (atomicWrite (m := StateM World) b.file out).run w = pure (.error cause, w)) :
    (b.apply (m := StateM World)).run w = pure (.error (.io cause), w) := by
  rw [FileEdits.apply, if_neg (by simp [hedits]), StateT.run_bind, host_read, hread]
  simp only [pure_bind, h]
  rw [StateT.run_bind, hwrite]
  rfl

/-- Edits that fit the file are refused at some step, and the world is as it was; or they put a new
file in the place of the entry that its path names, with the permission bits of the old one. In the
end they are applied, unless the policy refuses to set the time of the new file. -/
theorem apply_cases {out : Bytes} (hedits : b.edits.isEmpty = false)
    (hfile : w.tree.file? w.cwd b.file = .ok old) (h : b.resultOn old.content = .ok out) :
    (∃ cause, w.Refuses b.file cause ∧
      (b.apply (m := StateM World)).run w = pure (.error (.io cause), w)) ∨
    ∃ w' loc, w.tree.locate w.cwd b.file = .ok loc ∧
      Replaced w w' loc ⟨out, old.mode, w.tree.clock⟩ ∧
      ((∃ cause, w.policy w'.tree w.cwd (.stamp b.file) = some cause ∧
          (b.apply (m := StateM World)).run w = pure (.error (.io cause), w')) ∨
        (b.apply (m := StateM World)).run w
          = pure (.ok (.applied b.file b.edits.length out.length), w')) := by
  -- A file that can be read has an entry, which is what will be replaced.
  obtain ⟨loc, hloc, -, hne⟩ := Tree.exists_location hfile
  have hread := read_of_file? hfile
  rcases atomicWrite_cases hfile hloc out with ⟨cause, hrefuses, hwrite⟩ | hwrite
  · exact Or.inl ⟨cause, hrefuses, apply_of_write_error hedits hread h hwrite⟩
  refine Or.inr ?_
  rw [FileEdits.apply, if_neg (by simp [hedits]), StateT.run_bind, host_read, hread]
  simp only [pure_bind, h]
  rw [StateT.run_bind, hwrite, pure_bind]
  simp only [StateT.run_bind]
  rcases stamp_cases hfile hloc ⟨out, old.mode, w.tree.clock⟩ with ⟨cause, hstamp, hrun⟩ |
    ⟨w', hrun, hreplaced⟩
  · rw [hrun]
    exact ⟨_, loc, hloc, replaced_withFile w hne _, Or.inl ⟨cause, hstamp, rfl⟩⟩
  · rw [hrun]
    exact ⟨w', loc, hloc, hreplaced, Or.inr rfl⟩

end Apply

end World

end SourcePatch
