import SourcePatch.Proofs.Disk.Canonical
import SourcePatch.Workspace.Guard

/-!
# Guards in a world

What a guard answers when the host is a `World`. Making a guard and asking it change nothing.

* `World.guard` is the guard for a resolved root.
* `World.validate_eq_ok_iff`: which paths a guard accepts.
* `World.Patchable` says all that a guard has found out about a location that it accepts;
  `World.exists_patchable` and `World.Patchable.validate` relate it to the answer.
-/

namespace SourcePatch

namespace Path

variable {root path : String}

/-- A path that is taken from an absolute one is absolute. -/
theorem isAbsolute_join (h : isAbsolute root = true) : isAbsolute (join root path) = true := by
  rw [join]
  split
  · rename_i hpath
    rw [Bool.or_eq_true] at hpath
    rcases hpath with hpath | hempty
    · exact hpath
    · obtain rfl : root = "" := by simpa using hempty
      cases h
  obtain ⟨rest, hrest⟩ : ∃ rest, root.toList = '/' :: rest := by
    rw [isAbsolute, decide_eq_true_eq] at h
    exact List.head?_eq_some_iff.1 h
  split
  · rw [isAbsolute, String.toList_append, hrest]
    rfl
  · rw [isAbsolute, String.toList_append, String.toList_append, hrest]
    rfl

theorem join_of_isAbsolute (root : String) (h : isAbsolute path = true) :
    join root path = path := by
  rw [join, h, Bool.true_or, if_pos rfl]

end Path

theorem WorkspaceGuard.refusal?_eq_none_iff {g : WorkspaceGuard} {path : String} :
    g.refusal? path = none ↔
      Path.components g.root <+: Path.components path ∧
        ∀ dir ∈ g.forbidden, ¬ Path.components dir <+: Path.components path := by
  rw [refusal?]
  -- The root is looked at first, and the forbidden directories only below it.
  by_cases hroot : Path.components g.root <+: Path.components path
  · have hwithin : (!Path.isWithin g.root path) = false := by
      simpa [Path.isWithin, List.isPrefixOf_iff_prefix] using hroot
    rw [hwithin, if_neg (by simp), Option.map_eq_none_iff, List.find?_eq_none]
    simp [hroot, Path.isWithin, List.isPrefixOf_iff_prefix]
  · have hwithin : (!Path.isWithin g.root path) = true := by
      simpa [Path.isWithin, ← List.isPrefixOf_iff_prefix] using hroot
    rw [hwithin, if_pos rfl]
    simp [hroot]

namespace World

variable {w w' : World} {g : WorkspaceGuard} {path root c : String} {loc : Location}

/-! ## Resolved paths -/

/-- A resolved path is that of the location which the path leads to. -/
theorem canonicalize_eq_ok_iff :
    w.canonicalize path = .ok c ↔
      ∃ loc, w.tree.resolve w.cwd path = .ok loc ∧ c = Path.ofLocation loc := by
  rw [canonicalize]
  cases w.tree.resolve w.cwd path with
  | error cause => simp [Except.map]
  | ok loc => simp [Except.map, eq_comm]

theorem isAbsolute_of_canonicalize (h : w.canonicalize path = .ok c) :
    Path.isAbsolute c = true := by
  obtain ⟨loc, -, rfl⟩ := canonicalize_eq_ok_iff.1 h
  exact Path.isAbsolute_ofLocation loc

/-! ## Making guards -/

/-- The directories that a guard for a root keeps out of, whether they exist or not. -/
def forbiddenDirs (w : World) (root : String) : List String :=
  WorkspaceGuard.forbiddenInWorkspace.map (Path.join root) ++
    match w.home with
    | some home => WorkspaceGuard.forbiddenInHome.map (Path.join home)
    | none => []

/-- The guard for a resolved root. -/
def guard (w : World) (root : String) : WorkspaceGuard where
  root := root
  forbidden := (w.forbiddenDirs root).filterMap fun dir => (w.canonicalize dir).toOption

theorem mem_guard_forbidden :
    c ∈ (w.guard root).forbidden ↔ ∃ dir ∈ w.forbiddenDirs root, w.canonicalize dir = .ok c := by
  rw [guard, List.mem_filterMap]
  have htoOption (r : Except OsError String) : r.toOption = some c ↔ r = .ok c := by
    cases r <;> simp [Except.toOption]
  simp only [htoOption]

theorem host_canonicalize (w : World) (path : String) :
    (Host.canonicalize (m := StateM World) path).run w = pure (w.canonicalize path, w) := rfl

theorem existing_run (w : World) (dirs : List String) :
    (WorkspaceGuard.existing (m := StateM World) dirs).run w
      = pure (dirs.filterMap fun dir => (w.canonicalize dir).toOption, w) := by
  induction dirs with
  | nil => rfl
  | cons dir dirs ih =>
    rw [WorkspaceGuard.existing, StateT.run_bind, host_canonicalize, pure_bind]
    cases hdir : w.canonicalize dir with
    | error cause => simpa [hdir, Except.toOption] using ih
    | ok path =>
      simp only [StateT.run_bind, ih, pure_bind]
      simp [hdir, Except.toOption]

theorem ofRoot_of_error {cause : OsError} (h : w.canonicalize path = .error cause) :
    (WorkspaceGuard.ofRoot (m := StateM World) path).run w
      = pure (.error (.canonicalize path cause), w) := by
  rw [WorkspaceGuard.ofRoot, StateT.run_bind, host_canonicalize, pure_bind, h]
  rfl

/-- A root that exists has a guard. -/
theorem ofRoot_of_ok (h : w.canonicalize path = .ok root) :
    (WorkspaceGuard.ofRoot (m := StateM World) path).run w = pure (.ok (w.guard root), w) := by
  rw [WorkspaceGuard.ofRoot, StateT.run_bind, host_canonicalize, pure_bind, h]
  simp only [StateT.run_bind, existing_run]
  rfl

/-! ## Asking guards -/

/-- What a guard answers to a path. -/
def validate (w : World) (g : WorkspaceGuard) (path : String) : Except SafetyError String :=
  match w.canonicalize (Path.join g.root path) with
  | .error cause => .error (.canonicalize (Path.join g.root path) cause)
  | .ok path =>
    match g.refusal? path with
    | some e => .error e
    | none => if w.tree.isRegularFile w.cwd path then .ok path else .error (.notAFile path)

/-- To ask a guard changes nothing. -/
theorem validate_run (w : World) (g : WorkspaceGuard) (path : String) :
    (g.validate (m := StateM World) path).run w = pure (w.validate g path, w) := by
  have hpath : (if Path.isAbsolute path = true then path else Path.join g.root path)
      = Path.join g.root path := by
    split
    · rename_i habsolute
      rw [Path.join_of_isAbsolute _ habsolute]
    · rfl
  rw [WorkspaceGuard.validate, hpath, StateT.run_bind, host_canonicalize, pure_bind, validate]
  cases w.canonicalize (Path.join g.root path) with
  | error cause => rfl
  | ok path =>
    simp only
    cases g.refusal? path with
    | some e => rfl
    | none =>
      simp only [StateT.run_bind]
      show (if w.tree.isRegularFile w.cwd path = true then _ else _ : StateM World _).run w = _
      split <;> rfl

theorem validate_of_error {cause : OsError}
    (hpath : w.canonicalize (Path.join g.root path) = .error cause) :
    w.validate g path = .error (.canonicalize (Path.join g.root path) cause) := by
  rw [validate, hpath]

theorem validate_of_refusal {e : SafetyError}
    (hpath : w.canonicalize (Path.join g.root path) = .ok c) (hrefusal : g.refusal? c = some e) : w.validate g path = .error e := by
  rw [validate, hpath]
  simp only [hrefusal]

theorem validate_of_allowed (hpath : w.canonicalize (Path.join g.root path) = .ok c)
    (hrefusal : g.refusal? c = none) : w.validate g path
      = if w.tree.isRegularFile w.cwd c then .ok c else .error (.notAFile c) := by
  rw [validate, hpath]
  simp only [hrefusal]

/-- A guard accepts the resolved path of a regular file, unless it refuses it. -/
theorem validate_eq_ok_iff :
    w.validate g path = .ok c ↔ w.canonicalize (Path.join g.root path) = .ok c ∧
      g.refusal? c = none ∧ w.tree.isRegularFile w.cwd c = true := by
  cases hpath : w.canonicalize (Path.join g.root path) with
  | error cause =>
    rw [validate_of_error hpath]
    simp
  | ok path =>
    cases hrefusal : g.refusal? path with
    | some e =>
      rw [validate_of_refusal hpath hrefusal]
      constructor
      · intro h
        cases h
      · rintro ⟨hsame, hnone, -⟩
        obtain rfl := Except.ok.inj hsame
        rw [hrefusal] at hnone
        cases hnone
    | none =>
      rw [validate_of_allowed hpath hrefusal]
      split
      · rename_i hfile
        constructor
        · intro h
          obtain rfl := Except.ok.inj h
          exact ⟨rfl, hrefusal, hfile⟩
        · rintro ⟨hsame, -, -⟩
          obtain rfl := Except.ok.inj hsame
          rfl
      · rename_i hfile
        constructor
        · intro h
          cases h
        · rintro ⟨hsame, -, hfile'⟩
          obtain rfl := Except.ok.inj hsame
          exact absurd hfile' hfile

/-! ## Patchable files -/

/-- All that a guard has found out about a location that it accepts. -/
structure Patchable (w : World) (g : WorkspaceGuard) (loc : Location) : Prop where
  canonical : w.tree.Canonical loc
  file : ∃ data, w.tree.entryAt? loc = some (.file data)
  noNul : '\x00' ∉ (Path.ofLocation loc).toList
  allowed : g.refusal? (Path.ofLocation loc) = none

namespace Patchable

/-- What a guard has found out stays true while files are rewritten. -/
theorem of_sameShape (hshape : w.tree.SameShape w'.tree) (h : w'.Patchable g loc) :
    w.Patchable g loc := by
  obtain ⟨new, hnew⟩ := h.file
  exact ⟨h.canonical.of_sameShape hshape, hshape.exists_file hnew, h.noNul, h.allowed⟩

theorem ne_nil (h : w.Patchable g loc) : loc ≠ [] := by
  rintro rfl
  obtain ⟨data, hdata⟩ := h.file
  cases hdata

theorem resolve (h : w.Patchable g loc) : w.tree.resolve w.cwd (Path.ofLocation loc) = .ok loc :=
  h.canonical.resolve_ofLocation h.ne_nil h.noNul w.cwd

theorem locate (h : w.Patchable g loc) : w.tree.locate w.cwd (Path.ofLocation loc) = .ok loc :=
  h.canonical.locate_ofLocation h.ne_nil h.noNul w.cwd

/-- The path of the location leads to the file that lies there. -/
theorem file? {data : FileData} (h : w.Patchable g loc)
    (hdata : w.tree.entryAt? loc = some (.file data)) :
    w.tree.file? w.cwd (Path.ofLocation loc) = .ok data := by
  rw [Tree.file?, h.resolve]
  simp only [bind, Except.bind, hdata]
  rfl

/-- The path of the location is its own resolved path. -/
theorem canonicalize (h : w.Patchable g loc) :
    w.canonicalize (Path.ofLocation loc) = .ok (Path.ofLocation loc) := by
  rw [World.canonicalize, h.resolve]
  rfl

/-- A guard accepts the paths that lead to the location, and gives its resolved path. -/
theorem validate (h : w.Patchable g loc)
    (hresolve : w.tree.resolve w.cwd (Path.join g.root path) = .ok loc) :
    w.validate g path = .ok (Path.ofLocation loc) := by
  obtain ⟨data, hdata⟩ := h.file
  refine validate_eq_ok_iff.2 ⟨?_, h.allowed, ?_⟩
  · rw [World.canonicalize, hresolve]
    rfl
  · rw [Tree.isRegularFile, h.file? hdata]

end Patchable

/-- What a guard accepts is the resolved path of a file. -/
theorem exists_patchable (hroot : Path.isAbsolute g.root = true) (h : w.validate g path = .ok c) :
    ∃ loc, c = Path.ofLocation loc ∧ w.tree.resolve w.cwd (Path.join g.root path) = .ok loc ∧
      w.Patchable g loc := by
  obtain ⟨hpath, hallowed, hfile⟩ := validate_eq_ok_iff.1 h
  obtain ⟨loc, hresolve, rfl⟩ := canonicalize_eq_ok_iff.1 hpath
  have hcanonical := Tree.canonical_of_resolve hresolve (Path.isAbsolute_join hroot)
  -- The path is that of a file, so it can be resolved, and it can resolve to nothing else.
  rw [Tree.isRegularFile] at hfile
  split at hfile
  · rename_i data hdata
    obtain ⟨place, hplace, hentry⟩ := Tree.exists_resolve_of_file? hdata
    obtain ⟨hnul, -⟩ := Tree.of_resolve_ok hplace
    have hne : loc ≠ [] := by
      rintro rfl
      have := Tree.directory_of_asks hplace (by decide)
      rw [hentry] at this
      cases this
    rw [hcanonical.resolve_ofLocation hne hnul w.cwd] at hplace
    obtain rfl := Except.ok.inj hplace
    exact ⟨loc, rfl, hresolve, hcanonical, ⟨data, hentry⟩, hnul, hallowed⟩
  · cases hfile

end World

end SourcePatch
