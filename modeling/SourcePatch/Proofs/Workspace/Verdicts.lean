import Mathlib.Data.List.Find
import SourcePatch.Proofs.Workspace.Guarding

/-!
# Verdicts of a guard

Which answer a guard gives to a path, said by where the path and the directories lead.

* `World.accepts_iff`: whatever became of the tree since the guard was made, it accepts the paths
  that lead to a regular file under its root and under none of the directories on its list.
* `World.Refusal` lists the reasons against a path, each for the case that none before it applies.
* `World.guard_verdicts`: as long as the tree is what it was, a guard gives the first reason that
  applies, and accepts a path if there is none.
-/

namespace SourcePatch

variable {cwd cwd' loc : Location} {path root given c : String}

/-! ## Names in paths -/

theorem Path.nul_not_mem_ofLocation (h : ∀ name ∈ loc, '\x00' ∉ name.toList) :
    '\x00' ∉ (Path.ofLocation loc).toList := by
  have hnames : '\x00' ∉ ['/'].intercalate (loc.map String.toList) := by
    induction loc with
    | nil => simp
    | cons name names ih =>
      obtain ⟨hname, hnames⟩ := List.forall_mem_cons.1 h
      cases names with
      | nil => simpa using hname
      | cons second rest =>
        rw [List.map_cons, List.map_cons, List.intercalate_cons_cons]
        simpa [hname] using ih hnames
  rw [Path.ofLocation, String.toList_append, String.toList_intercalate]
  simpa using hnames

namespace Tree

variable {t : Tree}

/-- No name in the tree holds the character that ends a path. -/
def NulFree (t : Tree) : Prop := ∀ p ∈ t.entries, ∀ name ∈ p.1, '\x00' ∉ name.toList

instance (t : Tree) : Decidable t.NulFree :=
  inferInstanceAs (Decidable (∀ p ∈ t.entries, ∀ name ∈ p.1, '\x00' ∉ name.toList))

theorem NulFree.nul_not_mem {e : Entry} (h : t.NulFree) (hloc : t.entryAt? loc = some e) :
    '\x00' ∉ (Path.ofLocation loc).toList := by
  apply Path.nul_not_mem_ofLocation
  intro name hname
  have hne : loc.isEmpty = false := by
    rw [List.isEmpty_eq_false_iff]
    exact List.ne_nil_of_mem hname
  rw [entryAt?, hne, if_neg (by simp)] at hloc
  obtain ⟨before, after, hentries, -⟩ := List.lookup_eq_some_iff.1 hloc
  exact h (loc, e) (hentries ▸ List.mem_append_right _ (List.mem_cons_self ..)) name hname

/-- Where one stands makes no difference to an absolute path. -/
theorem resolve_of_isAbsolute (t : Tree) (h : Path.isAbsolute path = true) (cwd cwd' : Location) :
    t.resolve cwd path = t.resolve cwd' path := by
  rw [resolve, resolve, h]
  rfl

end Tree

namespace World

variable {w w' : World} {g : WorkspaceGuard} {e : SafetyError}

/-! ## Worlds with one tree -/

theorem canonicalize_of_isAbsolute (h : Path.isAbsolute path = true) (htree : w'.tree = w.tree) :
    w'.canonicalize path = w.canonicalize path := by
  rw [canonicalize, canonicalize, htree, w.tree.resolve_of_isAbsolute h w'.cwd w.cwd]

/-- A guard answers by the tree alone. -/
theorem validate_of_tree (hroot : Path.isAbsolute g.root = true) (htree : w'.tree = w.tree)
    (path : String) : w'.validate g path = w.validate g path := by
  rw [validate, validate, canonicalize_of_isAbsolute (Path.isAbsolute_join hroot) htree]
  cases hpath : w.canonicalize (Path.join g.root path) with
  | error cause => rfl
  | ok c =>
    have hfile : w'.tree.isRegularFile w'.cwd c = w.tree.isRegularFile w.cwd c := by
      obtain ⟨loc, -, rfl⟩ := canonicalize_eq_ok_iff.1 hpath
      rw [Tree.isRegularFile, Tree.isRegularFile, Tree.file?, Tree.file?, htree,
        w.tree.resolve_of_isAbsolute (Path.isAbsolute_ofLocation loc) w'.cwd w.cwd]
    simp only [hfile]

/-! ## Accepted paths -/

/-- Whatever world a guard comes from, it accepts the paths that lead to a regular file under its
root and under no directory on its list, and gives the path of the file. -/
theorem accepts_iff (hnames : w.tree.NulFree) (hroot : Path.isAbsolute g.root = true) :
    w.validate g path = .ok c ↔
      ∃ loc data, w.tree.resolve w.cwd (Path.join g.root path) = .ok loc ∧
        w.tree.entryAt? loc = some (.file data) ∧ c = Path.ofLocation loc ∧
        Path.components g.root <+: Path.components c ∧
        ∀ dir ∈ g.forbidden, ¬ Path.components dir <+: Path.components c := by
  constructor
  · intro h
    obtain ⟨loc, rfl, hresolve, hloc⟩ := exists_patchable hroot h
    obtain ⟨data, hdata⟩ := hloc.file
    exact ⟨loc, data, hresolve, hdata, rfl, WorkspaceGuard.refusal?_eq_none_iff.1 hloc.allowed⟩
  · rintro ⟨loc, data, hresolve, hdata, rfl, hallowed⟩
    have hloc : w.Patchable g loc :=
      { canonical := Tree.canonical_of_resolve hresolve (Path.isAbsolute_join hroot)
        file := ⟨data, hdata⟩
        noNul := hnames.nul_not_mem hdata
        allowed := WorkspaceGuard.refusal?_eq_none_iff.2 hallowed }
    exact hloc.validate hresolve

/-- A guard accepts the path that it gave. -/
theorem validate_of_validate (hroot : Path.isAbsolute g.root = true)
    (h : w.validate g path = .ok c) : w.validate g c = .ok c := by
  obtain ⟨loc, rfl, -, hloc⟩ := exists_patchable hroot h
  refine hloc.validate ?_
  rw [Path.join_of_isAbsolute _ (Path.isAbsolute_ofLocation loc)]
  exact hloc.resolve

/-! ## Refused paths -/

/-- A directory exists and keeps a path out: the path lies under what the directory resolves to,
component by component. -/
def KeepsOut (w : World) (c dir : String) : Prop :=
  ∃ resolved, w.canonicalize dir = .ok resolved ∧ Path.components resolved <+: Path.components c

theorem keepsOut_iff {dir : String} : w.KeepsOut c dir ↔
    ((w.canonicalize dir).toOption.any fun resolved => Path.isWithin resolved c) = true := by
  rw [KeepsOut]
  cases w.canonicalize dir <;> simp [Except.toOption, Path.isWithin, List.isPrefixOf_iff_prefix]

instance (w : World) (c dir : String) : Decidable (w.KeepsOut c dir) :=
  decidable_of_iff _ keepsOut_iff.symm

theorem forall_not_keepsOut_iff :
    (∀ dir ∈ w.forbiddenDirs root, ¬ w.KeepsOut c dir) ↔
      ∀ dir ∈ (w.guard root).forbidden, ¬ Path.components dir <+: Path.components c := by
  constructor
  · intro h resolved hmem hunder
    obtain ⟨dir, hdir, hresolved⟩ := mem_guard_forbidden.1 hmem
    exact h dir hdir ⟨resolved, hresolved, hunder⟩
  · rintro h dir hdir ⟨resolved, hresolved, hunder⟩
    exact h resolved (mem_guard_forbidden.2 ⟨dir, hdir, hresolved⟩) hunder

/-- Why a path is refused in a workspace with a resolved root. Each reason stands for the case that
none of those before it applies. -/
inductive Refusal (w : World) (root path : String) : SafetyError → Prop
  | unresolved {cause : OsError} (hpath : w.canonicalize (Path.join root path) = .error cause) :
    Refusal w root path (.canonicalize (Path.join root path) cause)
  | outside {c : String} (hpath : w.canonicalize (Path.join root path) = .ok c)
    (hroot : ¬ Path.components root <+: Path.components c) :
    Refusal w root path (.outsideWorkspace c root)
  | forbidden {c dir resolved : String} {before after : List String}
    (hpath : w.canonicalize (Path.join root path) = .ok c)
    (hroot : Path.components root <+: Path.components c)
    (hdirs : w.forbiddenDirs root = before ++ dir :: after)
    (hbefore : ∀ earlier ∈ before, ¬ w.KeepsOut c earlier)
    (hresolved : w.canonicalize dir = .ok resolved)
    (hunder : Path.components resolved <+: Path.components c) :
    Refusal w root path (.forbiddenPath c resolved)
  | notAFile {loc : Location}
    (hpath : w.tree.resolve w.cwd (Path.join root path) = .ok loc)
    (hroot : Path.components root <+: Path.components (Path.ofLocation loc))
    (hnone : ∀ dir ∈ w.forbiddenDirs root, ¬ w.KeepsOut (Path.ofLocation loc) dir)
    (hfile : ∀ data, w.tree.entryAt? loc ≠ some (.file data)) :
    Refusal w root path (.notAFile (Path.ofLocation loc))

/-- The first directory on the list of a guard that keeps a path out is the first of the forbidden
directories that does. -/
theorem find?_forbidden_eq_some_iff {resolved : String} :
    (w.guard root).forbidden.find? (fun dir => Path.isWithin dir c) = some resolved ↔
      ∃ before dir after, w.forbiddenDirs root = before ++ dir :: after ∧
        (∀ earlier ∈ before, ¬ w.KeepsOut c earlier) ∧ w.canonicalize dir = .ok resolved ∧
        Path.components resolved <+: Path.components c := by
  have hresolved (dir : String) : (w.canonicalize dir).toOption = some resolved ↔
      w.canonicalize dir = .ok resolved := by
    cases w.canonicalize dir <;> simp [Except.toOption]
  rw [guard, List.find?_filterMap, Option.bind_eq_some_iff]
  constructor
  · rintro ⟨dir, hfind, hdir⟩
    obtain ⟨hunder, before, after, hdirs, hbefore⟩ := List.find?_eq_some_iff_append.1 hfind
    rw [hresolved] at hdir
    obtain ⟨resolved', hresolved', hunder⟩ := keepsOut_iff.2 hunder
    rw [hdir] at hresolved'
    obtain rfl := Except.ok.inj hresolved'
    refine ⟨before, dir, after, hdirs, ?_, hdir, hunder⟩
    intro earlier hearlier hkeep
    have hnot := hbefore earlier hearlier
    rw [keepsOut_iff.1 hkeep] at hnot
    cases hnot
  · rintro ⟨before, dir, after, hdirs, hbefore, hdir, hunder⟩
    refine ⟨dir, ?_, (hresolved dir).2 hdir⟩
    refine List.find?_eq_some_iff_append.2
      ⟨keepsOut_iff.1 ⟨resolved, hdir, hunder⟩, before, after, hdirs, ?_⟩
    intro earlier hearlier
    rw [Bool.not_eq_true', Bool.eq_false_iff, ne_eq, ← keepsOut_iff]
    exact hbefore earlier hearlier

/-- The reasons that a guard has against a resolved path. -/
theorem refusal?_eq_some_iff :
    (w.guard root).refusal? c = some e ↔
      (¬ Path.components root <+: Path.components c ∧ e = .outsideWorkspace c root) ∨
      (Path.components root <+: Path.components c ∧ ∃ before dir after resolved,
        w.forbiddenDirs root = before ++ dir :: after ∧
        (∀ earlier ∈ before, ¬ w.KeepsOut c earlier) ∧ w.canonicalize dir = .ok resolved ∧
        Path.components resolved <+: Path.components c ∧ e = .forbiddenPath c resolved) := by
  have hwithin : Path.isWithin (w.guard root).root c = true ↔
      Path.components root <+: Path.components c := List.isPrefixOf_iff_prefix
  rw [WorkspaceGuard.refusal?]
  by_cases hroot : Path.components root <+: Path.components c
  · rw [hwithin.2 hroot, if_neg (by simp), Option.map_eq_some_iff]
    simp only [find?_forbidden_eq_some_iff]
    constructor
    · rintro ⟨resolved, ⟨before, dir, after, hdirs, hbefore, hdir, hunder⟩, rfl⟩
      exact Or.inr ⟨hroot, before, dir, after, resolved, hdirs, hbefore, hdir, hunder, rfl⟩
    · rintro (⟨hout, -⟩ | ⟨-, before, dir, after, resolved, hdirs, hbefore, hdir, hunder, rfl⟩)
      · exact absurd hroot hout
      · exact ⟨resolved, ⟨before, dir, after, hdirs, hbefore, hdir, hunder⟩, rfl⟩
  · have hout : Path.isWithin (w.guard root).root c = false := by
      rw [Bool.eq_false_iff, ne_eq, hwithin]
      exact hroot
    rw [hout, if_pos (by simp), Option.some_inj]
    constructor
    · rintro rfl
      exact Or.inl ⟨hroot, rfl⟩
    · rintro (⟨-, rfl⟩ | ⟨hin, -⟩)
      · rfl
      · exact absurd hin hroot

/-- What a guard lets pass and does not accept is no file. -/
theorem not_file_of_validate_eq_error (hnames : w.tree.NulFree)
    (hroot : Path.isAbsolute g.root = true)
    (hpath : w.tree.resolve w.cwd (Path.join g.root path) = .ok loc)
    (hallowed : g.refusal? (Path.ofLocation loc) = none) (h : w.validate g path = .error e)
    (data : FileData) : w.tree.entryAt? loc ≠ some (.file data) := by
  intro hdata
  rw [(accepts_iff hnames hroot).2 ⟨loc, data, hpath, hdata, rfl,
    WorkspaceGuard.refusal?_eq_none_iff.1 hallowed⟩] at h
  cases h

/-- A guard refuses a path for the first reason that applies. -/
theorem validate_eq_error_iff (hnames : w.tree.NulFree) (hroot : Path.isAbsolute root = true) :
    w.validate (w.guard root) path = .error e ↔ w.Refusal root path e := by
  constructor
  · intro h
    cases hpath : w.canonicalize (Path.join (w.guard root).root path) with
    | error cause =>
      rw [validate_of_error hpath] at h
      obtain rfl := Except.error.inj h
      exact .unresolved hpath
    | ok c =>
      cases hrefusal : (w.guard root).refusal? c with
      | some e' =>
        rw [validate_of_refusal hpath hrefusal] at h
        obtain rfl := Except.error.inj h
        rcases refusal?_eq_some_iff.1 hrefusal with ⟨hout, rfl⟩ |
          ⟨hin, before, dir, after, resolved, hdirs, hbefore, hdir, hunder, rfl⟩
        · exact .outside hpath hout
        · exact .forbidden hpath hin hdirs hbefore hdir hunder
      | none =>
        obtain ⟨loc, hloc, rfl⟩ := canonicalize_eq_ok_iff.1 hpath
        have hfile := not_file_of_validate_eq_error hnames hroot hloc hrefusal h
        obtain ⟨hin, hnone⟩ := WorkspaceGuard.refusal?_eq_none_iff.1 hrefusal
        rw [validate_of_allowed hpath hrefusal] at h
        split at h
        · cases h
        · obtain rfl := Except.error.inj h
          exact .notAFile hloc hin (forall_not_keepsOut_iff.2 hnone) hfile
  · intro h
    cases h with
    | unresolved hpath => exact validate_of_error hpath
    | outside hpath hout =>
      exact validate_of_refusal hpath (refusal?_eq_some_iff.2 (Or.inl ⟨hout, rfl⟩))
    | forbidden hpath hin hdirs hbefore hdir hunder =>
      refine validate_of_refusal hpath (refusal?_eq_some_iff.2 (Or.inr ⟨hin, ?_⟩))
      exact ⟨_, _, _, _, hdirs, hbefore, hdir, hunder, rfl⟩
    | @notAFile loc hpath hin hnone hfile =>
      have hallowed : (w.guard root).refusal? (Path.ofLocation loc) = none :=
        WorkspaceGuard.refusal?_eq_none_iff.2 ⟨hin, forall_not_keepsOut_iff.1 hnone⟩
      have hsome : w.canonicalize (Path.join (w.guard root).root path)
          = .ok (Path.ofLocation loc) := canonicalize_eq_ok_iff.2 ⟨loc, hpath, rfl⟩
      rw [validate_of_allowed hsome hallowed, if_neg ?_]
      intro hregular
      -- A guard that let it pass would have accepted a file.
      obtain ⟨loc', data, hpath', hdata, -⟩ := (accepts_iff hnames hroot).1
        (validate_eq_ok_iff.2 ⟨hsome, hallowed, hregular⟩)
      obtain rfl := Except.ok.inj (hpath.symm.trans hpath')
      exact hfile data hdata

/-! ## Verdicts -/

/-- A guard that was made has the resolved path of what it was asked for as its root. -/
theorem of_ofRoot_ok (h : ((WorkspaceGuard.ofRoot (m := StateM World) given).run w).1 = .ok g) :
    w.canonicalize given = .ok g.root ∧ g = w.guard g.root := by
  cases hroot : w.canonicalize given with
  | error cause =>
    rw [ofRoot_of_error hroot] at h
    cases h
  | ok root =>
    rw [ofRoot_of_ok hroot] at h
    obtain rfl := Except.ok.inj h
    exact ⟨rfl, rfl⟩

/-- A guard asked for a path, in a world that has the tree in which the guard was made. Relative
paths are taken from the resolved root. The guard accepts a path with the resolved path `c` exactly
if the path leads to a regular file there, `c` lies under the root, and `c` lies under none of the
forbidden directories that exist, all component by component and after links. It also accepts `c`
itself. Otherwise it gives the first reason against the path. -/
theorem guard_verdicts (hnames : w.tree.NulFree)
    (hguard : ((WorkspaceGuard.ofRoot (m := StateM World) given).run w).1 = .ok g)
    (htree : w'.tree = w.tree) (path : String) :
    w.canonicalize given = .ok g.root ∧
    (∀ c, ((g.validate (m := StateM World) path).run w').1 = .ok c ↔
      ∃ loc data, w.tree.resolve w.cwd (Path.join g.root path) = .ok loc ∧
        w.tree.entryAt? loc = some (.file data) ∧ c = Path.ofLocation loc ∧
        Path.components g.root <+: Path.components c ∧
        ∀ dir ∈ w.forbiddenDirs g.root, ¬ w.KeepsOut c dir) ∧
    (∀ c, ((g.validate (m := StateM World) path).run w').1 = .ok c →
      ((g.validate (m := StateM World) c).run w').1 = .ok c) ∧
    ∀ e, ((g.validate (m := StateM World) path).run w').1 = .error e ↔
      w.Refusal g.root path e := by
  obtain ⟨hroot, hg⟩ := of_ofRoot_ok hguard
  have habsolute : Path.isAbsolute g.root = true := isAbsolute_of_canonicalize hroot
  have hanswer (path : String) :
      ((g.validate (m := StateM World) path).run w').1 = w.validate g path := by
    rw [validate_run]
    exact validate_of_tree habsolute htree path
  simp only [hanswer]
  refine ⟨hroot, ?_, ?_, ?_⟩
  · intro c
    rw [accepts_iff hnames habsolute, hg]
    simp only [forall_not_keepsOut_iff]
    rfl
  · intro c
    exact validate_of_validate habsolute
  · intro e
    rw [hg]
    exact validate_eq_error_iff hnames habsolute

/-! ## A sample -/

/-- A workspace that one comes to through a link, with a link for a file in it, and with a link for
the directory `target`. -/
def linkedWorkspace : World where
  tree :=
    { entries :=
        [(["ws"], .directory),
         (["ws", "lib"], .directory),
         (["ws", "lib", "a.rs"], .file ⟨Utf8.octets "a", Tree.defaultMode, 0⟩),
         (["ws", "a.rs"], .link "lib/./a.rs"),
         (["ws", "out"], .directory),
         (["ws", "out", "b.rs"], .file ⟨Utf8.octets "b", Tree.defaultMode, 0⟩),
         (["ws", "target"], .link "out"),
         (["ws", "target2"], .file ⟨Utf8.octets "c", Tree.defaultMode, 0⟩),
         (["here"], .link "ws")] }
  cwd := []

/-- Links are followed before a path is judged: one leads to a file that may be patched, and the
other makes a directory of another name a forbidden one. -/
theorem guard_verdicts_through_links :
    ∃ g, ((WorkspaceGuard.ofRoot (m := StateM World) "here").run linkedWorkspace).1 = .ok g ∧
      linkedWorkspace.tree.NulFree ∧
      ((g.validate (m := StateM World) "a.rs").run linkedWorkspace).1 = .ok "/ws/lib/a.rs" ∧
      ((g.validate (m := StateM World) "/ws/lib/a.rs").run linkedWorkspace).1
        = .ok "/ws/lib/a.rs" ∧
      ((g.validate (m := StateM World) "target2").run linkedWorkspace).1 = .ok "/ws/target2" ∧
      ((g.validate (m := StateM World) "out/b.rs").run linkedWorkspace).1
        = .error (.forbiddenPath "/ws/out/b.rs" "/ws/out") := by
  have hnames : linkedWorkspace.tree.NulFree := by decide +kernel
  have hroot : linkedWorkspace.canonicalize "here" = .ok "/ws" := by decide +kernel
  have hguard : ((WorkspaceGuard.ofRoot (m := StateM World) "here").run linkedWorkspace).1
      = .ok (linkedWorkspace.guard "/ws") := by
    rw [ofRoot_of_ok hroot]
    rfl
  have hverdicts := guard_verdicts hnames hguard rfl
  have haccepts : (((linkedWorkspace.guard "/ws").validate (m := StateM World) "a.rs").run
      linkedWorkspace).1 = .ok "/ws/lib/a.rs" := by
    refine ((hverdicts "a.rs").2.1 _).2 ⟨["ws", "lib", "a.rs"], _, ?_, rfl, ?_, ?_, ?_⟩
    all_goals decide +kernel
  refine ⟨linkedWorkspace.guard "/ws", hguard, hnames, haccepts, ?_, ?_, ?_⟩
  · exact (hverdicts "a.rs").2.2.1 _ haccepts
  · refine ((hverdicts "target2").2.1 _).2 ⟨["ws", "target2"], _, ?_, rfl, ?_, ?_, ?_⟩
    all_goals decide +kernel
  · have hdirs : linkedWorkspace.forbiddenDirs "/ws" = [] ++ "/ws/target" :: ["/ws/.git"] := by
      decide +kernel
    refine ((hverdicts "out/b.rs").2.2.2 _).2 ?_
    exact .forbidden (by decide +kernel) (by decide +kernel) hdirs (by simp) (by decide +kernel)
      (by decide +kernel)

end World

end SourcePatch
