import SourcePatch.Proofs.Workspace.Verdicts

/-!
# The life of a guard

A guard looks for the forbidden directories once, when it is made. Afterwards it may be asked many
times, and between two questions others make and remove directories, files and links.

* `World.Life` is what may happen, one step after another.
* `World.life_keeps_out`: every path that a guard accepts lies outside of the forbidden directories
  as they were when the guard was made, and so outside of those that still are what they were.
* `World.target_made_later_is_patched`: a directory that was not there then keeps nothing out.
-/

namespace SourcePatch.World

variable {w₀ w : World} {g : WorkspaceGuard} {given : String}

/-- A question to a guard, the world in which it was asked, and what the guard answered. -/
structure Check where
  world : World
  path : String
  answer : Except SafetyError String

/-- What may happen after a guard was made in the first world, with the last check first. Others may
turn the tree into any other one. -/
inductive Life (g : WorkspaceGuard) (w₀ : World) : List Check → World → Prop where
  | start : Life g w₀ [] w₀
  | elsewhere {checks : List Check} {w : World} (life : Life g w₀ checks w) (tree : Tree) :
    Life g w₀ checks { w with tree }
  | check {checks : List Check} {w : World} (life : Life g w₀ checks w) (path : String) :
    Life g w₀ (⟨w, path, ((g.validate (m := StateM World) path).run w).1⟩ :: checks)
      ((g.validate (m := StateM World) path).run w).2

/-- A guard is asked, and the world stays what it is. -/
theorem Life.checked {checks : List Check} (life : Life g w₀ checks w) (path : String) :
    Life g w₀ (⟨w, path, w.validate g path⟩ :: checks) w := by
  have hlife := life.check path
  rw [validate_run] at hlife
  exact hlife

/-- The answer to a check goes by the tree of its own moment for the path, and by what the guard has
found in the first world for the directories. -/
structure Check.ByFirstLook (w₀ : World) (root : String) (check : Check) : Prop where
  outside : ∀ c, check.answer = .ok c → ∀ dir ∈ w₀.forbiddenDirs root, ¬ w₀.KeepsOut c dir
  exact_of_nulFree : check.world.tree.NulFree → ∀ c, check.answer = .ok c ↔
    ∃ loc data, check.world.tree.resolve check.world.cwd (Path.join root check.path) = .ok loc ∧
      check.world.tree.entryAt? loc = some (.file data) ∧ c = Path.ofLocation loc ∧
      Path.components root <+: Path.components c ∧
      ∀ dir ∈ w₀.forbiddenDirs root, ¬ w₀.KeepsOut c dir

/-- What one check does: it answers by the first look, whatever the world is by now. -/
theorem byFirstLook_check
    (hguard : ((WorkspaceGuard.ofRoot (m := StateM World) given).run w₀).1 = .ok g)
    (w : World) (path : String) :
    Check.ByFirstLook w₀ g.root ⟨w, path, ((g.validate (m := StateM World) path).run w).1⟩ := by
  obtain ⟨hroot, hg⟩ := of_ofRoot_ok hguard
  have habsolute : Path.isAbsolute g.root = true := isAbsolute_of_canonicalize hroot
  have hdirs (c : String) : (∀ dir ∈ g.forbidden, ¬ Path.components dir <+: Path.components c) ↔
      ∀ dir ∈ w₀.forbiddenDirs g.root, ¬ w₀.KeepsOut c dir := by
    rw [forall_not_keepsOut_iff, ← hg]
  rw [validate_run]
  constructor
  · intro c hanswer
    obtain ⟨-, hallowed, -⟩ := validate_eq_ok_iff.1 hanswer
    exact (hdirs c).1 (WorkspaceGuard.refusal?_eq_none_iff.1 hallowed).2
  · intro hnames c
    simp only [← hdirs]
    exact accepts_iff hnames habsolute

/-- Every check in the life of a guard is answered by the first look. -/
theorem byFirstLook_of_life {checks : List Check}
    (hguard : ((WorkspaceGuard.ofRoot (m := StateM World) given).run w₀).1 = .ok g)
    (hlife : Life g w₀ checks w) : ∀ check ∈ checks, check.ByFirstLook w₀ g.root := by
  induction hlife with
  | start => simp
  | elsewhere life tree ih => exact ih
  | check life path ih =>
    exact List.forall_mem_cons.2 ⟨byFirstLook_check hguard _ path, ih⟩

/-- A directory of the workspace that is never patched is one of those that a guard looks for. -/
theorem mem_forbiddenDirs {root dir : String}
    (h : dir ∈ WorkspaceGuard.forbiddenInWorkspace.map (Path.join root)) (w : World) :
    dir ∈ w.forbiddenDirs root :=
  List.mem_append_left _ h

/-- In the life of a guard, whatever others do to the tree, a check accepts exactly the paths that
lead to a regular file at that moment, under the root and under none of the forbidden directories
that existed when the guard was made, as they were then. So what it accepts is not inside `target`
or `.git` as they were when the guard was made, and not inside them at the moment of the check
either, if they lead where they led then. -/
theorem life_keeps_out {checks : List Check}
    (hguard : ((WorkspaceGuard.ofRoot (m := StateM World) given).run w₀).1 = .ok g)
    (hlife : Life g w₀ checks w) :
    ∀ check ∈ checks,
      (check.world.tree.NulFree → ∀ c, check.answer = .ok c ↔
        ∃ loc data, check.world.tree.resolve check.world.cwd (Path.join g.root check.path) = .ok loc ∧
          check.world.tree.entryAt? loc = some (.file data) ∧ c = Path.ofLocation loc ∧
          Path.components g.root <+: Path.components c ∧
          ∀ dir ∈ w₀.forbiddenDirs g.root, ¬ w₀.KeepsOut c dir) ∧
      ∀ c, check.answer = .ok c →
        ∀ dir ∈ WorkspaceGuard.forbiddenInWorkspace.map (Path.join g.root),
          ¬ w₀.KeepsOut c dir ∧
          (check.world.canonicalize dir = w₀.canonicalize dir → ¬ check.world.KeepsOut c dir) := by
  intro check hcheck
  have hlook := byFirstLook_of_life hguard hlife check hcheck
  refine ⟨hlook.exact_of_nulFree, ?_⟩
  intro c hanswer dir hdir
  have hout : ¬ w₀.KeepsOut c dir := hlook.outside c hanswer dir (mem_forbiddenDirs hdir w₀)
  refine ⟨hout, ?_⟩
  rintro hsame ⟨resolved, hresolved, hunder⟩
  exact hout ⟨resolved, hsame ▸ hresolved, hunder⟩

/-! ## Samples -/

/-- The workspace whose `target` is a link, after others have put a file in there. -/
def busyWorkspace : World :=
  { linkedWorkspace with
    tree := linkedWorkspace.tree.put ["ws", "out", "c.rs"]
      (.file ⟨Utf8.octets "c", Tree.defaultMode, 0⟩) }

/-- Where `target` was there from the beginning, a file that others put in it is refused, and a file
beside it is accepted. -/
theorem life_keeps_out_of_target :
    ((WorkspaceGuard.ofRoot (m := StateM World) "here").run linkedWorkspace).1
      = .ok (linkedWorkspace.guard "/ws") ∧
    Life (linkedWorkspace.guard "/ws") linkedWorkspace
      [⟨busyWorkspace, "target/c.rs",
          busyWorkspace.validate (linkedWorkspace.guard "/ws") "target/c.rs"⟩,
        ⟨busyWorkspace, "a.rs", .ok "/ws/lib/a.rs"⟩]
      busyWorkspace ∧
    (∀ c, busyWorkspace.validate (linkedWorkspace.guard "/ws") "target/c.rs" ≠ .ok c) ∧
    ¬ busyWorkspace.KeepsOut "/ws/lib/a.rs" "/ws/target" := by
  have hroot : linkedWorkspace.canonicalize "here" = .ok "/ws" := by decide +kernel
  have hguard : ((WorkspaceGuard.ofRoot (m := StateM World) "here").run linkedWorkspace).1
      = .ok (linkedWorkspace.guard "/ws") := by
    rw [ofRoot_of_ok hroot]
    rfl
  have haccepted : busyWorkspace.validate (linkedWorkspace.guard "/ws") "a.rs"
      = .ok "/ws/lib/a.rs" := by decide +kernel
  have hbusy : Life (linkedWorkspace.guard "/ws") linkedWorkspace [] busyWorkspace :=
    Life.start.elsewhere busyWorkspace.tree
  have hfirst := hbusy.checked "a.rs"
  rw [haccepted] at hfirst
  have hlife := hfirst.checked "target/c.rs"
  have hkept := life_keeps_out hguard hlife
  refine ⟨hguard, hlife, ?_, ?_⟩
  · -- The path leads into what `target` is a link to, then as now.
    intro c hanswer
    obtain ⟨hexact, -⟩ := hkept _ (List.mem_cons_self ..)
    dsimp only at hexact
    obtain ⟨loc, data, hpath, -, rfl, -, hnone⟩ := (hexact (by decide +kernel) c).1 hanswer
    have hloc : busyWorkspace.tree.resolve busyWorkspace.cwd
        (Path.join (linkedWorkspace.guard "/ws").root "target/c.rs")
          = .ok ["ws", "out", "c.rs"] := by decide +kernel
    obtain rfl := Except.ok.inj (hloc.symm.trans hpath)
    exact hnone "/ws/target" (by decide +kernel) (by decide +kernel)
  · obtain ⟨-, hout⟩ := hkept _ (List.mem_cons_of_mem _ (List.mem_cons_self ..))
    obtain ⟨-, hnow⟩ := hout "/ws/lib/a.rs" rfl "/ws/target" (by decide +kernel)
    exact hnow (by decide +kernel)

/-- A workspace with a directory for sources, and nothing else. -/
def bareWorkspace : World where
  tree := { entries := [(["ws"], .directory), (["ws", "src"], .directory)] }
  cwd := []

/-- The same workspace after others have made `target` and a file in it. -/
def builtWorkspace : World where
  tree :=
    { entries :=
        [(["ws"], .directory), (["ws", "src"], .directory), (["ws", "target"], .directory),
         (["ws", "target", "x.rs"], .file ⟨Utf8.octets "a", Tree.defaultMode, 2000000000⟩)]
      clock := 2000000001 }
  cwd := []

/-- A guard that was made before there was a directory `target` accepts a file in it. -/
theorem target_made_later_is_patched :
    ((WorkspaceGuard.ofRoot (m := StateM World) "/ws").run bareWorkspace).1 = .ok ⟨"/ws", []⟩ ∧
    ((bareWorkspace.tree.makeDirs [] "/ws/target").bind fun tree =>
      tree.writeFile [] "/ws/target/x.rs" (Utf8.octets "a")) = .ok builtWorkspace.tree ∧
    Life ⟨"/ws", []⟩ bareWorkspace [⟨builtWorkspace, "target/x.rs", .ok "/ws/target/x.rs"⟩]
      builtWorkspace ∧
    builtWorkspace.KeepsOut "/ws/target/x.rs" "/ws/target" := by
  have hroot : bareWorkspace.canonicalize "/ws" = .ok "/ws" := by decide +kernel
  have hguard : bareWorkspace.guard "/ws" = ⟨"/ws", []⟩ := by decide +kernel
  have hanswer : builtWorkspace.validate ⟨"/ws", []⟩ "target/x.rs" = .ok "/ws/target/x.rs" := by
    decide +kernel
  have hbuilt : Life ⟨"/ws", []⟩ bareWorkspace [] builtWorkspace :=
    Life.start.elsewhere builtWorkspace.tree
  have hlife := hbuilt.checked "target/x.rs"
  rw [hanswer] at hlife
  refine ⟨?_, by decide +kernel, hlife, by decide +kernel⟩
  rw [ofRoot_of_ok hroot, hguard]
  rfl

end SourcePatch.World
