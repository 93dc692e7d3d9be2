import SourcePatch.Proofs.CommandLine.Runs

/-!
# Confinement

Whatever a run is asked for, it rewrites files of the workspace and nothing else. Rules write one
after the other, and each asks the guard of the run again. What the guard has found out about the
directories stays true meanwhile, because to rewrite a file leads no path elsewhere.

* `World.Confined` says that only files differ which a guard lets one patch. A rule keeps to that
  (`applyRule_confined`), and so do rules in order (`applyRules_confined`).
* `run_confined`: what may differ after a run.
-/

namespace SourcePatch

namespace World

/-- The worlds differ in the files that a guard lets one patch, and in what was said. -/
structure Confined (w w' : World) (g : WorkspaceGuard) : Prop where
  entry : ∀ loc, w'.tree.entryAt? loc = w.tree.entryAt? loc ∨
    w.Patchable g loc ∧ ∃ new, w'.tree.entryAt? loc = some (.file new)
  cwd : w'.cwd = w.cwd
  policy : w'.policy = w.policy

namespace Confined

variable {w w' w'' : World} {g : WorkspaceGuard} {loc : Location} {content : Bytes}

theorem of_saying (w : World) (g : WorkspaceGuard) (shown noted : String) :
    Confined w (w.saying shown noted) g :=
  ⟨fun _ => Or.inl rfl, rfl, rfl⟩

theorem refl (w : World) (g : WorkspaceGuard) : Confined w w g :=
  ⟨fun _ => Or.inl rfl, rfl, rfl⟩

theorem of_rewritten (hloc : w.Patchable g loc) (h : Rewritten w w' loc content) :
    Confined w w' g := by
  refine ⟨?_, h.cwd, h.policy⟩
  intro l
  by_cases hl : l = loc
  · subst hl
    obtain ⟨old, new, -, hnew, -⟩ := h.entry
    exact Or.inr ⟨hloc, new, hnew⟩
  · exact Or.inl (h.other l hl)

/-- Only the contents of files differ. -/
theorem sameShape (h : Confined w w' g) : w.tree.SameShape w'.tree := by
  intro loc
  rcases h.entry loc with heq | ⟨hloc, new, hnew⟩
  · exact Or.inl heq
  · obtain ⟨old, hold⟩ := hloc.file
    exact Or.inr ⟨old, new, hold, hnew⟩

theorem trans (h : Confined w w' g) (h' : Confined w' w'' g) : Confined w w'' g := by
  refine ⟨?_, h'.cwd.trans h.cwd, h'.policy.trans h.policy⟩
  intro loc
  rcases h'.entry loc with heq | ⟨hloc, hnew⟩
  · rw [heq]
    exact h.entry loc
  · exact Or.inr ⟨hloc.of_sameShape h.sameShape, hnew⟩

end Confined

end World

namespace CommandLine

open World

variable {g : WorkspaceGuard} {a : Arguments}

/-- A rule rewrites a file that the guard lets it patch, or no file. -/
theorem applyRule_confined (hroot : Path.isAbsolute g.root = true) (w : World) (a : Arguments)
    (coloured : Bool) (c : PatchConfig) (d : RuleDefinition) :
    Confined w ((applyRule (m := StateM World) a coloured g c d).run w).2 g := by
  obtain ⟨result, w', hrun, houtcome⟩ := applyRule_outcome hroot w a coloured c d
  rw [hrun]
  cases houtcome with
  | unplanned e noted => exact .of_saying w g "" noted
  | told shown noted => exact .of_saying w g shown noted
  | refused noted => exact .of_saying w g _ noted
  | unstamped hplanned _ hrewritten => exact .of_rewritten hplanned.patchable hrewritten
  | landed hplanned _ hrewritten => exact .of_rewritten hplanned.patchable hrewritten

/-- Rules that are applied in order rewrite files that the guard lets them patch. -/
theorem applyRules_confined (hroot : Path.isAbsolute g.root = true) (w : World) (a : Arguments)
    (coloured : Bool) (c : PatchConfig) (ds : List RuleDefinition) :
    Confined w ((applyRules (m := StateM World) a coloured g c ds).run w).2 g := by
  -- The world of the induction is the one that the rules so far have made.
  induction ds generalizing w with
  | nil => exact .refl w g
  | cons d ds ih =>
    have hstep := applyRule_confined hroot w a coloured c d
    rcases hrule : (applyRule (m := StateM World) a coloured g c d).run w with ⟨result, w'⟩
    rw [hrule] at hstep
    cases result with
    | error e =>
      rw [applyRules_of_error hrule]
      exact hstep
    | ok u =>
      rw [applyRules_of_ok hrule]
      exact hstep.trans (ih w')

/-- Rules write nothing in a dry run. -/
theorem applyRules_tree_of_dryRun (hroot : Path.isAbsolute g.root = true) (hdry : a.dryRun = true)
    (w : World) (coloured : Bool) (c : PatchConfig) (ds : List RuleDefinition) :
    ((applyRules (m := StateM World) a coloured g c ds).run w).2.tree = w.tree := by
  induction ds generalizing w with
  | nil => rfl
  | cons d ds ih =>
    obtain ⟨result, w', hrun, houtcome⟩ := applyRule_outcome hroot w a coloured c d
    obtain ⟨shown, noted, rfl, ⟨e, rfl⟩ | ⟨rfl, -⟩⟩ := houtcome.of_dryRun hdry
    · rw [applyRules_of_error hrun]
      rfl
    · rw [applyRules_of_ok hrun, ih]
      rfl

/-- Whatever the command line, the tree with its links and the exit: a run makes, removes and moves
no entry, and leaves directories and links what they are. An entry that differs is a file before and
after, its location is its own resolved path, and it lies under the resolved root of the run and
under no forbidden directory that exists. In a dry run nothing differs at all. -/
theorem run_confined (w : World) (args : List String) (coloured : Bool) :
    (∀ loc, (w.run args coloured).2.tree.entryAt? loc = w.tree.entryAt? loc ∨
      ∃ old new, w.tree.entryAt? loc = some (.file old) ∧
        (w.run args coloured).2.tree.entryAt? loc = some (.file new) ∧
        w.canonicalize (Path.ofLocation loc) = .ok (Path.ofLocation loc) ∧
        ∃ a root, parse args = .ok a ∧ w.canonicalize (w.workspaceOf a) = .ok root ∧
          Path.components root <+: Path.components (Path.ofLocation loc) ∧
          ∀ dir ∈ w.forbiddenDirs root, ∀ resolved, w.canonicalize dir = .ok resolved →
            ¬ Path.components resolved <+: Path.components (Path.ofLocation loc)) ∧
    ∀ a, parse args = .ok a → a.dryRun = true → (w.run args coloured).2.tree = w.tree := by
  rcases run_cases w args coloured with ⟨exit, shown, noted, hrun, -⟩ |
    ⟨a, root, c, hparse, hroot, hconfig⟩
  · rw [hrun]
    exact ⟨fun loc => Or.inl rfl, fun _ _ _ => rfl⟩
  · -- The guard of all rules is the one that was made before the first of them.
    have habsolute : Path.isAbsolute (w.guard root).root = true := isAbsolute_of_canonicalize hroot
    rw [run_of_rules coloured hparse hroot hconfig, ending_tree]
    constructor
    · intro loc
      rcases (applyRules_confined habsolute w a coloured c c.rules).entry loc with heq |
        ⟨hloc, new, hnew⟩
      · exact Or.inl heq
      · obtain ⟨old, hold⟩ := hloc.file
        obtain ⟨hunder, hforbidden⟩ := WorkspaceGuard.refusal?_eq_none_iff.1 hloc.allowed
        refine Or.inr ⟨old, new, hold, hnew, hloc.canonicalize, a, root, hparse, hroot, hunder, ?_⟩
        intro dir hdir resolved hresolved
        exact hforbidden resolved (mem_guard_forbidden.2 ⟨dir, hdir, hresolved⟩)
    · intro a' hparse' hdry
      rw [hparse] at hparse'
      obtain rfl := Except.ok.inj hparse'
      exact applyRules_tree_of_dryRun habsolute hdry w coloured c c.rules

end CommandLine

end SourcePatch
