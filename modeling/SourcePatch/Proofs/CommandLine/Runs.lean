import SourcePatch.Proofs.CommandLine.Steps

/-!
# Runs

How a run is made of the rules that it applies.

* `applyRules_cases`: rules are applied in order up to the first that fails.
* `run_of_rules`: a run with good arguments, a workspace that exists and a configuration is the run
  of its rules; the exit tells whether one failed.
* `run_cases`: every other run says something and leaves the files alone.
-/

namespace SourcePatch

namespace World

/-- What comes of a command line. -/
def run (w : World) (args : List String) (coloured : Bool) : CommandLine.Exit × World :=
  (CommandLine.run (m := StateM World) args coloured).run w

/-- The root of a run before it is resolved: the workspace that is asked for, or the working
directory. -/
def workspaceOf (w : World) (a : CommandLine.Arguments) : String :=
  a.workspace.getD (Path.ofLocation w.cwd)

/-- The configuration of a run. -/
def config (w : World) (a : CommandLine.Arguments) : Except CommandLine.Failure PatchConfig :=
  ((CommandLine.configFor (m := StateM World) a).run w).1

end World

namespace CommandLine

open World

variable {w w' : World} {a : Arguments} {coloured : Bool} {g : WorkspaceGuard} {c : PatchConfig}
  {d : RuleDefinition} {ds : List RuleDefinition} {root : String} {args : List String}

/-! ## Rules in order -/

theorem applyRules_of_error {e : Failure}
    (h : (applyRule (m := StateM World) a coloured g c d).run w = pure (.error e, w')) :
    (applyRules (m := StateM World) a coloured g c (d :: ds)).run w = pure (.error e, w') := by
  rw [applyRules, StateT.run_bind, h]
  rfl

theorem applyRules_of_ok
    (h : (applyRule (m := StateM World) a coloured g c d).run w = pure (.ok (), w')) :
    (applyRules (m := StateM World) a coloured g c (d :: ds)).run w
      = (applyRules (m := StateM World) a coloured g c ds).run w' := by
  rw [applyRules, StateT.run_bind, h]
  rfl

/-- Rules succeed if the first one does and the others do after it. -/
theorem exists_of_applyRules_cons
    (h : (applyRules (m := StateM World) a coloured g c (d :: ds)).run w = pure (.ok (), w')) :
    ∃ w₁, (applyRule (m := StateM World) a coloured g c d).run w = pure (.ok (), w₁) ∧
      (applyRules (m := StateM World) a coloured g c ds).run w₁ = pure (.ok (), w') := by
  rcases hrule : (applyRule (m := StateM World) a coloured g c d).run w with ⟨result, w₁⟩
  cases result with
  | error e =>
    rw [applyRules_of_error hrule] at h
    cases congrArg Prod.fst h
  | ok u =>
    rw [applyRules_of_ok hrule] at h
    exact ⟨w₁, rfl, h⟩

/-- Rules that succeed make the world for those after them. -/
theorem applyRules_append {done : List RuleDefinition}
    (h : (applyRules (m := StateM World) a coloured g c done).run w = pure (.ok (), w'))
    (rest : List RuleDefinition) :
    (applyRules (m := StateM World) a coloured g c (done ++ rest)).run w
      = (applyRules (m := StateM World) a coloured g c rest).run w' := by
  induction done generalizing w with
  | nil =>
    obtain rfl : w = w' := congrArg Prod.snd h
    rfl
  | cons d done ih =>
    obtain ⟨w₁, hrule, hrules⟩ := exists_of_applyRules_cons h
    rw [List.cons_append, applyRules_of_ok hrule]
    exact ih hrules

/-- Rules are applied in order, up to the first that fails. -/
theorem applyRules_cases (a : Arguments) (coloured : Bool) (g : WorkspaceGuard) (c : PatchConfig)
    (ds : List RuleDefinition) (w : World) :
    ∃ done rest w', ds = done ++ rest ∧
      (applyRules (m := StateM World) a coloured g c done).run w = pure (.ok (), w') ∧
      ((rest = [] ∧
          (applyRules (m := StateM World) a coloured g c ds).run w = pure (.ok (), w')) ∨
        ∃ d rest' e w'', rest = d :: rest' ∧
          (applyRule (m := StateM World) a coloured g c d).run w' = pure (.error e, w'') ∧
          (applyRules (m := StateM World) a coloured g c ds).run w = pure (.error e, w'')) := by
  induction ds generalizing w with
  | nil => exact ⟨[], [], w, rfl, rfl, Or.inl ⟨rfl, rfl⟩⟩
  | cons d ds ih =>
    rcases hrule : (applyRule (m := StateM World) a coloured g c d).run w with ⟨result, w₁⟩
    cases result with
    | error e =>
      -- no rule is done, and this is the one that fails
      exact ⟨[], d :: ds, w, rfl, rfl,
        Or.inr ⟨d, ds, e, w₁, rfl, hrule, applyRules_of_error hrule⟩⟩
    | ok u =>
      obtain ⟨done, rest, w', rfl, hdone, hrest⟩ := ih w₁
      refine ⟨d :: done, rest, w', rfl, ?_, ?_⟩
      · rw [applyRules_of_ok hrule, hdone]
      · rw [applyRules_of_ok hrule]
        exact hrest

/-! ## Workspaces and configurations -/

/-- The guard of a run is that of its workspace. -/
theorem guardFor_run (w : World) (a : Arguments) :
    (guardFor (m := StateM World) a).run w =
      (do return (← WorkspaceGuard.ofRoot (w.workspaceOf a)).mapError .ofSafety :
        StateM World (Except Failure WorkspaceGuard)).run w := by
  unfold guardFor workspaceOf
  cases a.workspace with
  | some path => rfl
  | none =>
    have hcwd : (Host.currentDir (m := StateM World)).run w
        = pure (.ok (Path.ofLocation w.cwd), w) := rfl
    rw [StateT.run_bind, hcwd]
    rfl

/-- A workspace that exists has a guard. -/
theorem guardFor_of_ok (h : w.canonicalize (w.workspaceOf a) = .ok root) :
    (guardFor (m := StateM World) a).run w = pure (.ok (w.guard root), w) := by
  rw [guardFor_run, StateT.run_bind, ofRoot_of_ok h]
  rfl

theorem guardFor_of_error {cause : OsError} (h : w.canonicalize (w.workspaceOf a) = .error cause) :
    (guardFor (m := StateM World) a).run w
      = pure (.error (.ofSafety (.canonicalize (w.workspaceOf a) cause)), w) := by
  rw [guardFor_run, StateT.run_bind, ofRoot_of_error h]
  rfl

/-- To load a rule file changes nothing. -/
theorem load_snd (w : World) (path : String) :
    ((RuleFile.load (m := StateM World) path).run w).2 = w := by
  rw [RuleFile.load, StateT.run_bind, host_read, pure_bind]
  cases w.read path with
  | error cause => rfl
  | ok bytes =>
    cases hdecode : Utf8.decodeString bytes with
    | error cause =>
      simp only [hdecode]
      rfl
    | ok input =>
      cases htext : RuleFile.ofText input with
      | error cause =>
        simp only [hdecode, htext]
        rfl
      | ok c =>
        simp only [hdecode, htext]
        rfl

theorem configFor_run (w : World) (a : Arguments) :
    (configFor (m := StateM World) a).run w = pure (w.config a, w) := by
  refine Prod.ext rfl ?_
  unfold configFor
  cases a.rules with
  | none => rfl
  | some path =>
    rw [StateT.run_bind]
    exact load_snd w path

/-! ## Runs -/

/-- How a run ends after its rules, and the world then. -/
def ending : Except Failure Unit × World → Exit × World
  | (.ok (), w) => (.success, w)
  | (.error e, w) => (.failure, w.saying "" e.report)

theorem ending_tree (result : Except Failure Unit × World) :
    (ending result).2.tree = result.2.tree := by
  rcases result with ⟨⟨e⟩ | ⟨⟨⟩⟩, w⟩ <;> rfl

theorem ending_output (result : Except Failure Unit × World) :
    (ending result).2.output = result.2.output := by
  rcases result with ⟨⟨e⟩ | ⟨⟨⟩⟩, w⟩
  · rw [ending, saying_output, String.append_empty]
  · rfl

theorem run_of_execute {result : Except Failure Unit} (hparse : parse args = .ok a)
    (h : (execute (m := StateM World) a coloured).run w = pure (result, w')) :
    w.run args coloured = ending (result, w') := by
  rw [World.run, CommandLine.run, hparse]
  simp only [StateT.run_bind, h, pure_bind]
  cases result with
  | error e =>
    simp only [StateT.run_bind, host_note, pure_bind]
    rfl
  | ok u => rfl

/-- A run with good arguments, a workspace that exists and a configuration is the run of its
rules. -/
theorem run_of_rules (coloured : Bool) (hparse : parse args = .ok a)
    (hroot : w.canonicalize (w.workspaceOf a) = .ok root) (hconfig : w.config a = .ok c) :
    w.run args coloured
      = ending ((applyRules (m := StateM World) a coloured (w.guard root) c c.rules).run w) := by
  refine run_of_execute hparse ?_
  rw [execute, StateT.run_bind, guardFor_of_ok hroot, pure_bind]
  simp only [StateT.run_bind, configFor_run, pure_bind, hconfig]
  rfl

/-- A run comes to its rules, or it says something and that is all. With good arguments this is a
failure. -/
theorem run_cases (w : World) (args : List String) (coloured : Bool) :
    (∃ exit shown noted, w.run args coloured = (exit, w.saying shown noted) ∧
        ∀ a, parse args = .ok a → exit = .failure) ∨
      ∃ a root c, parse args = .ok a ∧ w.canonicalize (w.workspaceOf a) = .ok root ∧
        w.config a = .ok c := by
  cases hparse : parse args with
  | error stop =>
    refine Or.inl ?_
    rw [World.run, CommandLine.run, hparse]
    cases stop with
    | help => exact ⟨.success, helpText ++ "\n", "", by simp [printLine_run]; rfl, nofun⟩
    | version => exact ⟨.success, versionText ++ "\n", "", by simp [printLine_run]; rfl, nofun⟩
    | misuse cause =>
      exact ⟨.misuse, "", s!"error: {cause.message}" ++ "\n", by simp [noteLine_run]; rfl, nofun⟩
  | ok a =>
    have hfails (e : Failure)
        (h : (execute (m := StateM World) a coloured).run w = pure (.error e, w)) :
        ∃ exit shown noted, w.run args coloured = (exit, w.saying shown noted) ∧
          ∀ a', Except.ok (ε := Stop) a = .ok a' → exit = .failure :=
      ⟨.failure, "", e.report, run_of_execute hparse h, fun _ _ => rfl⟩
    cases hroot : w.canonicalize (w.workspaceOf a) with
    | error cause =>
      refine Or.inl (hfails (.ofSafety (.canonicalize (w.workspaceOf a) cause)) ?_)
      rw [execute, StateT.run_bind, guardFor_of_error hroot]
      rfl
    | ok root =>
      cases hconfig : w.config a with
      | error e =>
        refine Or.inl (hfails e ?_)
        rw [execute, StateT.run_bind, guardFor_of_ok hroot, pure_bind]
        simp only [StateT.run_bind, configFor_run, pure_bind, hconfig]
        rfl
      | ok c => exact Or.inr ⟨a, root, c, rfl, hroot, hconfig⟩

/-- All rules succeed, and then the run does. -/
theorem run_of_rules_ok (hparse : parse args = .ok a)
    (hroot : w.canonicalize (w.workspaceOf a) = .ok root) (hconfig : w.config a = .ok c)
    (h : (applyRules (m := StateM World) a coloured (w.guard root) c c.rules).run w
      = pure (.ok (), w')) : w.run args coloured = (.success, w') := by
  rw [run_of_rules coloured hparse hroot hconfig, h]
  rfl

/-- A run with good arguments that exits with zero has applied all its rules. -/
theorem exists_rules_of_code_eq_zero (hparse : parse args = .ok a)
    (hcode : (w.run args coloured).1.code = 0) :
    ∃ root c w', w.canonicalize (w.workspaceOf a) = .ok root ∧ w.config a = .ok c ∧
      (applyRules (m := StateM World) a coloured (w.guard root) c c.rules).run w
        = pure (.ok (), w') := by
  rcases run_cases w args coloured with ⟨exit, shown, noted, hrun, hfails⟩ |
    ⟨a', root, c, hparse', hroot, hconfig⟩
  · rw [hrun, hfails a hparse] at hcode
    cases hcode
  · rw [hparse] at hparse'
    obtain rfl := Except.ok.inj hparse'
    rw [run_of_rules coloured hparse hroot hconfig] at hcode
    rcases hrules : (applyRules (m := StateM World) a coloured (w.guard root) c c.rules).run w with
      ⟨⟨e⟩ | ⟨⟨⟩⟩, w'⟩
    · rw [hrules] at hcode
      cases hcode
    · exact ⟨root, c, w', hroot, hconfig, hrules⟩

end CommandLine

end SourcePatch
