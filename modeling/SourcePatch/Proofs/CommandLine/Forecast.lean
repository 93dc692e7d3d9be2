import Mathlib.Data.List.Forall2
import SourcePatch.Proofs.CommandLine.Plans

/-!
# Forecasts

A dry run plans every rule for the files as they are. A run that writes plans a rule for what the
rules before it have left. Both come to the same plans as long as no rule inserts into a file that a
later rule is for, and then the dry run tells what the other one does. Rules that do not stand apart
in this way may be told wrong (`dry_run_misses_insertions`).

* `Forecast` lists the plans of rules for the files as they are. A dry run succeeds if there is one,
  and tells it (`Forecast.applyRules_run`, `exists_forecast_of_applyRules`).
* `Unhindered` says that the file system accepts the writes of a run.
* `Undisturbed` relates the files as they are to those that a run has come to: what the rules ahead
  are for is kept. `Undisturbed.step` carries it over a rule that lands; with it a forecast lands
  (`Undisturbed.exists_landed`), and what has landed is a forecast (`Undisturbed.forecast`).
* `dry_run_code_eq_zero_iff`: when a dry run succeeds.
* `dry_run_foretells`: what it says about the run that writes.
-/

namespace SourcePatch

namespace CommandLine

open World

variable {w v v₁ v' : World} {a : Arguments} {coloured : Bool} {g : WorkspaceGuard}
  {c : PatchConfig} {d : RuleDefinition} {ds : List RuleDefinition} {loc : Location}
  {rule : InsertionRule} {source root : String} {plans : List Plan} {args dryArgs : List String}

/-- Plans of rules for the files as they are. -/
def Forecast (w : World) (a : Arguments) (g : WorkspaceGuard) (c : PatchConfig) :
    List RuleDefinition → List Plan → Prop :=
  List.Forall₂ fun d planned => ∃ loc rule source, Planned w a g c d loc rule source ∧
    planned = .ofSource (Path.ofLocation loc) rule (optionsFor a d) source

/-- No rule inserts into a file that a later rule is for. -/
def Apart (w : World) (a : Arguments) (g : WorkspaceGuard) (c : PatchConfig)
    (ds : List RuleDefinition) : Prop :=
  ds.Pairwise fun d d' => ∀ loc rule source, Planned w a g c d loc rule source →
    w.targets a c g.root loc d' = true → (rule.apply source a.skipExisting).inserted = 0

/-- What a dry run tells of the plans of rules. -/
def told (a : Arguments) (coloured : Bool) : List RuleDefinition → List Plan → String
  | d :: ds, planned :: plans =>
    diffShown a coloured planned ++ promise coloured d planned ++ told a coloured ds plans
  | [], _ => ""
  | _, [] => ""

/-! ## Dry runs -/

/-- A rule has the same plans in a dry run as in any other. -/
theorem planned_dryRun_iff (dry : Bool) :
    Planned w { a with dryRun := dry } g c d loc rule source ↔
      Planned w a g c d loc rule source := by
  constructor
  · intro h
    exact ⟨h.resolve, h.patchable, h.compiled, h.read, h.check⟩
  · intro h
    exact ⟨h.resolve, h.patchable, h.compiled, h.read, h.check⟩

theorem forecast_dryRun_iff (dry : Bool) :
    Forecast w { a with dryRun := dry } g c ds plans ↔ Forecast w a g c ds plans := by
  simp only [Forecast, planned_dryRun_iff]
  rfl

theorem told_dryRun (dry : Bool) (ds : List RuleDefinition) (plans : List Plan) :
    told { a with dryRun := dry } coloured ds plans = told a coloured ds plans := by
  induction ds generalizing plans with
  | nil => rfl
  | cons d ds ih =>
    cases plans with
    | nil => rfl
    | cons planned plans =>
      rw [told, told, ih]
      rfl

/-- A dry run succeeds if all rules have plans, and tells these. -/
theorem Forecast.applyRules_run (h : Forecast w a g c ds plans) (hdry : a.dryRun = true)
    (coloured : Bool) (shown noted : String) :
    ∃ noted', (applyRules (m := StateM World) a coloured g c ds).run (w.saying shown noted)
      = pure (.ok (), w.saying (shown ++ told a coloured ds plans) noted') := by
  induction h generalizing shown noted with
  | nil =>
    refine ⟨noted, ?_⟩
    rw [told, String.append_empty]
    rfl
  | cons hfirst _ ih =>
    obtain ⟨loc, rule, source, hplanned, rfl⟩ := hfirst
    obtain ⟨noted₁, hrun⟩ := (hplanned.saying shown noted).applyRule_of_dry coloured hdry
    rw [saying_saying] at hrun
    obtain ⟨noted₂, hrest⟩ := ih (shown ++ _) (noted ++ noted₁)
    refine ⟨noted₂, ?_⟩
    rw [applyRules_of_ok hrun, hrest, told]
    simp only [String.append_assoc]

/-- In a dry run that succeeds all rules have plans. -/
theorem exists_forecast_of_applyRules (hroot : Path.isAbsolute g.root = true)
    (hdry : a.dryRun = true) {shown noted : String}
    (h : (applyRules (m := StateM World) a coloured g c ds).run (w.saying shown noted)
      = pure (.ok (), v)) : ∃ plans, Forecast w a g c ds plans := by
  induction ds generalizing shown noted with
  | nil => exact ⟨[], .nil⟩
  | cons d ds ih =>
    obtain ⟨w₁, hrule, hrules⟩ := exists_of_applyRules_cons h
    obtain ⟨shown', noted', rfl, ⟨e, he⟩ | ⟨-, loc, rule, source, hplanned⟩⟩ :=
      (outcome_of_applyRule hroot hrule).of_dryRun hdry
    · cases he
    · -- The files are still what they were, whatever was said.
      rw [saying_saying] at hrules
      obtain ⟨plans, hplans⟩ := ih hrules
      exact ⟨_, .cons ⟨loc, rule, source, hplanned.of_saying, rfl⟩ hplans⟩

/-! ## Runs that write -/

/-- The file system accepts the writes of rules in order, each in the world that it comes to. -/
def Unhindered (w : World) (a : Arguments) (coloured : Bool) (g : WorkspaceGuard) (c : PatchConfig)
    (ds : List RuleDefinition) : Prop :=
  ∀ done d more w' loc rule source, ds = done ++ d :: more →
    (applyRules (m := StateM World) a coloured g c done).run w = pure (.ok (), w') →
    Planned w' a g c d loc rule source → w'.Accepts (Path.ofLocation loc)

namespace Unhindered

theorem accepts (h : Unhindered w a coloured g c (d :: ds))
    (hplanned : Planned w a g c d loc rule source) : w.Accepts (Path.ofLocation loc) :=
  h [] d ds w loc rule source rfl rfl hplanned

/-- The first rule succeeds, and the others go on. -/
theorem tail (h : Unhindered w a coloured g c (d :: ds))
    (hrun : (applyRule (m := StateM World) a coloured g c d).run w = pure (.ok (), v)) :
    Unhindered v a coloured g c ds := by
  rintro done d' more w' loc rule source rfl hdone hplanned
  refine h (d :: done) d' more w' loc rule source rfl ?_ hplanned
  rw [applyRules_of_ok hrun, hdone]

theorem of_permissive (hroot : Path.isAbsolute g.root = true) (hwet : a.dryRun = false)
    (h : w.policy = .permissive) (coloured : Bool) (c : PatchConfig) (ds : List RuleDefinition) :
    Unhindered w a coloured g c ds := by
  intro done d more w' loc rule source _ hdone _
  obtain ⟨plans, hlanded⟩ := exists_landed_of_applyRules hroot hwet hdone
  exact accepts_of_permissive (hlanded.policy.trans h) _

end Unhindered

/-- What rules are for is in the second world what it is in the first. -/
structure Undisturbed (w v : World) (a : Arguments) (c : PatchConfig) (root : String)
    (ds : List RuleDefinition) : Prop where
  shape : w.tree.SameShape v.tree
  cwd : v.cwd = w.cwd
  kept : ∀ d ∈ ds, ∀ loc, w.targets a c root loc d = true → KeptAt w v loc

namespace Undisturbed

theorem refl (w : World) (a : Arguments) (c : PatchConfig) (root : String)
    (ds : List RuleDefinition) : Undisturbed w w a c root ds :=
  ⟨.refl _, rfl, fun _ _ loc _ => .refl w loc⟩

/-- A rule has the same plans in both worlds. -/
theorem planned_iff (h : Undisturbed w v a c g.root (d :: ds)) :
    Planned w a g c d loc rule source ↔ Planned v a g c d loc rule source := by
  have hkept := h.kept d List.mem_cons_self loc
  constructor
  · intro hplanned
    exact hplanned.of_keptAt h.shape h.cwd (hkept hplanned.targets)
  · intro hplanned
    have htargets := hplanned.targets
    rw [targets_of_sameShape h.shape h.cwd] at htargets
    exact hplanned.of_keptAt h.shape.symm h.cwd.symm (hkept htargets).symm

/-- A rule that lands leaves undisturbed what the rules after it are for, if it inserts nothing
where one of them does. -/
theorem step (h : Undisturbed w v a c g.root (d :: ds))
    (hplanned : Planned v a g c d loc rule source)
    (hrewritten : Rewritten v v₁ loc (Utf8.octets (rule.apply source a.skipExisting).content))
    (hapart : ∀ d' ∈ ds, w.targets a c g.root loc d' = true →
      (rule.apply source a.skipExisting).inserted = 0) :
    Undisturbed w v₁ a c g.root ds := by
  refine ⟨?_, hrewritten.cwd.trans h.cwd, ?_⟩
  · exact h.shape.trans hrewritten.sameShape
  · intro d' hd' l htargets
    refine (h.kept d' (List.mem_cons_of_mem d hd') l htargets).trans ?_
    by_cases hl : l = loc
    · subst hl
      exact hplanned.keptAt hrewritten (hapart d' hd' htargets) l
    · exact hrewritten.keptAt_of_ne hl

/-- A forecast lands, and the rules succeed. -/
theorem exists_landed (h : Undisturbed w v a c g.root ds) (hwet : a.dryRun = false)
    (hapart : Apart w a g c ds) (hforecast : Forecast w a g c ds plans)
    (haccepts : Unhindered v a coloured g c ds) :
    ∃ v', (applyRules (m := StateM World) a coloured g c ds).run v = pure (.ok (), v') ∧
      Landed a g c v ds plans v' := by
  -- The first world stays; the second is the one that the rules so far have made.
  induction hforecast generalizing v with
  | nil => exact ⟨v, rfl, .nil v⟩
  | cons hfirst _ ih =>
    obtain ⟨hfirstApart, hrestApart⟩ := List.pairwise_cons.1 hapart
    obtain ⟨loc, rule, source, hplanned, rfl⟩ := hfirst
    have hplanned' := h.planned_iff.1 hplanned
    obtain ⟨v₁, hrun, hrewritten⟩ :=
      hplanned'.applyRule_of_accepts coloured hwet (haccepts.accepts hplanned')
    have hstep := h.step hplanned' hrewritten fun d' hd' =>
      hfirstApart d' hd' loc rule source hplanned
    obtain ⟨v', hrest, hlanded⟩ := ih hstep hrestApart (haccepts.tail hrun)
    refine ⟨v', ?_, .cons hplanned' hrewritten hlanded⟩
    rw [applyRules_of_ok hrun, hrest]

/-- What has landed is a forecast. -/
theorem forecast (h : Undisturbed w v a c g.root ds) (hapart : Apart w a g c ds)
    (hlanded : Landed a g c v ds plans v') : Forecast w a g c ds plans := by
  induction hlanded with
  | nil v => exact .nil
  | @cons v v₁ v' d ds plans loc rule source hplanned hrewritten hrest ih =>
    obtain ⟨hfirstApart, hrestApart⟩ := List.pairwise_cons.1 hapart
    have hplanned' := h.planned_iff.2 hplanned
    have hstep := h.step hplanned hrewritten fun d' hd' =>
      hfirstApart d' hd' loc rule source hplanned'
    exact .cons ⟨loc, rule, source, hplanned', rfl⟩ (ih hstep hrestApart)

end Undisturbed

/-! ## Both runs -/

/-- A dry run succeeds if it comes to its rules and all of them have plans. -/
theorem dry_run_code_eq_zero_iff (hdryParse : parse dryArgs = .ok { a with dryRun := true }) :
    (w.run dryArgs coloured).1.code = 0 ↔
      ∃ root c plans, w.canonicalize (w.workspaceOf a) = .ok root ∧ w.config a = .ok c ∧
        Forecast w a (w.guard root) c c.rules plans := by
  constructor
  · intro hcode
    obtain ⟨root, c, v, hroot, hconfig, hrules⟩ := exists_rules_of_code_eq_zero hdryParse hcode
    rw [← saying_nothing w] at hrules
    obtain ⟨plans, hplans⟩ :=
      exists_forecast_of_applyRules (isAbsolute_of_canonicalize hroot) rfl hrules
    exact ⟨root, c, plans, hroot, hconfig, (forecast_dryRun_iff true).1 hplans⟩
  · rintro ⟨root, c, plans, hroot, hconfig, hplans⟩
    obtain ⟨noted, hdry⟩ := ((forecast_dryRun_iff true).2 hplans).applyRules_run rfl coloured "" ""
    rw [saying_nothing] at hdry
    rw [run_of_rules_ok hdryParse hroot hconfig hdry]
    rfl

section

variable (hparse : parse args = .ok a) (hdryParse : parse dryArgs = .ok { a with dryRun := true })
  (hwet : a.dryRun = false)
  (hapart : ∀ root c, w.canonicalize (w.workspaceOf a) = .ok root → w.config a = .ok c →
    Apart w a (w.guard root) c c.rules)
include hparse hdryParse hwet hapart

/-- If the dry run succeeds, the plans that it has found land. -/
theorem run_of_dry_run
    (haccepts : ∀ root c, w.canonicalize (w.workspaceOf a) = .ok root → w.config a = .ok c →
      Unhindered w a coloured (w.guard root) c c.rules)
    (hcode : (w.run dryArgs coloured).1.code = 0) :
    (w.run args coloured).1.code = 0 := by
  obtain ⟨root, c, plans, hroot, hconfig, hplans⟩ := (dry_run_code_eq_zero_iff hdryParse).1 hcode
  obtain ⟨v, hrun, -⟩ := (Undisturbed.refl w a c (w.guard root).root c.rules).exists_landed hwet
    (hapart root c hroot hconfig) hplans (haccepts root c hroot hconfig)
  rw [run_of_rules_ok hparse hroot hconfig hrun]
  rfl

/-- If the run that writes succeeds, its plans are those that the dry run tells. -/
theorem dry_run_of_run (hcode : (w.run args coloured).1.code = 0) :
    ∃ root c plans noted v, w.canonicalize (w.workspaceOf a) = .ok root ∧ w.config a = .ok c ∧
      w.run dryArgs coloured = (.success, w.saying (told a coloured c.rules plans) noted) ∧
      w.run args coloured = (.success, v) ∧ Landed a (w.guard root) c w c.rules plans v := by
  obtain ⟨root, c, v, hroot, hconfig, hrules⟩ := exists_rules_of_code_eq_zero hparse hcode
  obtain ⟨plans, hlanded⟩ :=
    exists_landed_of_applyRules (isAbsolute_of_canonicalize hroot) hwet hrules
  have hplans := (Undisturbed.refl w a c (w.guard root).root c.rules).forecast
    (hapart root c hroot hconfig) hlanded
  obtain ⟨noted, hdry⟩ := ((forecast_dryRun_iff true).2 hplans).applyRules_run rfl coloured "" ""
  rw [saying_nothing, String.empty_append, told_dryRun] at hdry
  exact ⟨root, c, plans, noted, v, hroot, hconfig, run_of_rules_ok hdryParse hroot hconfig hdry,
    run_of_rules_ok hparse hroot hconfig hrules, hlanded⟩

end

/-- A command line, and the same one for a dry run. If no rule inserts into a file that a later one
is for, and the file system accepts the writes, both runs exit with zero or none does; they do if
the workspace exists, the configuration is good and all rules have plans for the files as they are.
Then the dry run tells plan by plan what has landed in the other run, with the number of insertions
of each rule. -/
theorem dry_run_foretells (coloured : Bool) (hparse : parse args = .ok a)
    (hdryParse : parse dryArgs = .ok { a with dryRun := true }) (hwet : a.dryRun = false)
    (hapart : ∀ root c, w.canonicalize (w.workspaceOf a) = .ok root → w.config a = .ok c →
      Apart w a (w.guard root) c c.rules)
    (haccepts : ∀ root c, w.canonicalize (w.workspaceOf a) = .ok root → w.config a = .ok c →
      Unhindered w a coloured (w.guard root) c c.rules) :
    ((w.run dryArgs coloured).1.code = 0 ↔ (w.run args coloured).1.code = 0) ∧
      ((w.run args coloured).1.code = 0 ↔
        ∃ root c plans, w.canonicalize (w.workspaceOf a) = .ok root ∧ w.config a = .ok c ∧
          Forecast w a (w.guard root) c c.rules plans) ∧
      ((w.run args coloured).1.code = 0 →
        ∃ root c plans noted, w.canonicalize (w.workspaceOf a) = .ok root ∧
          w.config a = .ok c ∧
          (w.run dryArgs coloured).2 = w.saying (told a coloured c.rules plans) noted ∧
          Landed a (w.guard root) c w c.rules plans (w.run args coloured).2) := by
  have hiff : (w.run dryArgs coloured).1.code = 0 ↔ (w.run args coloured).1.code = 0 := by
    constructor
    · exact run_of_dry_run hparse hdryParse hwet hapart haccepts
    · intro hcode
      obtain ⟨root, c, plans, noted, v, -, -, hdry, -⟩ :=
        dry_run_of_run hparse hdryParse hwet hapart hcode
      rw [hdry]
      rfl
  refine ⟨hiff, hiff.symm.trans (dry_run_code_eq_zero_iff hdryParse), ?_⟩
  intro hcode
  obtain ⟨root, c, plans, noted, v, hroot, hconfig, hdry, hrun, hlanded⟩ :=
    dry_run_of_run hparse hdryParse hwet hapart hcode
  refine ⟨root, c, plans, noted, hroot, hconfig, ?_, ?_⟩
  · rw [hdry]
  · rw [hrun]
    exact hlanded

/-! ## Samples -/

/-- The second rule is for what the first one inserts. With a count of one the dry run fails, and
the other run does not. -/
theorem dry_run_misses_insertions :
    ((ruled (letterRule "x" "a" "b" ++ letterRule "y" "b" "c")).run
        ["--rules", "r.toml", "--expect", "1", "--dry-run"] false).1.code = 1 ∧
      ((ruled (letterRule "x" "a" "b" ++ letterRule "y" "b" "c")).run
        ["--rules", "r.toml", "--expect", "1"] false).1.code = 0 := by
  decide +kernel

/-- The same rules the other way round. -/
def turned : World := ruled (letterRule "y" "b" "c" ++ letterRule "x" "a" "b")

def turnedConfig : PatchConfig where
  rules :=
    [{ id := "y", file := "a.rs", pattern := "(b)()", insert := "c" },
     { id := "x", file := "a.rs", pattern := "(a)()", insert := "b" }]

/-- The first rule does not find its letter in the file. -/
theorem apart_turned : Apart turned { rules := some "r.toml" } (turned.guard "/") turnedConfig
    turnedConfig.rules := by
  refine List.pairwise_pair.2 ?_
  intro loc rule source hplanned _
  have hresolve : turned.tree.resolve turned.cwd "/a.rs" = .ok ["a.rs"] := by decide +kernel
  obtain rfl : loc = ["a.rs"] := Except.ok.inj (hplanned.resolve.symm.trans hresolve)
  have hread : turned.read "/a.rs" = .ok (Utf8.octets "a") := by decide +kernel
  obtain rfl : source = "a" := eq_of_read hplanned.read hread
  have hnone : (RuleDefinition.toRule
      { id := "y", file := "a.rs", pattern := "(b)()", insert := "c" }).map
        (fun rule => (rule.apply "a" false).inserted) = .ok 0 := by decide +kernel
  rw [hplanned.compiled] at hnone
  exact Except.ok.inj hnone

/-- The first rule finds nothing, so both are told as they land, though they are for one file. -/
theorem dry_run_foretells_turned :
    (turned.run ["--rules", "r.toml"] false).1.code = 0 ∧
      ∃ plans, told { rules := some "r.toml" } false turnedConfig.rules plans
          = "⊙ y: would insert 0 into /a.rs\n⊙ x: would insert 1 into /a.rs\n" ∧
        Landed { rules := some "r.toml" } (turned.guard "/") turnedConfig turned
          turnedConfig.rules plans (turned.run ["--rules", "r.toml"] false).2 := by
  have hparse : parse ["--rules", "r.toml"] = .ok { rules := some "r.toml" } := by decide +kernel
  have hdryParse : parse ["--rules", "r.toml", "--dry-run"]
      = .ok { rules := some "r.toml", dryRun := true } := by decide +kernel
  have hroot : turned.canonicalize (turned.workspaceOf { rules := some "r.toml" }) = .ok "/" := by
    decide +kernel
  have hconfig : turned.config { rules := some "r.toml" } = .ok turnedConfig := by decide +kernel
  have hzero : (turned.run ["--rules", "r.toml"] false).1.code = 0 := by decide +kernel
  have houtput : (turned.run ["--rules", "r.toml", "--dry-run"] false).2.output
      = "⊙ y: would insert 0 into /a.rs\n⊙ x: would insert 1 into /a.rs\n" := by decide +kernel
  have hapart (root : String) (c : PatchConfig)
      (hroot' : turned.canonicalize (turned.workspaceOf { rules := some "r.toml" }) = .ok root)
      (hconfig' : turned.config { rules := some "r.toml" } = .ok c) :
      Apart turned { rules := some "r.toml" } (turned.guard root) c c.rules := by
    obtain rfl := Except.ok.inj (hroot.symm.trans hroot')
    obtain rfl := Except.ok.inj (hconfig.symm.trans hconfig')
    exact apart_turned
  have haccepts (root : String) (c : PatchConfig)
      (hroot' : turned.canonicalize (turned.workspaceOf { rules := some "r.toml" }) = .ok root)
      (_ : turned.config { rules := some "r.toml" } = .ok c) :
      Unhindered turned { rules := some "r.toml" } false (turned.guard root) c c.rules :=
    .of_permissive (isAbsolute_of_canonicalize hroot') rfl rfl false c c.rules
  obtain ⟨-, -, hlands⟩ := dry_run_foretells false hparse hdryParse rfl hapart haccepts
  obtain ⟨root, c, plans, noted, hroot', hconfig', hdry, hlanded⟩ := hlands hzero
  obtain rfl := Except.ok.inj (hroot.symm.trans hroot')
  obtain rfl := Except.ok.inj (hconfig.symm.trans hconfig')
  rw [hdry, saying_output] at houtput
  exact ⟨hzero, plans, String.empty_append.symm.trans houtput, hlanded⟩

end CommandLine

end SourcePatch
