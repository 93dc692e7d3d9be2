import SourcePatch.Proofs.CommandLine.Plans

/-!
# Expected counts

A count on the command line holds for each rule of the run. A rule whose plan has another number of
insertions fails before it writes. The rules before it have written by then, each as many insertions
as are expected, and what they wrote stays (`run_expecting_one_writes`).

* `Miscounted` says that a rule has a plan, but for its number of insertions.
  `Miscounted.applyRule`: such a rule says so and fails.
* `run_of_miscounted`: what a run leaves behind that comes to such a rule.
-/

namespace SourcePatch

namespace CommandLine

open World

variable {w w' : World} {a : Arguments} {coloured : Bool} {g : WorkspaceGuard} {c : PatchConfig}
  {d : RuleDefinition} {done more : List RuleDefinition} {loc : Location} {rule : InsertionRule}
  {source root : String} {n : Nat} {args : List String}

/-- The file of a rule may be patched and holds a text, but the rule does not make the expected
number of insertions in it. -/
structure Miscounted (w : World) (a : Arguments) (g : WorkspaceGuard) (c : PatchConfig)
    (d : RuleDefinition) (loc : Location) (rule : InsertionRule) (source : String) (n : Nat) :
    Prop where
  resolve : w.tree.resolve w.cwd (Path.join g.root (targetOf a c g.root d)) = .ok loc
  patchable : w.Patchable g loc
  compiled : d.toRule = .ok rule
  read : w.read (Path.ofLocation loc) = .ok (Utf8.octets source)
  count : (rule.apply source a.skipExisting).inserted ≠ n

namespace Miscounted

/-- How a rule fails whose count is not the expected one. -/
def failure (d : RuleDefinition) (loc : Location) (n found : Nat) : Failure :=
  .ofPatch d.id (.countMismatch (Path.ofLocation loc) n found)

/-- A rule with another count than the expected one fails, and leaves the files alone. -/
theorem applyRule (h : Miscounted w a g c d loc rule source n) (coloured : Bool)
    (hexpect : a.expect = some n) :
    ∃ noted, (applyRule (m := StateM World) a coloured g c d).run w
      = pure (.error (failure d loc n (rule.apply source a.skipExisting).inserted),
          w.saying "" noted) := by
  refine applyRule_of_not_planned (h.patchable.validate h.resolve) h.compiled coloured ?_
  have hoptions : (optionsFor a d).expect = some n := by
    rw [optionsFor, hexpect]
    rfl
  rw [plan_of_source (p := ⟨Path.ofLocation loc, rule, optionsFor a d⟩) h.read,
    Plan.check_of_inserted_ne hoptions h.count]
  rfl

end Miscounted

/-- A run that writes and expects a count comes to a rule that does not make it. It fails and tells
why. That rule and those after it have written nothing. Those before it have made the expected
number of insertions, each, so a file that none of them is for is what it was, and every file is if
no insertions are expected. -/
theorem run_of_miscounted (coloured : Bool) (hparse : parse args = .ok a) (hwet : a.dryRun = false)
    (hexpect : a.expect = some n) (hroot : w.canonicalize (w.workspaceOf a) = .ok root)
    (hconfig : w.config a = .ok c) (hrules : c.rules = done ++ d :: more)
    (hdone : (applyRules (m := StateM World) a coloured (w.guard root) c done).run w
      = pure (.ok (), w'))
    (hcount : Miscounted w' a (w.guard root) c d loc rule source n) :
    (∃ noted, w.run args coloured = (.failure, w'.saying "" (noted ++ Failure.report
        (Miscounted.failure d loc n (rule.apply source a.skipExisting).inserted)))) ∧
      (∃ plans, Landed a (w.guard root) c w done plans w' ∧
        ∀ planned ∈ plans, planned.transform.inserted = n) ∧
      ∀ l, n = 0 ∨ (∀ d' ∈ done, w.targets a c root l d' = false) →
        KeptAt w (w.run args coloured).2 l := by
  have habsolute : Path.isAbsolute (w.guard root).root = true := isAbsolute_of_canonicalize hroot
  obtain ⟨plans, hlanded⟩ := exists_landed_of_applyRules habsolute hwet hdone
  have hinserted := hlanded.inserted_eq hexpect
  obtain ⟨noted, hfails⟩ := hcount.applyRule coloured hexpect
  have hrun : w.run args coloured = (.failure, w'.saying "" (noted ++ Failure.report
      (Miscounted.failure d loc n (rule.apply source a.skipExisting).inserted))) := by
    rw [run_of_rules coloured hparse hroot hconfig, hrules, applyRules_append hdone,
      applyRules_of_error hfails]
    exact congrArg (Prod.mk Exit.failure) (saying_saying ..)
  refine ⟨⟨noted, hrun⟩, ⟨plans, hlanded, hinserted⟩, ?_⟩
  intro l hl
  rw [hrun]
  -- What is said at the end touches no file.
  rcases hl with hzero | hothers
  · refine hlanded.keptAt_of_inserted_eq_zero ?_ l
    intro planned hmem
    exact (hinserted planned hmem).trans hzero
  · exact hlanded.keptAt_of_not_targets hothers

/-! ## A sample -/

/-- A rule that finds its letter in the file, and one that does not. -/
def findsOnce : RuleDefinition := { id := "x", file := "a.rs", pattern := "(a)()", insert := "b" }

def findsNothing : RuleDefinition :=
  { id := "y", file := "a.rs", pattern := "(z)()", insert := "c" }

def uneven : World := ruled (letterRule "x" "a" "b" ++ letterRule "y" "z" "c")

def unevenConfig : PatchConfig where
  rules := [findsOnce, findsNothing]

/-- The arguments of a run that expects one insertion of each rule. -/
def expectOne : Arguments := { rules := some "r.toml", expect := some 1 }

/-- The run fails since the second rule does not make the one insertion, and the first one has
written. -/
theorem run_expecting_one_writes :
    uneven.read "a.rs" = .ok (Utf8.octets "a") ∧
      ((execute (m := StateM World) expectOne false).run uneven).1
        = .error (Miscounted.failure findsNothing ["a.rs"] 1 0) ∧
      (uneven.run ["--rules", "r.toml", "--expect", "1"] false).1.code = 1 ∧
      (uneven.run ["--rules", "r.toml", "--expect", "1"] false).2.read "a.rs"
        = .ok (Utf8.octets "a\n\nb") := by
  decide +kernel

/-- The world of the second rule. -/
def begun : World :=
  ((applyRules (m := StateM World) expectOne false (uneven.guard "/") unevenConfig
    [findsOnce]).run uneven).2

theorem applyRules_findsOnce :
    (applyRules (m := StateM World) expectOne false (uneven.guard "/") unevenConfig
      [findsOnce]).run uneven = pure (.ok (), begun) := by
  have hfirst : ((applyRules (m := StateM World) expectOne false (uneven.guard "/") unevenConfig
      [findsOnce]).run uneven).1 = .ok () := by decide +kernel
  rw [begun]
  generalize (applyRules (m := StateM World) expectOne false (uneven.guard "/") unevenConfig
    [findsOnce]).run uneven = result at hfirst ⊢
  exact Prod.ext hfirst rfl

theorem exists_miscounted_begun : ∃ loc rule source,
    Miscounted begun expectOne (uneven.guard "/") unevenConfig findsNothing loc rule source 1 := by
  have hallowed : begun.validate (uneven.guard "/")
      (targetOf expectOne unevenConfig "/" findsNothing) = .ok "/a.rs" := by decide +kernel
  have hread : begun.read "/a.rs" = .ok (Utf8.octets "a\n\nb") := by decide +kernel
  have hnone : findsNothing.toRule.map (fun rule => (rule.apply "a\n\nb" false).inserted)
      = .ok 0 := by decide +kernel
  obtain ⟨loc, hpath, hresolve, hpatchable⟩ := exists_patchable rfl hallowed
  cases hrule : findsNothing.toRule with
  | error e =>
    rw [hrule] at hnone
    cases hnone
  | ok rule =>
    rw [hrule] at hnone
    refine ⟨loc, rule, "a\n\nb", hresolve, hpatchable, hrule, hpath ▸ hread, ?_⟩
    intro hone
    cases (Except.ok.inj hnone).symm.trans hone

/-- The first rule has made its one insertion, and the rule file is what it was. -/
theorem run_of_miscounted_uneven :
    (uneven.run ["--rules", "r.toml", "--expect", "1"] false).1 = .failure ∧
      (∃ plans, Landed expectOne (uneven.guard "/") unevenConfig uneven [findsOnce] plans begun ∧
        ∀ planned ∈ plans, planned.transform.inserted = 1) ∧
      KeptAt uneven (uneven.run ["--rules", "r.toml", "--expect", "1"] false).2 ["r.toml"] := by
  have hparse : parse ["--rules", "r.toml", "--expect", "1"] = .ok expectOne := by decide +kernel
  have hroot : uneven.canonicalize (uneven.workspaceOf expectOne) = .ok "/" := by decide +kernel
  have hconfig : uneven.config expectOne = .ok unevenConfig := by decide +kernel
  obtain ⟨loc, rule, source, hcount⟩ := exists_miscounted_begun
  obtain ⟨⟨noted, hrun⟩, ⟨plans, hlanded⟩, hkept⟩ :=
    run_of_miscounted false hparse rfl rfl hroot hconfig rfl applyRules_findsOnce hcount
  refine ⟨?_, ⟨plans, hlanded⟩, hkept ["r.toml"] (Or.inr ?_)⟩
  · rw [hrun]
  · decide +kernel

end CommandLine

end SourcePatch
