import SourcePatch.Proofs.CommandLine.Plans

/-!
# Composition

A run that writes is the composition of its rules in their order. Several rules may be for one file,
under different paths; each of them is planned for what the one before has made of it.

* `World.Composed` says what became of the file at a location when rules were applied to it.
* `Landed.composed`: plans that land compose, file by file.
* `run_composed`: the rules of a run up to the first that fails compose, and those are all that the
  files and the output get. Only where the time of a new file may not be set can the rule that fails
  have written before.
-/

namespace SourcePatch

/-- What rules make of a text, one after the other. -/
def InsertionRule.applyAll (rules : List InsertionRule) (skipExisting : Bool) (source : String) :
    String :=
  rules.foldl (fun text rule => (rule.apply text skipExisting).content) source

namespace World

open CommandLine

/-- What became of a location: no rule was for it, and it is what it was; or some were, and its text
went through them in their order. -/
def Composed (w w' : World) (skipExisting : Bool) (mine : List RuleDefinition) (loc : Location) :
    Prop :=
  (mine = [] ∧ w'.tree.entryAt? loc = w.tree.entryAt? loc) ∨
    (mine ≠ [] ∧ ∃ old new source rules,
      w.tree.entryAt? loc = some (.file old) ∧ w'.tree.entryAt? loc = some (.file new) ∧
      mine.mapM RuleDefinition.toRule = .ok rules ∧ old.content = Utf8.octets source ∧
      new.content = Utf8.octets (InsertionRule.applyAll rules skipExisting source))

namespace Composed

variable {w w' w'' : World} {skipExisting : Bool} {mine : List RuleDefinition} {loc : Location}

/-- A location that the first of two worlds has left alone. -/
theorem of_entry_eq (heq : w'.tree.entryAt? loc = w.tree.entryAt? loc)
    (h : Composed w' w'' skipExisting mine loc) : Composed w w'' skipExisting mine loc := by
  unfold Composed at h ⊢
  rwa [heq] at h

/-- Only the files matter. -/
theorem of_tree_eq (h : Composed w w' skipExisting mine loc) (htree : w''.tree = w'.tree) :
    Composed w w'' skipExisting mine loc := by
  unfold Composed at h ⊢
  rwa [htree]

/-- A rule before the others. -/
theorem cons {d : RuleDefinition} {rule : InsertionRule} {source : String} {old : FileData}
    (hrule : d.toRule = .ok rule) (hold : w.tree.entryAt? loc = some (.file old))
    (hsource : old.content = Utf8.octets source)
    (hfirst : Rewritten w w' loc (Utf8.octets (rule.apply source skipExisting).content))
    (h : Composed w' w'' skipExisting mine loc) : Composed w w'' skipExisting (d :: mine) loc := by
  obtain ⟨-, mid, -, hmid, hcontent⟩ := hfirst.entry
  refine Or.inr ⟨List.cons_ne_nil d mine, ?_⟩
  rcases h with ⟨rfl, heq⟩ | ⟨-, mid', new, source', rules, hmid', hnew, hrules, hsource', hresult⟩
  · refine ⟨old, mid, source, [rule], hold, ?_, ?_, hsource, hcontent⟩
    · rw [heq, hmid]
    · rw [List.mapM_cons, hrule, List.mapM_nil]
      rfl
  · -- What the first rule has made of the text is what the others begin with.
    rw [hmid] at hmid'
    obtain rfl := Entry.file.inj (Option.some.inj hmid')
    obtain rfl : (rule.apply source skipExisting).content = source' :=
      Utf8.octets_inj (hcontent.symm.trans hsource')
    refine ⟨old, new, source, rule :: rules, hold, hnew, ?_, hsource, hresult⟩
    rw [List.mapM_cons, hrule, hrules]
    rfl

end Composed

end World

namespace CommandLine

open World

variable {w w' : World} {a : Arguments} {coloured : Bool} {g : WorkspaceGuard} {c : PatchConfig}
  {ds : List RuleDefinition} {plans : List Plan} {root : String} {args : List String}

/-- Plans that land compose, file by file. -/
theorem Landed.composed (h : Landed a g c w ds plans w') (loc : Location) :
    Composed w w' a.skipExisting (ds.filter (w.targets a c g.root loc)) loc := by
  induction h with
  | nil w => exact Or.inl ⟨rfl, rfl⟩
  | @cons w w₁ w' d ds plans loc₁ rule source hplanned hrewritten hrest ih =>
    rw [targets_of_sameShape hrewritten.sameShape hrewritten.cwd] at ih
    by_cases hloc : loc = loc₁
    · -- the rule is for this file, and goes before those of the rest that are
      subst hloc
      obtain ⟨old, hold⟩ := hplanned.patchable.file
      rw [List.filter_cons_of_pos hplanned.targets]
      exact ih.cons hplanned.compiled hold (hplanned.content hold) hrewritten
    · have htarget : ¬ w.targets a c g.root loc d = true := by
        rw [targets, decide_eq_true_eq, hplanned.resolve]
        simpa using Ne.symm hloc
      rw [List.filter_cons_of_neg htarget]
      exact ih.of_entry_eq (hrewritten.other loc hloc)

/-- Rules that succeed tell their messages. -/
theorem applyRules_output (hroot : Path.isAbsolute g.root = true) (hdry : a.dryRun = false)
    (hdiff : a.diff = false)
    (h : (applyRules (m := StateM World) a coloured g c ds).run w = pure (.ok (), w')) :
    w'.output = w.output ++ String.join (ds.map fun d => d.message ++ "\n") := by
  induction ds generalizing w with
  | nil =>
    obtain rfl : w = w' := congrArg Prod.snd h
    simp
  | cons d ds ih =>
    obtain ⟨w₁, hrule, hrules⟩ := exists_of_applyRules_cons h
    obtain ⟨loc, rule, source, shown, -, -, hout, hshown⟩ :=
      exists_planned_of_applyRule hroot hdry hrule
    rw [ih hrules, hout, hshown hdiff]
    simp [String.append_assoc]

/-- A run that writes, in a workspace that exists and with a configuration, whatever else it is
asked for. Some rules at the beginning succeed. Either these are all and the exit code is zero, or
the next one has no plan, or the file system does not accept its write; it fails, and the exit code
is one. The files went through the rules that are for them, in their order: those that succeeded,
and the one that failed only where setting the time of a new file may be refused. Without diffs, the
output is the messages of the rules that succeeded. -/
theorem run_composed (coloured : Bool) (hparse : parse args = .ok a) (hdry : a.dryRun = false)
    (hroot : w.canonicalize (w.workspaceOf a) = .ok root) (hconfig : w.config a = .ok c) :
    ∃ done rest w' applied, c.rules = done ++ rest ∧
      (applyRules (m := StateM World) a coloured (w.guard root) c done).run w
        = pure (.ok (), w') ∧
      ((rest = [] ∧ applied = done ∧ (w.run args coloured).1.code = 0) ∨
        ∃ d more e, rest = d :: more ∧
          ((applyRule (m := StateM World) a coloured (w.guard root) c d).run w').1 = .error e ∧
          (∀ loc rule source, Planned w' a (w.guard root) c d loc rule source →
            ¬ w'.Accepts (Path.ofLocation loc)) ∧
          (applied = done ∨ applied = done ++ [d] ∧ ¬ w.policy.Stamps) ∧
          (w.run args coloured).1.code = 1) ∧
      (∀ loc, Composed w (w.run args coloured).2 a.skipExisting
        (applied.filter (w.targets a c root loc)) loc) ∧
      (a.diff = false → (w.run args coloured).2.output
        = w.output ++ String.join (done.map fun d => d.message ++ "\n")) := by
  have habsolute : Path.isAbsolute (w.guard root).root = true := isAbsolute_of_canonicalize hroot
  obtain ⟨done, rest, w', hrules, hdone, hend⟩ :=
    applyRules_cases a coloured (w.guard root) c c.rules w
  obtain ⟨plans, hlanded⟩ := exists_landed_of_applyRules habsolute hdry hdone
  have houtput (hdiff : a.diff = false) := applyRules_output habsolute hdry hdiff hdone
  have hrun := run_of_rules coloured hparse hroot hconfig
  rcases hend with ⟨rfl, hall⟩ | ⟨d, more, e, w'', rfl, hfails, hall⟩
  · refine ⟨done, [], w', done, hrules, hdone, ?_⟩
    rw [hall] at hrun
    rw [hrun]
    exact ⟨Or.inl ⟨rfl, rfl, rfl⟩, hlanded.composed, houtput⟩
  · rw [hall] at hrun
    obtain ⟨haccepts, hwritten, hsilent⟩ := (outcome_of_applyRule habsolute hfails).of_error
    -- The rules that the files went through, with those that have landed.
    obtain ⟨applied, happlied, hcomposed⟩ : ∃ applied,
        (applied = done ∨ applied = done ++ [d] ∧ ¬ w.policy.Stamps) ∧
        ∀ loc, Composed w w'' a.skipExisting (applied.filter (w.targets a c root loc)) loc := by
      rcases hwritten with htree | ⟨hstamps, loc, rule, source, hplanned, hrewritten⟩
      · exact ⟨done, Or.inl rfl, fun loc => (hlanded.composed loc).of_tree_eq htree⟩
      · obtain ⟨plans', hlanded'⟩ := hlanded.snoc hplanned hrewritten
        rw [hlanded.policy] at hstamps
        exact ⟨done ++ [d], Or.inr ⟨rfl, hstamps⟩, hlanded'.composed⟩
    refine ⟨done, d :: more, w', applied, hrules, hdone,
      Or.inr ⟨d, more, e, rfl, ?_, haccepts, happlied, ?_⟩, ?_, ?_⟩
    · rw [hfails]
      rfl
    · rw [hrun]
      rfl
    · intro loc
      rw [hrun]
      exact (hcomposed loc).of_tree_eq (ending_tree _)
    · intro hdiff
      rw [hrun]
      exact (ending_output _).trans ((hsilent hdiff).trans (houtput hdiff))

/-! ## A sample -/

/-- A file, a link to it, and rules for both. -/
def linked : World where
  tree :=
    { entries :=
        [(["a.rs"], .file ⟨Utf8.octets "a", Tree.defaultMode, 0⟩),
         (["b.rs"], .link "a.rs"),
         (["r.toml"], .file ⟨Utf8.octets <|
            "[[rules]]\nid='x'\nfile='a.rs'\npattern='(a)()'\ninsert='b'\n" ++
            "[[rules]]\nid='y'\nfile='b.rs'\npattern='(b)()'\ninsert='c'\n",
            Tree.defaultMode, 0⟩)] }
  cwd := []

def linkedConfig : PatchConfig where
  rules :=
    [{ id := "x", file := "a.rs", pattern := "(a)()", insert := "b" },
     { id := "y", file := "b.rs", pattern := "(b)()", insert := "c" }]

/-- The second rule, which is for the link, goes on with what the first has made of the file. -/
theorem run_composed_through_link :
    (linked.run ["--rules", "r.toml"] false).1.code = 0 ∧
    (∃ new, (linked.run ["--rules", "r.toml"] false).2.tree.entryAt? ["a.rs"] = some (.file new) ∧
      new.content = Utf8.octets "a\n\nb\n\nc") ∧
    (linked.run ["--rules", "r.toml"] false).2.output
      = "Applied rule 'x' to a.rs\nApplied rule 'y' to b.rs\n" := by
  have hparse : parse ["--rules", "r.toml"] = .ok { rules := some "r.toml" } := by decide +kernel
  have hroot : linked.canonicalize (linked.workspaceOf { rules := some "r.toml" }) = .ok "/" := by
    decide +kernel
  have hconfig : linked.config { rules := some "r.toml" } = .ok linkedConfig := by decide +kernel
  obtain ⟨done, rest, w', applied, hrules, -, hend, hcomposed, houtput⟩ :=
    run_composed false hparse rfl hroot hconfig
  have hcode : (linked.run ["--rules", "r.toml"] false).1.code = 0 := by
    rw [run_of_rules false hparse hroot hconfig]
    decide +kernel
  -- The exit code says that no rule fails, so both are applied, and both are for the file.
  obtain ⟨rfl, rfl⟩ : rest = [] ∧ done = applied := by
    rcases hend with ⟨hrest, happlied, -⟩ | ⟨_, _, _, -, -, -, -, hfails⟩
    · exact ⟨hrest, happlied.symm⟩
    · rw [hcode] at hfails
      cases hfails
  obtain rfl : linkedConfig.rules = done := by simpa using hrules
  have hmine : linkedConfig.rules.filter
      (linked.targets { rules := some "r.toml" } linkedConfig "/" ["a.rs"]) = linkedConfig.rules := by
    decide +kernel
  refine ⟨hcode, ?_, ?_⟩
  · have hfile := hcomposed ["a.rs"]
    rw [hmine] at hfile
    rcases hfile with ⟨hnil, -⟩ | ⟨-, old, new, source, rules, hold, hnew, hcompiled, hsource, hresult⟩
    · cases hnil
    refine ⟨new, hnew, ?_⟩
    obtain rfl : source = "a" := by
      obtain rfl := Entry.file.inj (Option.some.inj hold)
      exact Utf8.octets_inj hsource.symm
    have htext : (linkedConfig.rules.mapM RuleDefinition.toRule).map
        (InsertionRule.applyAll · false "a") = .ok "a\n\nb\n\nc" := by decide +kernel
    rw [hcompiled] at htext
    rw [hresult]
    exact congrArg Utf8.octets (Except.ok.inj htext)
  · rw [houtput rfl]
    decide +kernel

/-- The same rules, where `b.rs` is a file of its own that its owner may not write. -/
def unlinked : World :=
  { linked with
    tree := linked.tree.put ["b.rs"] (.file ⟨Utf8.octets "b", 0o444, 0⟩)
    policy := .unprivileged fun _ => false }

-- The second rule has a plan, but its write is refused; so only the first has written and tells so.
example :
    (unlinked.run ["--rules", "r.toml"] false).1.code = 1 ∧
    (unlinked.run ["--rules", "r.toml"] false).2.read "a.rs" = .ok (Utf8.octets "a\n\nb") ∧
    (unlinked.run ["--rules", "r.toml"] false).2.read "b.rs" = .ok (Utf8.octets "b") ∧
    (unlinked.run ["--rules", "r.toml"] false).2.output = "Applied rule 'x' to a.rs\n" := by
  decide +kernel

end CommandLine

end SourcePatch
