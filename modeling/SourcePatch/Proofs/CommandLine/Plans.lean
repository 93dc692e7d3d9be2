import SourcePatch.Proofs.CommandLine.Runs

/-!
# Plans of a run

Rules that succeed, and not in a dry run, have one plan each, and each plan lands before the next
rule is planned.

* `World.targets` tells whether a rule is for the file at a location.
* `World.KeptAt` says that a location holds the same in two worlds. A rule that is planned in one of
  them is planned in the other if its file is kept (`Planned.of_keptAt`).
* `Landed` lists the plans of rules that succeed (`exists_landed_of_applyRules`). It tells what is
  kept: a file that no rule is for, and every file if nothing is inserted.
-/

namespace SourcePatch

namespace World

open CommandLine

/-- Is a rule for the file at a location, however its path is spelled? -/
def targets (w : World) (a : Arguments) (c : PatchConfig) (root : String) (loc : Location)
    (d : RuleDefinition) : Bool :=
  decide (w.tree.resolve w.cwd (Path.join root (targetOf a c root d)) = .ok loc)

/-- A location holds in the second world what it holds in the first. Of a file this is the
content. -/
def KeptAt (w w' : World) (loc : Location) : Prop :=
  w'.tree.entryAt? loc = w.tree.entryAt? loc ∨
    ∃ old new, w.tree.entryAt? loc = some (.file old) ∧
      w'.tree.entryAt? loc = some (.file new) ∧ new.content = old.content

variable {w w' w'' : World} {loc : Location}

namespace KeptAt

theorem refl (w : World) (loc : Location) : KeptAt w w loc := Or.inl rfl

theorem symm (h : KeptAt w w' loc) : KeptAt w' w loc := by
  rcases h with heq | ⟨old, new, hold, hnew, hcontent⟩
  · exact Or.inl heq.symm
  · exact Or.inr ⟨new, old, hnew, hold, hcontent.symm⟩

theorem trans (h : KeptAt w w' loc) (h' : KeptAt w' w'' loc) : KeptAt w w'' loc := by
  rcases h' with heq | ⟨mid, new, hmid, hnew, hcontent'⟩
  · unfold KeptAt at h ⊢
    rwa [heq]
  · rcases h with heq | ⟨old, mid', hold, hmid', hcontent⟩
    · rw [heq] at hmid
      exact Or.inr ⟨mid, new, hmid, hnew, hcontent'⟩
    · rw [hmid'] at hmid
      obtain rfl := Entry.file.inj (Option.some.inj hmid)
      exact Or.inr ⟨old, new, hold, hnew, hcontent'.trans hcontent⟩

/-- A file that is kept has the same content. -/
theorem file {old : FileData} (h : KeptAt w w' loc)
    (hold : w.tree.entryAt? loc = some (.file old)) :
    ∃ new, w'.tree.entryAt? loc = some (.file new) ∧ new.content = old.content := by
  rcases h with heq | ⟨old', new, hold', hnew, hcontent⟩
  · exact ⟨old, heq.trans hold, rfl⟩
  · rw [hold] at hold'
    obtain rfl := Entry.file.inj (Option.some.inj hold')
    exact ⟨new, hnew, hcontent⟩

end KeptAt

theorem Rewritten.keptAt_of_ne {content : Bytes} {l : Location} (h : Rewritten w w' loc content)
    (hl : l ≠ loc) : KeptAt w w' l :=
  Or.inl (h.other l hl)

end World

namespace CommandLine

open World

variable {w w₁ w' : World} {a : Arguments} {coloured : Bool} {g : WorkspaceGuard} {c : PatchConfig}
  {d : RuleDefinition} {ds : List RuleDefinition} {loc : Location} {rule : InsertionRule}
  {source : String} {plans : List Plan}

/-! ## Rules and what is kept -/

/-- A rule is for the same file before and after files were rewritten. -/
theorem targets_of_sameShape (hshape : w.tree.SameShape w'.tree) (hcwd : w'.cwd = w.cwd)
    (a : Arguments) (c : PatchConfig) (root : String) (loc : Location) :
    w'.targets a c root loc = w.targets a c root loc := by
  funext d
  rw [targets, targets, hcwd, hshape.resolve]

namespace Planned

/-- A rule has the same plan in another world if its file is kept there. -/
theorem of_keptAt (h : Planned w a g c d loc rule source) (hshape : w.tree.SameShape w'.tree)
    (hcwd : w'.cwd = w.cwd) (hkept : KeptAt w w' loc) : Planned w' a g c d loc rule source := by
  obtain ⟨old, hold⟩ := h.patchable.file
  obtain ⟨new, hnew, hcontent⟩ := hkept.file hold
  have hpatchable : w'.Patchable g loc := h.patchable.of_sameShape hshape.symm
  refine ⟨?_, hpatchable, h.compiled, ?_, h.check⟩
  · rw [hcwd, hshape.resolve]
    exact h.resolve
  · rw [World.read, Tree.read, hpatchable.file? hnew]
    exact congrArg Except.ok (hcontent.trans (h.content hold))

theorem saying (h : Planned w a g c d loc rule source) (shown noted : String) :
    Planned (w.saying shown noted) a g c d loc rule source :=
  h.of_keptAt (.refl _) rfl (.refl _ _)

theorem of_saying {shown noted : String}
    (h : Planned (w.saying shown noted) a g c d loc rule source) :
    Planned w a g c d loc rule source :=
  h.of_keptAt (.refl _) rfl (.refl _ _)

theorem targets (h : Planned w a g c d loc rule source) :
    w.targets a c g.root loc d = true :=
  decide_eq_true h.resolve

/-- With a count on the command line, every plan has that many insertions. -/
theorem inserted_eq {n : Nat} (h : Planned w a g c d loc rule source)
    (hexpect : a.expect = some n) : (rule.apply source a.skipExisting).inserted = n := by
  have hcount := (Plan.check_eq_ok_iff.1 h.check).1 n
  rw [optionsFor, hexpect] at hcount
  exact hcount rfl

/-- A plan without insertions keeps every file. -/
theorem keptAt (h : Planned w a g c d loc rule source)
    (hrewritten : Rewritten w w' loc (Utf8.octets (rule.apply source a.skipExisting).content))
    (hnone : (rule.apply source a.skipExisting).inserted = 0) (l : Location) : KeptAt w w' l := by
  by_cases hl : l = loc
  · subst hl
    obtain ⟨old, new, hold, hnew, hcontent⟩ := hrewritten.entry
    refine Or.inr ⟨old, new, hold, hnew, ?_⟩
    rw [hcontent, rule.content_of_replacements_nil (List.length_eq_zero_iff.1 hnone),
      h.content hold]
  · exact hrewritten.keptAt_of_ne hl

end Planned

/-! ## Plans that land -/

/-- The plans of rules that are applied in order. Each is made for what the ones before have left,
and makes its file the content of its transform. -/
inductive Landed (a : Arguments) (g : WorkspaceGuard) (c : PatchConfig) :
    World → List RuleDefinition → List Plan → World → Prop where
  | nil (w : World) : Landed a g c w [] [] w
  | cons {w w₁ w' : World} {d : RuleDefinition} {ds : List RuleDefinition} {plans : List Plan}
      {loc : Location} {rule : InsertionRule} {source : String}
      (planned : Planned w a g c d loc rule source)
      (rewritten : Rewritten w w₁ loc (Utf8.octets (rule.apply source a.skipExisting).content))
      (rest : Landed a g c w₁ ds plans w') :
      Landed a g c w (d :: ds)
        (.ofSource (Path.ofLocation loc) rule (optionsFor a d) source :: plans) w'

/-- Rules that succeed, and not in a dry run, have plans, and these land. -/
theorem exists_landed_of_applyRules (hroot : Path.isAbsolute g.root = true)
    (hwet : a.dryRun = false)
    (h : (applyRules (m := StateM World) a coloured g c ds).run w = pure (.ok (), w')) :
    ∃ plans, Landed a g c w ds plans w' := by
  induction ds generalizing w with
  | nil =>
    obtain rfl : w = w' := congrArg Prod.snd h
    exact ⟨[], .nil w⟩
  | cons d ds ih =>
    obtain ⟨w₁, hrule, hrules⟩ := exists_of_applyRules_cons h
    obtain ⟨loc, rule, source, -, hplanned, hrewritten, -⟩ :=
      exists_planned_of_applyRule hroot hwet hrule
    obtain ⟨plans, hlanded⟩ := ih hrules
    exact ⟨_, .cons hplanned hrewritten hlanded⟩

namespace Landed

theorem policy (h : Landed a g c w ds plans w') : w'.policy = w.policy := by
  induction h with
  | nil w => rfl
  | cons hplanned hrewritten hrest ih => exact ih.trans hrewritten.policy

/-- One more plan lands after the others. -/
theorem snoc {w'' : World} (h : Landed a g c w ds plans w')
    (hplanned : Planned w' a g c d loc rule source)
    (hrewritten : Rewritten w' w'' loc (Utf8.octets (rule.apply source a.skipExisting).content)) :
    ∃ plans', Landed a g c w (ds ++ [d]) plans' w'' := by
  induction h with
  | nil w => exact ⟨_, .cons hplanned hrewritten (.nil w'')⟩
  | cons hfirst hrewritten' hrest ih =>
    obtain ⟨plans', hlanded⟩ := ih hplanned hrewritten
    exact ⟨_, .cons hfirst hrewritten' hlanded⟩

/-- With a count on the command line, all plans that land have that many insertions. -/
theorem inserted_eq {n : Nat} (h : Landed a g c w ds plans w') (hexpect : a.expect = some n) :
    ∀ planned ∈ plans, planned.transform.inserted = n := by
  induction h with
  | nil w => simp
  | cons hplanned hrewritten hrest ih =>
    intro planned hmem
    rcases List.mem_cons.1 hmem with rfl | hmem
    · exact hplanned.inserted_eq hexpect
    · exact ih planned hmem

/-- Plans without insertions keep every file. -/
theorem keptAt_of_inserted_eq_zero (h : Landed a g c w ds plans w')
    (hnone : ∀ planned ∈ plans, planned.transform.inserted = 0) (l : Location) :
    KeptAt w w' l := by
  induction h with
  | nil w => exact .refl w l
  | cons hplanned hrewritten hrest ih =>
    obtain ⟨hfirst, hothers⟩ := List.forall_mem_cons.1 hnone
    exact (hplanned.keptAt hrewritten hfirst l).trans (ih hothers)

/-- A file that no rule is for is kept. -/
theorem keptAt_of_not_targets (h : Landed a g c w ds plans w') {l : Location}
    (hother : ∀ d ∈ ds, w.targets a c g.root l d = false) : KeptAt w w' l := by
  induction h with
  | nil w => exact .refl w l
  | @cons w w₁ w' d ds plans loc rule source hplanned hrewritten hrest ih =>
    obtain ⟨hfirst, hothers⟩ := List.forall_mem_cons.1 hother
    -- The rule is for its own file, so that is another one.
    have hl : l ≠ loc := by
      rintro rfl
      rw [hplanned.targets] at hfirst
      cases hfirst
    refine (hrewritten.keptAt_of_ne hl).trans (ih ?_)
    intro d hd
    rw [targets_of_sameShape hrewritten.sameShape hrewritten.cwd]
    exact hothers d hd

end Landed

/-! ## A sample -/

/-- A file, and a rule file beside it. -/
def ruled (rules : String) : World where
  tree :=
    { entries :=
        [(["a.rs"], .file ⟨Utf8.octets "a", Tree.defaultMode, 0⟩),
         (["r.toml"], .file ⟨Utf8.octets rules, Tree.defaultMode, 0⟩)] }
  cwd := []

/-- A rule for the file, that inserts a letter after each occurrence of another one. -/
def letterRule (id found inserted : String) : String :=
  s!"[[rules]]\nid='{id}'\nfile='a.rs'\npattern='({found})()'\ninsert='{inserted}'\n"

end CommandLine

end SourcePatch
