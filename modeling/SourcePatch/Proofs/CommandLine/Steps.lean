import SourcePatch.CommandLine.Run
import SourcePatch.Proofs.Disk.Shape
import SourcePatch.Proofs.Patch.Landing
import SourcePatch.Proofs.Rule.Images
import SourcePatch.Proofs.Workspace.Guarding

/-!
# Steps of a run

What applying one rule does to a `World`.

* `Planned` says all that is known of a rule before it is committed, `World.Rewritten` what the
  commit does.
* `RuleOutcome` lists all that can come of a rule, `applyRule_outcome` says that nothing else can. A
  rule fails because it has no plan, or because the file system refuses a step of the write.
* `Planned.applyRule_of_accepts`: a rule that is planned is committed if the file system accepts
  that.
-/

namespace SourcePatch

namespace World

/-! ## Saying something -/

/-- The world after something was written to the output and to the notes. -/
def saying (w : World) (shown noted : String) : World :=
  { w with output := w.output ++ shown, notes := w.notes ++ noted }

variable (w : World) (shown noted : String)

@[simp] theorem saying_output : (w.saying shown noted).output = w.output ++ shown := rfl

@[simp] theorem saying_nothing : w.saying "" "" = w := by
  simp [saying]

@[simp] theorem saying_saying (shown' noted' : String) :
    (w.saying shown noted).saying shown' noted' = w.saying (shown ++ shown') (noted ++ noted') := by
  simp [saying, String.append_assoc]

/-! ## Rewriting a file -/

/-- The second world is the first with other content in the file at a location. -/
structure Rewritten (w w' : World) (loc : Location) (content : Bytes) : Prop where
  entry : ∃ old new, w.tree.entryAt? loc = some (.file old) ∧
    w'.tree.entryAt? loc = some (.file new) ∧ new.content = content
  other : ∀ l, l ≠ loc → w'.tree.entryAt? l = w.tree.entryAt? l
  cwd : w'.cwd = w.cwd
  home : w'.home = w.home
  policy : w'.policy = w.policy

variable {w shown noted} {w₀ w' : World} {p q : Patcher} {planned : Plan} {loc : Location}

theorem Rewritten.sameShape {content : Bytes} (h : Rewritten w w' loc content) :
    w.tree.SameShape w'.tree := by
  obtain ⟨old, new, hold, hnew, -⟩ := h.entry
  exact Tree.sameShape_of_replaced hold hnew h.other

/-- What is said before makes no difference. -/
theorem Rewritten.of_saying {content : Bytes}
    (h : Rewritten (w.saying shown noted) w' loc content) : Rewritten w w' loc content :=
  ⟨h.entry, h.other, h.cwd, h.home, h.policy⟩

/-- What is said after makes no difference. -/
theorem Rewritten.saying {content : Bytes} (h : Rewritten w w' loc content)
    (shown noted : String) : Rewritten w (w'.saying shown noted) loc content :=
  ⟨h.entry, h.other, h.cwd, h.home, h.policy⟩

/-- A plan that is committed to the file that it was made for is refused at some step, and the world
is as it was; or it makes the content of its transform of the file, with or without insertions. In
the end it has landed, unless the policy refuses to set the time of the new file. -/
theorem rewritten_cases {old : FileData} (q : Patcher) (hplan : (w₀.plan p).1 = .ok planned)
    (hread : w.read planned.file = .ok (Utf8.octets planned.source))
    (hloc : w.tree.locate w.cwd planned.file = .ok loc)
    (hold : w.tree.entryAt? loc = some (.file old))
    (hsource : old.content = Utf8.octets planned.source) :
    (∃ cause, w.Refuses planned.file cause ∧
      w.commit q planned = (.error (.edit planned.file (.io cause)), w)) ∨
    ∃ w', Rewritten w w' loc (Utf8.octets planned.transform.content) ∧ w'.output = w.output ∧
      ((∃ cause, w.policy w'.tree w.cwd (.stamp planned.file) = some cause ∧
          w.commit q planned = (.error (.edit planned.file (.io cause)), w')) ∨
        ∃ report, w.commit q planned = (.ok report, w')) := by
  cases hunchanged : planned.isUnchanged with
  | true =>
    -- Without insertions the content of the transform is the source.
    have hcontent : planned.transform.content = planned.source := by
      obtain ⟨source, -, rfl, -⟩ := plan_eq_ok_iff.1 hplan
      exact p.rule.content_of_replacements_nil (List.isEmpty_iff.1 hunchanged)
    refine Or.inr ⟨w, ⟨⟨old, old, hold, hold, ?_⟩, ?_, rfl, rfl, rfl⟩, rfl,
      Or.inr ⟨_, commit_of_isUnchanged hunchanged⟩⟩
    · rw [hcontent, hsource]
    · intro l _
      rfl
  | false =>
    rcases commit_of_ok_cases hunchanged hread (resultOn_source q.options hplan) with hrefused |
      ⟨w', loc', new, hloc', hreplaced, hnew, hend⟩
    · exact Or.inl hrefused
    · obtain rfl := Except.ok.inj (hloc.symm.trans hloc')
      refine Or.inr ⟨w', ⟨⟨old, new, hold, hreplaced.entry, hnew⟩, hreplaced.other, hreplaced.cwd,
        hreplaced.home, hreplaced.policy⟩, hreplaced.output, ?_⟩
      rcases hend with hunstamped | hcommit
      · exact Or.inl hunstamped
      · exact Or.inr ⟨_, hcommit⟩

end World

namespace CommandLine

open World

variable {w w' : World} {a : Arguments} {coloured : Bool} {g : WorkspaceGuard} {c : PatchConfig}
  {d : RuleDefinition} {ds : List RuleDefinition} {p : Patcher} {planned : Plan} {root : String}

theorem printLine_run (w : World) (text : String) :
    (printLine (m := StateM World) text).run w = pure ((), w.saying (text ++ "\n") "") := by
  simp only [saying, String.append_empty]
  rfl

theorem host_print (w : World) (text : String) :
    (Host.print (m := StateM World) text).run w = pure ((), w.saying text "") := by
  simp only [saying, String.append_empty]
  rfl

theorem host_note (w : World) (text : String) :
    (Host.note (m := StateM World) text).run w = pure ((), w.saying "" text) := by
  simp only [saying, String.append_empty]
  rfl

theorem noteLine_run (w : World) (text : String) :
    (noteLine (m := StateM World) text).run w = pure ((), w.saying "" (text ++ "\n")) :=
  host_note w _

theorem logAll_run (w : World) (a : Arguments) (coloured : Bool) (entries : List LogEntry) :
    ∃ noted, (logAll (m := StateM World) a coloured entries).run w
      = pure ((), w.saying "" noted) := by
  unfold logAll
  split
  · exact ⟨_, host_note w _⟩
  · refine ⟨"", ?_⟩
    rw [saying_nothing]
    rfl

/-! ## One rule -/

/-- The diff that is shown of a plan, if one is asked for and something changes. -/
def diffShown (a : Arguments) (coloured : Bool) (planned : Plan) : String :=
  if a.diff && !planned.isUnchanged then
    diffText coloured planned.file planned.source planned.transform.content
  else ""

/-- What a dry run tells of a plan. -/
def promise (coloured : Bool) (d : RuleDefinition) (planned : Plan) : String :=
  Style.cyan.paint coloured "⊙" ++
    s!" {d.id}: would insert {planned.transform.inserted} into {planned.file}" ++ "\n"

theorem diffShown_of_diff_off (coloured : Bool) (planned : Plan) (h : a.diff = false) :
    diffShown a coloured planned = "" := by
  rw [diffShown, h, Bool.false_and, if_neg Bool.false_ne_true]

/-- A rule with a plan shows the diff of it. -/
theorem planRule_of_ok (a : Arguments) (coloured : Bool) (h : (w.plan p).1 = .ok planned) :
    ∃ noted, (planRule (m := StateM World) a coloured p).run w
      = pure (.ok planned, w.saying (diffShown a coloured planned) noted) := by
  obtain ⟨source, hsource, rfl, hcheck⟩ := plan_eq_ok_iff.1 h
  obtain ⟨logged, hlog⟩ := logAll_run w a coloured
    (LogEntry.ofPlan (.ofSource p.target p.rule p.options source))
  rw [planRule, StateT.run_bind, draft_of_source hsource, pure_bind]
  simp only [StateT.run_bind, hlog, pure_bind, hcheck]
  generalize Plan.ofSource p.target p.rule p.options source = planned
  -- a warning where nothing matched, before the diff
  let warned := if planned.transform.hits.isEmpty then Style.yellow.paint coloured
    s!"Warning: pattern matched no locations in {planned.file}" ++ "\n" else ""
  refine ⟨logged ++ warned, ?_⟩
  cases hnone : planned.transform.hits.isEmpty <;>
    cases hdiff : (a.diff && !planned.isUnchanged) <;>
    simp [hnone, hdiff, warned, diffShown, host_print, noteLine_run]

/-- A rule without a plan shows nothing. -/
theorem planRule_of_error (a : Arguments) (coloured : Bool) {e : PatchError}
    (h : (w.plan p).1 = .error e) :
    ∃ noted, (planRule (m := StateM World) a coloured p).run w
      = pure (.error e, w.saying "" noted) := by
  by_cases htext : ∃ source, w.read p.target = .ok (Utf8.octets source)
  · obtain ⟨source, hsource⟩ := htext
    obtain ⟨logged, hlog⟩ := logAll_run w a coloured
      (LogEntry.ofPlan (.ofSource p.target p.rule p.options source))
    rw [plan_of_source hsource] at h
    cases hcheck : Plan.check (.ofSource p.target p.rule p.options source) p.options with
    | ok u =>
      rw [hcheck] at h
      cases h
    | error e' =>
      rw [hcheck] at h
      obtain rfl := Except.error.inj h
      refine ⟨logged, ?_⟩
      rw [planRule, StateT.run_bind, draft_of_source hsource, pure_bind]
      simp only [StateT.run_bind, hlog, pure_bind, hcheck]
      rfl
  · obtain ⟨e', he⟩ := draft_of_not_text (w := w) (p := p) fun source hsource =>
      htext ⟨source, hsource⟩
    rw [plan_of_draft_error he] at h
    obtain rfl := Except.error.inj h
    refine ⟨"", ?_⟩
    rw [planRule, StateT.run_bind, he, saying_nothing]
    rfl

/-- A rule whose plan was committed tells its message. -/
theorem commitRule_of_ok {report : PatchReport} (a : Arguments) (coloured : Bool)
    (d : RuleDefinition) (h : w.commit p planned = (.ok report, w')) :
    ∃ noted, (commitRule (m := StateM World) a coloured d p planned).run w
      = pure (.ok (), w'.saying (d.message ++ "\n") noted) := by
  obtain ⟨logged, hlog⟩ := logAll_run w' a coloured (LogEntry.ofReport report)
  have hcommit : (p.commit (m := StateM World) planned).run w = pure (.ok report, w') := h
  refine ⟨logged ++ (Style.dimmed.paint coloured report.display ++ "\n"), ?_⟩
  rw [commitRule, StateT.run_bind, hcommit, pure_bind]
  simp [hlog, noteLine_run, printLine_run]

theorem commitRule_of_error {e : PatchError} (a : Arguments) (coloured : Bool)
    (d : RuleDefinition) (h : w.commit p planned = (.error e, w')) :
    (commitRule (m := StateM World) a coloured d p planned).run w = pure (.error e, w') := by
  have hcommit : (p.commit (m := StateM World) planned).run w = pure (.error e, w') := h
  rw [commitRule, StateT.run_bind, hcommit]
  rfl

theorem tellPlan_run (w : World) (coloured : Bool) (d : RuleDefinition) (planned : Plan) :
    (tellPlan (m := StateM World) coloured d planned).run w = pure ((), w.saying
      (promise coloured d planned) (Style.dimmed.paint coloured (forecast planned) ++ "\n")) := by
  rw [tellPlan, StateT.run_bind, noteLine_run, pure_bind, printLine_run, saying_saying,
    String.append_empty, String.empty_append]
  rfl

/-- All that is known of a rule that is about to be committed: its file may be patched, and it has
a plan for the text of the file. -/
structure Planned (w : World) (a : Arguments) (g : WorkspaceGuard) (c : PatchConfig)
    (d : RuleDefinition) (loc : Location) (rule : InsertionRule) (source : String) : Prop where
  resolve : w.tree.resolve w.cwd (Path.join g.root (targetOf a c g.root d)) = .ok loc
  patchable : w.Patchable g loc
  compiled : d.toRule = .ok rule
  read : w.read (Path.ofLocation loc) = .ok (Utf8.octets source)
  check : Plan.check (.ofSource (Path.ofLocation loc) rule (optionsFor a d) source)
    (optionsFor a d) = .ok ()

namespace Planned

variable {loc : Location} {rule : InsertionRule} {source : String}

/-- The text that was read is that of the file. -/
theorem content {old : FileData} (h : Planned w a g c d loc rule source)
    (hold : w.tree.entryAt? loc = some (.file old)) : old.content = Utf8.octets source := by
  have hread := h.read
  rw [World.read, Tree.read, h.patchable.file? hold] at hread
  exact Except.ok.inj hread

/-- The guard accepts the target of the rule. -/
theorem validate (h : Planned w a g c d loc rule source) :
    w.validate g (targetOf a c g.root d) = .ok (Path.ofLocation loc) :=
  h.patchable.validate h.resolve

theorem plan (h : Planned w a g c d loc rule source) :
    (w.plan ⟨Path.ofLocation loc, rule, optionsFor a d⟩).1
      = .ok (.ofSource (Path.ofLocation loc) rule (optionsFor a d) source) :=
  plan_eq_ok_iff.2 ⟨source, h.read, rfl, h.check⟩

/-- A rule has one plan at most. -/
theorem unique {loc' : Location} {rule' : InsertionRule} {source' : String}
    (h : Planned w a g c d loc rule source) (h' : Planned w a g c d loc' rule' source') :
    loc = loc' ∧ rule = rule' ∧ source = source' := by
  obtain rfl := Except.ok.inj (h.resolve.symm.trans h'.resolve)
  exact ⟨rfl, Except.ok.inj (h.compiled.symm.trans h'.compiled), eq_of_read h.read h'.read⟩

end Planned

/-- The guard refuses the target of the rule. -/
theorem applyRule_of_refused {e : SafetyError} (coloured : Bool)
    (h : w.validate g (targetOf a c g.root d) = .error e) :
    (applyRule (m := StateM World) a coloured g c d).run w = pure (.error (.ofSafety e), w) := by
  rw [applyRule, StateT.run_bind, validate_run, pure_bind, h]
  rfl

section Target

variable {target : String} (htarget : w.validate g (targetOf a c g.root d) = .ok target)
include htarget

/-- The pattern of the rule does not compile. -/
theorem applyRule_of_not_compiled {e : RuleError} (coloured : Bool) (h : d.toRule = .error e) :
    (applyRule (m := StateM World) a coloured g c d).run w = pure (.error (.ofRule e), w) := by
  rw [applyRule, StateT.run_bind, validate_run, pure_bind, htarget]
  simp only [h]
  rfl

variable {rule : InsertionRule} (hrule : d.toRule = .ok rule)
include hrule

/-- The rule has no plan for its target. -/
theorem applyRule_of_not_planned {e : PatchError} (coloured : Bool)
    (h : (w.plan ⟨target, rule, optionsFor a d⟩).1 = .error e) :
    ∃ noted, (applyRule (m := StateM World) a coloured g c d).run w
      = pure (.error (.ofPatch d.id e), w.saying "" noted) := by
  obtain ⟨noted, hrun⟩ := planRule_of_error a coloured h
  refine ⟨noted, ?_⟩
  rw [applyRule, StateT.run_bind, validate_run, pure_bind, htarget]
  simp only [hrule, StateT.run_bind]
  rw [hrun]
  rfl

end Target

namespace Planned

variable {loc : Location} {rule : InsertionRule} {source : String}

/-- A dry run tells of a rule that is planned. -/
theorem applyRule_of_dry (h : Planned w a g c d loc rule source) (coloured : Bool)
    (hdry : a.dryRun = true) :
    ∃ noted, (applyRule (m := StateM World) a coloured g c d).run w = pure (.ok (), w.saying
      (diffShown a coloured (.ofSource (Path.ofLocation loc) rule (optionsFor a d) source) ++
        promise coloured d (.ofSource (Path.ofLocation loc) rule (optionsFor a d) source))
      noted) := by
  obtain ⟨noted, hrun⟩ := planRule_of_ok a coloured h.plan
  refine ⟨noted ++ (Style.dimmed.paint coloured (forecast
    (.ofSource (Path.ofLocation loc) rule (optionsFor a d) source)) ++ "\n"), ?_⟩
  rw [applyRule, StateT.run_bind, validate_run, pure_bind, h.validate]
  simp only [h.compiled, StateT.run_bind]
  rw [hrun, pure_bind]
  simp only [hdry, if_true, StateT.run_bind, tellPlan_run, pure_bind, saying_saying]
  rfl

/-- In any other run what comes of a rule that is planned is what comes of the commit, after the
diff of the plan was shown. -/
theorem exists_applyRule_eq (h : Planned w a g c d loc rule source) (coloured : Bool)
    (hwet : a.dryRun = false) :
    ∃ noted, ∀ result w', (commitRule (m := StateM World) a coloured d
        ⟨Path.ofLocation loc, rule, optionsFor a d⟩
        (.ofSource (Path.ofLocation loc) rule (optionsFor a d) source)).run (w.saying
          (diffShown a coloured (.ofSource (Path.ofLocation loc) rule (optionsFor a d) source))
          noted) = pure (result, w') →
      (applyRule (m := StateM World) a coloured g c d).run w
        = pure (result.mapError (.ofPatch d.id), w') := by
  obtain ⟨noted, hrun⟩ := planRule_of_ok a coloured h.plan
  refine ⟨noted, fun result w' hcommit => ?_⟩
  rw [applyRule, StateT.run_bind, validate_run, pure_bind, h.validate]
  simp only [h.compiled, StateT.run_bind]
  rw [hrun, pure_bind]
  simp only [hwet, Bool.false_eq_true, if_false, StateT.run_bind]
  rw [hcommit]
  rfl

end Planned

/-! ## What comes of a rule -/

/-- How a rule fails for which a step of the write is refused. -/
def writeFailure (d : RuleDefinition) (loc : Location) (cause : OsError) : Failure :=
  .ofPatch d.id (.edit (Path.ofLocation loc) (.io cause))

/-- All that can come of a rule, with the world after it. The diff of a plan is shown only if one is
asked for. -/
inductive RuleOutcome (w : World) (a : Arguments) (g : WorkspaceGuard) (c : PatchConfig)
    (d : RuleDefinition) : Except Failure Unit → World → Prop where
  /-- Without a plan it fails, and leaves the files and the output alone. -/
  | unplanned (e : Failure) (noted : String)
      (hplanned : ∀ loc rule source, ¬ Planned w a g c d loc rule source) :
      RuleOutcome w a g c d (.error e) (w.saying "" noted)
  /-- In a dry run it tells of its plan. -/
  | told {loc : Location} {rule : InsertionRule} {source : String} (shown noted : String)
      (hplanned : Planned w a g c d loc rule source) (hdry : a.dryRun = true) :
      RuleOutcome w a g c d (.ok ()) (w.saying shown noted)
  /-- A step of the write is refused before the file is in its place. -/
  | refused {loc : Location} {rule : InsertionRule} {source shown : String} {cause : OsError}
      (noted : String) (hplanned : Planned w a g c d loc rule source) (hwet : a.dryRun = false)
      (hrefuses : w.Refuses (Path.ofLocation loc) cause) (hshown : a.diff = false → shown = "") :
      RuleOutcome w a g c d (.error (writeFailure d loc cause)) (w.saying shown noted)
  /-- The file is rewritten, and then its time cannot be set. -/
  | unstamped {w' : World} {loc : Location} {rule : InsertionRule} {source shown : String}
      {cause : OsError} (hplanned : Planned w a g c d loc rule source) (hwet : a.dryRun = false)
      (hrewritten : Rewritten w w' loc (Utf8.octets (rule.apply source a.skipExisting).content))
      (hstamp : w.policy w'.tree w.cwd (.stamp (Path.ofLocation loc)) = some cause)
      (houtput : w'.output = w.output ++ shown) (hshown : a.diff = false → shown = "") :
      RuleOutcome w a g c d (.error (writeFailure d loc cause)) w'
  /-- The file is rewritten, and the message of the rule told. -/
  | landed {w' : World} {loc : Location} {rule : InsertionRule} {source shown : String}
      (hplanned : Planned w a g c d loc rule source) (hwet : a.dryRun = false)
      (hrewritten : Rewritten w w' loc (Utf8.octets (rule.apply source a.skipExisting).content))
      (houtput : w'.output = w.output ++ shown ++ (d.message ++ "\n"))
      (hshown : a.diff = false → shown = "") : RuleOutcome w a g c d (.ok ()) w'

/-- In a dry run a rule fails or tells of its plan, and writes nothing. -/
theorem RuleOutcome.of_dryRun {result : Except Failure Unit}
    (h : RuleOutcome w a g c d result w') (hdry : a.dryRun = true) :
    ∃ shown noted, w' = w.saying shown noted ∧
      ((∃ e, result = .error e) ∨
        result = .ok () ∧ ∃ loc rule source, Planned w a g c d loc rule source) := by
  have hnot (hwet : a.dryRun = false) : False := by
    rw [hdry] at hwet
    cases hwet
  cases h with
  | unplanned e noted => exact ⟨"", noted, rfl, Or.inl ⟨e, rfl⟩⟩
  | told shown noted hplanned => exact ⟨shown, noted, rfl, Or.inr ⟨rfl, _, _, _, hplanned⟩⟩
  | refused _ _ hwet => exact (hnot hwet).elim
  | unstamped _ hwet => exact (hnot hwet).elim
  | landed _ hwet => exact (hnot hwet).elim

/-- A rule that fails has no plan, or the file system does not accept the write. It has rewritten
its file only if the time of the new one could not be set, and says nothing but the diff. -/
theorem RuleOutcome.of_error {e : Failure} (h : RuleOutcome w a g c d (.error e) w') :
    (∀ loc rule source, Planned w a g c d loc rule source →
      ¬ w.Accepts (Path.ofLocation loc)) ∧
    (w'.tree = w.tree ∨ ¬ w.policy.Stamps ∧ ∃ loc rule source,
      Planned w a g c d loc rule source ∧
      Rewritten w w' loc (Utf8.octets (rule.apply source a.skipExisting).content)) ∧
    (a.diff = false → w'.output = w.output) := by
  cases h with
  | unplanned e noted hplanned =>
    refine ⟨?_, Or.inl rfl, fun _ => String.append_empty⟩
    intro loc rule source hplanned'
    exact absurd hplanned' (hplanned loc rule source)
  | @refused loc rule source shown cause noted hplanned _ hrefuses hshown =>
    refine ⟨?_, Or.inl rfl, ?_⟩
    · intro loc' rule' source' hplanned' haccepts
      obtain ⟨rfl, -, -⟩ := hplanned.unique hplanned'
      exact haccepts.not_refuses cause hrefuses
    · intro hdiff
      rw [saying_output, hshown hdiff, String.append_empty]
  | @unstamped _ loc rule source shown cause hplanned _ hrewritten hstamp houtput hshown =>
    refine ⟨?_, Or.inr ⟨?_, loc, rule, source, hplanned, hrewritten⟩, ?_⟩
    · intro loc' rule' source' hplanned' haccepts
      obtain ⟨rfl, -, -⟩ := hplanned.unique hplanned'
      cases hstamp.symm.trans (haccepts.stamps w'.tree)
    · intro hstamps
      cases hstamp.symm.trans (hstamps w'.tree w.cwd (Path.ofLocation loc))
    · intro hdiff
      rw [houtput, hshown hdiff, String.append_empty]

/-- What comes of a rule that is planned, and not in a dry run. -/
theorem Planned.outcome {loc : Location} {rule : InsertionRule} {source : String}
    (h : Planned w a g c d loc rule source) (coloured : Bool) (hwet : a.dryRun = false) :
    ∃ result w', (applyRule (m := StateM World) a coloured g c d).run w = pure (result, w') ∧
      RuleOutcome w a g c d result w' := by
  have hshown := diffShown_of_diff_off (a := a) coloured
    (.ofSource (Path.ofLocation loc) rule (optionsFor a d) source)
  obtain ⟨noted, hrun⟩ := h.exists_applyRule_eq coloured hwet
  generalize diffShown a coloured (.ofSource (Path.ofLocation loc) rule (optionsFor a d) source)
    = shown at hshown hrun
  -- The file still holds what the plan was made for, so only a refusal can keep it from landing.
  obtain ⟨old, hold⟩ := h.patchable.file
  rcases rewritten_cases (w := w.saying shown noted)
      ⟨Path.ofLocation loc, rule, optionsFor a d⟩ h.plan h.read h.patchable.locate hold
      (h.content hold) with ⟨cause, hrefuses, hcommit⟩ |
    ⟨w', hrewritten, houtput, ⟨cause, hstamp, hcommit⟩ | ⟨report, hcommit⟩⟩
  · exact ⟨_, _, hrun _ _ (commitRule_of_error a coloured d hcommit),
      .refused noted h hwet hrefuses hshown⟩
  · exact ⟨_, _, hrun _ _ (commitRule_of_error a coloured d hcommit),
      .unstamped h hwet hrewritten.of_saying hstamp houtput hshown⟩
  · obtain ⟨noted', hrun'⟩ := commitRule_of_ok a coloured d hcommit
    refine ⟨_, _, hrun _ _ hrun', .landed h hwet (hrewritten.of_saying.saying _ noted') ?_ hshown⟩
    rw [saying_output, houtput, saying_output]

/-- A rule that is planned lands, not in a dry run, if the file system accepts the write. -/
theorem Planned.applyRule_of_accepts {loc : Location} {rule : InsertionRule} {source : String}
    (h : Planned w a g c d loc rule source) (coloured : Bool) (hwet : a.dryRun = false)
    (haccepts : w.Accepts (Path.ofLocation loc)) :
    ∃ w', (applyRule (m := StateM World) a coloured g c d).run w = pure (.ok (), w') ∧
      Rewritten w w' loc (Utf8.octets (rule.apply source a.skipExisting).content) := by
  obtain ⟨result, w', hrun, houtcome⟩ := h.outcome coloured hwet
  cases houtcome with
  | unplanned e noted hplanned => exact absurd h (hplanned loc rule source)
  | told shown noted hplanned hdry =>
    rw [hwet] at hdry
    cases hdry
  | @refused loc' rule' source' shown cause noted hplanned _ hrefuses _ =>
    obtain ⟨rfl, -, -⟩ := h.unique hplanned
    exact absurd hrefuses (haccepts.not_refuses cause)
  | @unstamped w' loc' rule' source' shown cause hplanned _ _ hstamp _ _ =>
    obtain ⟨rfl, -, -⟩ := h.unique hplanned
    cases hstamp.symm.trans (haccepts.stamps w'.tree)
  | @landed w' loc' rule' source' shown hplanned _ hrewritten _ _ =>
    obtain ⟨rfl, rfl, rfl⟩ := h.unique hplanned
    exact ⟨w', hrun, hrewritten⟩

/-- Whatever the rule, one of these comes of it. -/
theorem applyRule_outcome (hroot : Path.isAbsolute g.root = true) (w : World) (a : Arguments)
    (coloured : Bool) (c : PatchConfig) (d : RuleDefinition) :
    ∃ result w', (applyRule (m := StateM World) a coloured g c d).run w = pure (result, w') ∧
      RuleOutcome w a g c d result w' := by
  have hfails (e : Failure) (hplanned : ∀ loc rule source, ¬ Planned w a g c d loc rule source) :
      RuleOutcome w a g c d (.error e) w := by
    have houtcome := RuleOutcome.unplanned e "" hplanned
    rwa [saying_nothing] at houtcome
  cases htarget : w.validate g (targetOf a c g.root d) with
  | error e =>
    refine ⟨_, _, applyRule_of_refused coloured htarget, hfails _ ?_⟩
    intro loc rule source hplanned
    rw [hplanned.validate] at htarget
    cases htarget
  | ok target =>
    obtain ⟨loc, rfl, hresolve, hpatchable⟩ := exists_patchable hroot htarget
    cases hrule : d.toRule with
    | error e =>
      refine ⟨_, _, applyRule_of_not_compiled htarget coloured hrule, hfails _ ?_⟩
      intro loc rule source hplanned
      rw [hplanned.compiled] at hrule
      cases hrule
    | ok rule =>
      cases hplan : (w.plan ⟨Path.ofLocation loc, rule, optionsFor a d⟩).1 with
      | error e =>
        obtain ⟨noted, hrun⟩ := applyRule_of_not_planned htarget hrule coloured hplan
        refine ⟨_, _, hrun, .unplanned _ noted ?_⟩
        intro loc' rule' source hplanned
        have hsame := hplanned.validate
        rw [htarget] at hsame
        have hplan' := hplanned.plan
        obtain rfl := Except.ok.inj (hrule.symm.trans hplanned.compiled)
        rw [← Except.ok.inj hsame, hplan] at hplan'
        cases hplan'
      | ok planned =>
        obtain ⟨source, hread, rfl, hcheck⟩ := plan_eq_ok_iff.1 hplan
        have hplanned : Planned w a g c d loc rule source :=
          ⟨hresolve, hpatchable, hrule, hread, hcheck⟩
        cases hdry : a.dryRun with
        | true =>
          obtain ⟨noted, hrun⟩ := hplanned.applyRule_of_dry coloured hdry
          exact ⟨_, _, hrun, .told _ noted hplanned hdry⟩
        | false => exact hplanned.outcome coloured hdry

/-- What has come of a rule is one of these. -/
theorem outcome_of_applyRule (hroot : Path.isAbsolute g.root = true)
    {result : Except Failure Unit}
    (h : (applyRule (m := StateM World) a coloured g c d).run w = pure (result, w')) :
    RuleOutcome w a g c d result w' := by
  obtain ⟨result', w'', hrun, houtcome⟩ := applyRule_outcome hroot w a coloured c d
  obtain ⟨rfl, rfl⟩ := Prod.mk.inj (h.symm.trans hrun)
  exact houtcome

/-- A rule that succeeds, and not in a dry run, was planned and has rewritten its file. -/
theorem exists_planned_of_applyRule (hroot : Path.isAbsolute g.root = true)
    (hdry : a.dryRun = false)
    (h : (applyRule (m := StateM World) a coloured g c d).run w = pure (.ok (), w')) :
    ∃ loc rule source shown, Planned w a g c d loc rule source ∧
      Rewritten w w' loc (Utf8.octets (rule.apply source a.skipExisting).content) ∧
      w'.output = w.output ++ shown ++ (d.message ++ "\n") ∧ (a.diff = false → shown = "") := by
  cases outcome_of_applyRule hroot h with
  | told shown noted hplanned hdry' =>
    rw [hdry] at hdry'
    cases hdry'
  | landed hplanned hwet hrewritten houtput hshown =>
    exact ⟨_, _, _, _, hplanned, hrewritten, houtput, hshown⟩

end CommandLine

end SourcePatch
