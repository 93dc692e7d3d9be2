import Mathlib.Data.Set.Defs
import SourcePatch.Proofs.Patch.Landing
import SourcePatch.Proofs.QuantityStep.Settled

/-!
# Crews

A crew are patchers that work on one file with the built-in rule and the same options. Their plans
and commits come in any order. A plan may be committed by any of them, more than once, and long
after the file has changed.

* `Run` is what may happen, one step after another.
* `Inv` is what every step keeps: the file holds the old text as long as nothing was written, and
  the new text since one commit has put it there. That commit has reported so, or else an error of
  the file system (`PutOnce`).
* `crew_inserts_once`: in no run is there a second insertion.
-/

namespace SourcePatch.QuantityStep

variable {crew : Set Patcher} {options : PatchOptions} {loc : Location} {source : String}
  {p q : Patcher} {w₀ w w' : World} {planned : Plan}

/-! ## Runs -/

/-- What happened in a step, with what came of it. -/
inductive Event where
  | planned (p : Patcher) (result : Except PatchError Plan)
  | committed (q : Patcher) (planned : Plan) (result : Except PatchError PatchReport)

/-- Did a commit report that it has written? -/
def Event.isWrite : Event → Bool
  | .committed _ _ (.ok report) => report.written
  | _ => false

/-- Did a commit report an error of the file system? -/
def Event.isRefusal : Event → Bool
  | .committed _ _ (.error (.edit _ (.io _))) => true
  | _ => false

/-- One commit has put the new text in its place. Even if it could not set the time of the new file,
and has reported only this. -/
def PutOnce (events : List Event) : Prop :=
  events.countP Event.isWrite = 1 ∨
    events.countP Event.isWrite = 0 ∧ ∃ e ∈ events, e.isRefusal = true

/-- An event that is no write does not matter to it. -/
theorem PutOnce.cons {events : List Event} {e : Event} (h : PutOnce events)
    (hnot : e.isWrite = false) : PutOnce (e :: events) := by
  have hcount : (e :: events).countP Event.isWrite = events.countP Event.isWrite :=
    List.countP_cons_of_neg (by rw [hnot]; exact Bool.false_ne_true)
  unfold PutOnce
  rw [hcount]
  rcases h with hone | ⟨hnone, e', he', hrefusal⟩
  · exact Or.inl hone
  · exact Or.inr ⟨hnone, e', List.mem_cons_of_mem e he', hrefusal⟩

/-- A plan is one that was made. -/
def Made (events : List Event) (planned : Plan) : Prop :=
  ∃ p, Event.planned p (.ok planned) ∈ events

/-- What may happen to a world in which a crew works, with the last event first. Plans and commits
are steps of their own, with nothing between what a commit reads and what it writes. Anything may go
on elsewhere, as long as the targets of the crew name the same entry and lead to the same content. -/
inductive Run (crew : Set Patcher) (w₀ : World) : List Event → World → Prop where
  | start : Run crew w₀ [] w₀
  | plan {events : List Event} {w : World} {p : Patcher} (run : Run crew w₀ events w)
      (hp : p ∈ crew) : Run crew w₀ (.planned p (w.plan p).1 :: events) (w.plan p).2
  | commit {events : List Event} {w : World} {q : Patcher} {planned : Plan}
      (run : Run crew w₀ events w) (hq : q ∈ crew) (hmade : Made events planned) :
      Run crew w₀ (.committed q planned (w.commit q planned).1 :: events) (w.commit q planned).2
  | elsewhere {events : List Event} {w w' : World} (run : Run crew w₀ events w)
      (hlocate : ∀ p ∈ crew, w'.tree.locate w'.cwd p.target = w.tree.locate w.cwd p.target)
      (hread : ∀ p ∈ crew, w'.read p.target = w.read p.target) : Run crew w₀ events w'

/-- All targets of a crew name one entry, and a text is found there. -/
def Holds (crew : Set Patcher) (loc : Location) (w : World) (text : String) : Prop :=
  ∀ p ∈ crew, w.tree.locate w.cwd p.target = .ok loc ∧ w.read p.target = .ok (Utf8.octets text)

/-- The patchers of a crew have the built-in rule and the same options, and they begin with the same
text. -/
structure Crew (crew : Set Patcher) (options : PatchOptions) (loc : Location) (w₀ : World)
    (source : String) : Prop where
  rule : ∀ p ∈ crew, p.rule = QuantityStep.rule
  options : ∀ p ∈ crew, p.options = options
  holds : Holds crew loc w₀ source

/-- What the rule makes of the text that the crew begins with. -/
def patched (source : String) (options : PatchOptions) : String :=
  (rule.apply source options.skipExisting).content

/-- A plan of a patcher of the crew that was made on a text. -/
def MadeOn (crew : Set Patcher) (planned : Plan) (text : String) : Prop :=
  ∃ p ∈ crew, ∃ w : World, w.read p.target = .ok (Utf8.octets text) ∧
    (w.plan p).1 = .ok planned

/-! ## Commits of a crew -/

namespace Crew

variable (hcrew : Crew crew options loc w₀ source)
include hcrew

theorem eq_of_madeOn {text : String} (h : MadeOn crew planned text) :
    ∃ p ∈ crew, planned = .ofSource p.target QuantityStep.rule options text := by
  obtain ⟨p, hp, w, hread, hplan⟩ := h
  obtain ⟨text', hread', rfl, -⟩ := World.plan_eq_ok_iff.1 hplan
  obtain rfl := World.eq_of_read hread hread'
  exact ⟨p, hp, by rw [hcrew.rule p hp, hcrew.options p hp]⟩

/-- A plan made on the new text has nothing to insert. -/
theorem isUnchanged_of_madeOn_patched (h : MadeOn crew planned (patched source options)) :
    planned.isUnchanged = true := by
  obtain ⟨p, -, rfl⟩ := hcrew.eq_of_madeOn h
  rw [Plan.isUnchanged, Transform.isUnchanged, List.isEmpty_iff]
  exact replacements_settled source options.skipExisting

/-- On the old text a plan with insertions is refused at some step, and nothing changes; or the new
text is there. In the end it has landed, unless the time of the new file could not be set. -/
theorem commit_on_source (h : MadeOn crew planned source) (hinsert : planned.isUnchanged = false)
    (hholds : Holds crew loc w source) (q : Patcher) :
    (∃ cause, w.Refuses planned.file cause ∧
      w.commit q planned = (.error (.edit planned.file (.io cause)), w)) ∨
    ∃ w', Holds crew loc w' (patched source options) ∧
      ((∃ cause, w.policy w'.tree w.cwd (.stamp planned.file) = some cause ∧
          w.commit q planned = (.error (.edit planned.file (.io cause)), w')) ∨
        ∃ bytes, w.commit q planned = (.ok (planned.report (some bytes)), w')) := by
  obtain ⟨p, hp, rfl⟩ := hcrew.eq_of_madeOn h
  obtain ⟨p₁, -, w₁, -, hplan⟩ := h
  obtain ⟨hlocate, hread⟩ := hholds p hp
  rcases World.commit_of_ok_cases hinsert hread (World.resultOn_source q.options hplan) with
    hrefused | ⟨w', loc', new, hloc', hreplaced, hnew, hend⟩
  · exact Or.inl hrefused
  · -- The plan names the entry that all targets name, so all of them lead to the new file.
    have hsame := hlocate.symm.trans hloc'
    obtain rfl := Except.ok.inj hsame
    refine Or.inr ⟨w', ?_, ?_⟩
    · intro r hr
      obtain ⟨hlocate, hread⟩ := hholds r hr
      obtain ⟨hread', hlocate'⟩ := hreplaced.read hlocate hread
      refine ⟨hlocate', ?_⟩
      rw [hread', hnew]
      rfl
    · rcases hend with hunstamped | hcommit
      · exact Or.inl hunstamped
      · exact Or.inr ⟨_, hcommit⟩

/-- On the new text such a plan does not land, and nothing changes. -/
theorem commit_on_patched (hhash : HashesDiffer source options.skipExisting)
    (h : MadeOn crew planned source) (hinsert : planned.isUnchanged = false)
    (hholds : Holds crew loc w (patched source options)) (q : Patcher) :
    ∃ cause, w.commit q planned = (.error (.edit planned.file cause), w) := by
  obtain ⟨p, hp, rfl⟩ := hcrew.eq_of_madeOn h
  obtain ⟨p₁, -, w₁, -, hplan⟩ := h
  have hread := (hholds p hp).2
  have hsome : (QuantityStep.rule.apply source options.skipExisting).replacements ≠ [] :=
    List.length_pos_iff.1 (World.isUnchanged_eq_false_iff.1 hinsert)
  obtain ⟨r, hr, hnot⟩ := exists_not_fits source hsome hhash
  -- Edits that land would all fit.
  cases hresult : (Plan.edits (.ofSource p.target QuantityStep.rule options source)
      q.options).resultOn (Utf8.octets (patched source options)) with
  | error cause => exact ⟨cause, World.commit_of_error hinsert hread hresult⟩
  | ok out =>
    obtain ⟨-, hfits, -⟩ := (World.resultOn_edits_eq_ok_iff q.options _ _ hplan).1 hresult
    exact absurd (hfits r hr) hnot

end Crew

/-! ## The invariant -/

/-- What every step of a run keeps. -/
structure Inv (crew : Set Patcher) (options : PatchOptions) (loc : Location) (source : String)
    (events : List Event) (w : World) : Prop where
  plans : ∀ planned, Made events planned →
    MadeOn crew planned source ∨ MadeOn crew planned (patched source options)
  phase : (Holds crew loc w source ∧ events.countP Event.isWrite = 0) ∨
    (Holds crew loc w (patched source options) ∧ PutOnce events)

section Steps

variable {events : List Event} (hcrew : Crew crew options loc w₀ source)
  (hinv : Inv crew options loc source events w)

include hcrew in
theorem inv_start : Inv crew options loc source [] w₀ := by
  refine ⟨?_, Or.inl ⟨hcrew.holds, rfl⟩⟩
  rintro planned ⟨p, hmem⟩
  cases hmem

include hinv in
/-- A new plan is made on the text that is there. -/
theorem inv_plan (hp : p ∈ crew) :
    Inv crew options loc source (.planned p (w.plan p).1 :: events) (w.plan p).2 := by
  rw [World.plan_snd]
  constructor
  · rintro planned ⟨p', hmem⟩
    rcases List.mem_cons.1 hmem with heq | hmem
    · obtain ⟨rfl, hplan⟩ := Event.planned.inj heq
      rcases hinv.phase with ⟨hholds, -⟩ | ⟨hholds, -⟩
      · exact Or.inl ⟨p', hp, w, (hholds p' hp).2, hplan.symm⟩
      · exact Or.inr ⟨p', hp, w, (hholds p' hp).2, hplan.symm⟩
    · exact hinv.plans planned ⟨p', hmem⟩
  · rcases hinv.phase with hold | ⟨hholds, hput⟩
    · exact Or.inl hold
    · exact Or.inr ⟨hholds, hput.cons rfl⟩

include hinv in
theorem Inv.holds_source (hnone : ∀ e ∈ events, e.isWrite = false ∧ e.isRefusal = false) :
    Holds crew loc w source := by
  rcases hinv.phase with ⟨hholds, -⟩ | ⟨-, hcount | ⟨-, e, he, hrefusal⟩⟩
  · exact hholds
  · have hpos : 0 < events.countP Event.isWrite := by omega
    obtain ⟨e, he, hwrite⟩ := List.countP_pos_iff.1 hpos
    rw [(hnone e he).1] at hwrite
    cases hwrite
  · rw [(hnone e he).2] at hrefusal
    cases hrefusal

include hinv in
theorem Inv.holds_patched (hwritten : ∃ e ∈ events, e.isWrite = true) :
    Holds crew loc w (patched source options) := by
  rcases hinv.phase with ⟨-, hcount⟩ | ⟨hholds, -⟩
  · have hpos := List.countP_pos_iff.2 hwritten
    omega
  · exact hholds

include hcrew hinv in
/-- A plan with insertions was made on the old text. -/
theorem Crew.madeOn_source (hmade : Made events planned) (hinsert : planned.isUnchanged = false) :
    MadeOn crew planned source := by
  rcases hinv.plans planned hmade with h | h
  · exact h
  · rw [hcrew.isUnchanged_of_madeOn_patched h] at hinsert
    cases hinsert

theorem made_of_commit {result : Except PatchError PatchReport} {other : Plan}
    (h : Made (.committed q other result :: events) planned) : Made events planned := by
  obtain ⟨p, hmem⟩ := h
  rcases List.mem_cons.1 hmem with heq | hmem
  · cases heq
  · exact ⟨p, hmem⟩

include hcrew hinv in
/-- A commit writes only as long as the old text is there, and what it writes is the new one. -/
theorem inv_commit (hhash : HashesDiffer source options.skipExisting) (hmade : Made events planned)
    (q : Patcher) :
    Inv crew options loc source (.committed q planned (w.commit q planned).1 :: events)
      (w.commit q planned).2 := by
  refine ⟨fun other hother => hinv.plans other (made_of_commit hother), ?_⟩
  cases hinsert : planned.isUnchanged with
  | true =>
    -- nothing to insert, nothing written
    rw [World.commit_of_isUnchanged hinsert]
    rcases hinv.phase with hold | ⟨hholds, hput⟩
    · exact Or.inl hold
    · exact Or.inr ⟨hholds, hput.cons rfl⟩
  | false =>
    have hsource := hcrew.madeOn_source hinv hmade hinsert
    rcases hinv.phase with ⟨hholds, hcount⟩ | ⟨hholds, hput⟩
    · rcases hcrew.commit_on_source hsource hinsert hholds q with ⟨cause, -, hcommit⟩ |
        ⟨w', hholds', ⟨cause, -, hcommit⟩ | ⟨bytes, hcommit⟩⟩
      · -- a commit that is refused
        rw [hcommit]
        exact Or.inl ⟨hholds, hcount⟩
      · -- the one commit that puts the new text there, but reports an error
        rw [hcommit]
        exact Or.inr ⟨hholds', Or.inr ⟨hcount, _, List.mem_cons_self, rfl⟩⟩
      · -- the one commit that writes
        rw [hcommit]
        refine Or.inr ⟨hholds', Or.inl ?_⟩
        rw [List.countP_cons_of_pos (by rfl), hcount]
    · -- a commit that comes too late
      obtain ⟨cause, hcommit⟩ := hcrew.commit_on_patched hhash hsource hinsert hholds q
      rw [hcommit]
      exact Or.inr ⟨hholds, hput.cons rfl⟩

include hinv in
/-- What goes on elsewhere does not matter. -/
theorem inv_elsewhere
    (hlocate : ∀ p ∈ crew, w'.tree.locate w'.cwd p.target = w.tree.locate w.cwd p.target)
    (hread : ∀ p ∈ crew, w'.read p.target = w.read p.target) :
    Inv crew options loc source events w' := by
  have hsame {text : String} (hholds : Holds crew loc w text) : Holds crew loc w' text := by
    intro p hp
    rw [hlocate p hp, hread p hp]
    exact hholds p hp
  refine ⟨hinv.plans, ?_⟩
  rcases hinv.phase with ⟨hholds, hcount⟩ | ⟨hholds, hput⟩
  · exact Or.inl ⟨hsame hholds, hcount⟩
  · exact Or.inr ⟨hsame hholds, hput⟩

end Steps

theorem inv_of_run {events : List Event} (hcrew : Crew crew options loc w₀ source)
    (hhash : HashesDiffer source options.skipExisting) (hrun : Run crew w₀ events w) :
    Inv crew options loc source events w := by
  induction hrun with
  | start => exact inv_start hcrew
  | plan run hp ih => exact inv_plan ih hp
  | commit run hq hmade ih => exact inv_commit hcrew ih hhash hmade _
  | elsewhere run hlocate hread ih => exact inv_elsewhere ih hlocate hread

/-! ## A sample -/

/-- A source with one method that names the backend. -/
def sampleSource : String :=
  "impl B for M \x7b\n    fn backend_name(&self) -> &str \x7b\n        \"mock\"\n    \x7d\n\x7d\n"

def samplePatcher : Patcher where
  target := "mock.rs"
  rule := rule

def samplePlan : Plan := .ofSource "mock.rs" rule {} sampleSource

theorem sample_inserted : 0 < samplePlan.transform.inserted := by
  rw [samplePlan, Plan.ofSource, rule_eq]
  decide +kernel

theorem sample_crew :
    Crew {samplePatcher} {} ["mock.rs"] (World.ofFile "mock.rs" sampleSource) sampleSource := by
  refine ⟨?_, ?_, ?_⟩
  · rintro p rfl
    rfl
  · rintro p rfl
    rfl
  · rintro p rfl
    constructor
    · change (World.ofFile "mock.rs" sampleSource).tree.locate [] "mock.rs" = _
      decide +kernel
    · change (World.ofFile "mock.rs" sampleSource).read "mock.rs" = _
      decide +kernel

theorem sample_hashesDiffer : HashesDiffer sampleSource false := by
  have hshort : ∀ r ∈ (rule.apply sampleSource false).replacements,
      ¬ Verification.exactLimit < (Utf8.octets r.replaced).length := by
    rw [rule_eq]
    decide +kernel
  intro r hr hlong
  exact absurd hlong (hshort r hr)

/-! ## At most one insertion -/

/-- However the plans and commits of a crew come, and whatever the file system refuses: at every
moment the file holds the old text or what the rule makes of it, and at most one commit has reported
that it has written. A plan with insertions was made on the old text. Until a commit has written or
met an error of the file system, such a plan writes the new text if the file system accepts that;
after a commit that has written, it is an edit error and leaves the new text in place. -/
theorem crew_inserts_once {events : List Event} (hcrew : Crew crew options loc w₀ source)
    (hhash : HashesDiffer source options.skipExisting) (hrun : Run crew w₀ events w) :
    (Holds crew loc w source ∨ Holds crew loc w (patched source options)) ∧
    events.countP Event.isWrite ≤ 1 ∧
    (∀ planned, Made events planned → 0 < planned.transform.inserted →
      planned.source = source ∧
      ((∀ e ∈ events, e.isWrite = false ∧ e.isRefusal = false) → w.Accepts planned.file →
        ∀ q ∈ crew, ∃ report w', w.commit q planned = (.ok report, w') ∧ report.written = true ∧
          Holds crew loc w' (patched source options)) ∧
      ((∃ e ∈ events, e.isWrite = true) → ∀ q ∈ crew,
        (∃ cause, w.commit q planned = (.error (.edit planned.file cause), w)) ∧
          Holds crew loc w (patched source options))) := by
  have hinv := inv_of_run hcrew hhash hrun
  refine ⟨?_, ?_, ?_⟩
  · rcases hinv.phase with ⟨hholds, -⟩ | ⟨hholds, -⟩
    · exact Or.inl hholds
    · exact Or.inr hholds
  · rcases hinv.phase with ⟨-, hcount⟩ | ⟨-, hcount | ⟨hcount, -⟩⟩
    · omega
    · omega
    · omega
  · intro planned hmade hinserted
    have hinsert := World.isUnchanged_eq_false_iff.2 hinserted
    have hsource := hcrew.madeOn_source hinv hmade hinsert
    refine ⟨?_, ?_, ?_⟩
    · obtain ⟨p, -, rfl⟩ := hcrew.eq_of_madeOn hsource
      rfl
    · intro hnone haccepts q _
      rcases hcrew.commit_on_source hsource hinsert (hinv.holds_source hnone) q with
        ⟨cause, hrefuses, -⟩ | ⟨w', hholds, ⟨cause, hstamp, -⟩ | ⟨bytes, hcommit⟩⟩
      · exact absurd hrefuses (haccepts.not_refuses cause)
      · cases hstamp.symm.trans (haccepts.stamps w'.tree)
      · exact ⟨_, w', hcommit, rfl, hholds⟩
    · intro hwritten q _
      have hholds := hinv.holds_patched hwritten
      exact ⟨hcrew.commit_on_patched hhash hsource hinsert hholds q, hholds⟩

/-- A plan that is committed twice is written once. -/
theorem crew_inserts_once_for_sample :
    ∃ report w cause,
      (World.ofFile "mock.rs" sampleSource).commit samplePatcher samplePlan = (.ok report, w) ∧
      report.written = true ∧
      w.commit samplePatcher samplePlan = (.error (.edit "mock.rs" cause), w) ∧
      w.read "mock.rs" = .ok (Utf8.octets (patched sampleSource {})) := by
  have hread := (sample_crew.holds samplePatcher rfl).2
  have hplan : ((World.ofFile "mock.rs" sampleSource).plan samplePatcher).1 = .ok samplePlan :=
    World.plan_eq_ok_iff.2 ⟨sampleSource, hread, rfl, rfl⟩
  have hmade : Made [.planned samplePatcher
      ((World.ofFile "mock.rs" sampleSource).plan samplePatcher).1] samplePlan := by
    rw [hplan]
    exact ⟨samplePatcher, List.mem_singleton.2 rfl⟩
  have hstart : Run {samplePatcher} (World.ofFile "mock.rs" sampleSource) []
      (World.ofFile "mock.rs" sampleSource) := .start
  have hplanned := hstart.plan rfl
  rw [World.plan_snd] at hplanned
  obtain ⟨-, -, hfirst⟩ := crew_inserts_once sample_crew sample_hashesDiffer hplanned
  obtain ⟨-, hwrites, -⟩ := hfirst samplePlan hmade sample_inserted
  obtain ⟨report, w, hcommit, hwritten, -⟩ := hwrites (by simp [Event.isWrite, Event.isRefusal])
    (World.accepts_of_permissive rfl _) samplePatcher rfl
  have hrun := hplanned.commit rfl hmade
  rw [hcommit] at hrun
  obtain ⟨-, -, hlater⟩ := crew_inserts_once sample_crew sample_hashesDiffer hrun
  obtain ⟨p, hmem⟩ := hmade
  obtain ⟨-, -, hfails⟩ := hlater samplePlan ⟨p, List.mem_cons_of_mem _ hmem⟩ sample_inserted
  obtain ⟨⟨cause, hcause⟩, hholds⟩ := hfails ⟨_, List.mem_cons_self, hwritten⟩ samplePatcher rfl
  exact ⟨report, w, cause, hcommit, hwritten, hcause, (hholds samplePatcher rfl).2⟩

end SourcePatch.QuantityStep
