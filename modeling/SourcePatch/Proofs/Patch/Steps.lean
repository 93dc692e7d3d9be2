import SourcePatch.Patch.Patcher
import SourcePatch.Proofs.Edit.Writing
import SourcePatch.Proofs.Text.Octets

/-!
# Planning and committing in a world

What the two steps of a patcher do when the host is a `World`.

* `World.plan_snd` and `World.plan_eq_ok_iff`: planning changes nothing, and which plan it gives.
* `World.commit_cases`: a commit leaves the world alone, or it replaces the file of the plan by
  what its edits make of the content that is there.
* `World.commit_of_accepts`: edits that fit land if the file system accepts the write.
-/

namespace SourcePatch

namespace Plan

/-- The edits of a plan in one piece. -/
theorem edits_eq (planned : Plan) (options : PatchOptions) :
    planned.edits options = ⟨planned.file, planned.transform.edits,
      if options.checkSyntax then some (.ofText planned.source) else none⟩ := by
  rw [edits, FileEdits.foldl_push]
  cases options.checkSyntax <;> rfl

@[simp] theorem edits_file (planned : Plan) (options : PatchOptions) :
    (planned.edits options).file = planned.file := by
  rw [edits_eq]

/-- A plan passes the check if it has the expected number of insertions and, where the syntax is
checked, a changed text is a source file. -/
theorem check_eq_ok_iff {planned : Plan} {options : PatchOptions} :
    planned.check options = .ok () ↔
      (∀ n, options.expect = some n → planned.transform.inserted = n) ∧
        (options.checkSyntax = true → planned.isUnchanged = false →
          RustSyntax.isFile planned.transform.content = true) := by
  have hsyntax : (if (options.checkSyntax && !planned.isUnchanged
        && !RustSyntax.isFile planned.transform.content) = true
      then Except.error (PatchError.malformed planned.file) else .ok ()) = .ok () ↔
      (options.checkSyntax = true → planned.isUnchanged = false →
        RustSyntax.isFile planned.transform.content = true) := by
    cases options.checkSyntax <;> cases planned.isUnchanged <;>
      cases RustSyntax.isFile planned.transform.content <;> simp
  rw [← hsyntax]
  unfold check
  cases hexpect : options.expect with
  | none => simp [pure, Except.pure, throw, throwThe, MonadExceptOf.throw]
  | some n =>
    by_cases hn : planned.transform.inserted = n
    · simp [hn, pure, Except.pure, throw, throwThe, MonadExceptOf.throw]
    · simp [hn, bind, Except.bind, throw, throwThe, MonadExceptOf.throw]

/-- A count is checked before anything else of a plan. -/
theorem check_of_inserted_ne {file source : String} {rule : InsertionRule}
    {options : PatchOptions} {n : Nat} (hexpect : options.expect = some n)
    (hcount : (rule.apply source options.skipExisting).inserted ≠ n) :
    (ofSource file rule options source).check options
      = .error (.countMismatch file n (rule.apply source options.skipExisting).inserted) := by
  rw [check, hexpect]
  exact if_pos hcount

end Plan

namespace World

variable {w w' : World} {p : Patcher} {planned : Plan} {path source : String} {d : Bytes}

/-- What planning gives, and the world after it. -/
def plan (w : World) (p : Patcher) : Except PatchError Plan × World :=
  (p.plan (m := StateM World)).run w

/-- What committing a plan gives, and the world after it. -/
def commit (w : World) (p : Patcher) (planned : Plan) : Except PatchError PatchReport × World :=
  (p.commit (m := StateM World) planned).run w

/-- A file holds one text. -/
theorem eq_of_read {s t : String} (hs : w.read path = .ok (Utf8.octets s))
    (ht : w.read path = .ok (Utf8.octets t)) : s = t := by
  rw [hs] at ht
  exact Utf8.octets_inj (Except.ok.inj ht)

theorem draft_of_unreadable {cause : OsError} (h : w.read p.target = .error cause) :
    (p.draft (m := StateM World)).run w = pure (.error (.io p.target cause), w) := by
  rw [Patcher.draft, StateT.run_bind, host_read, h]
  rfl

theorem draft_of_undecodable {cause : Utf8.DecodeError} (h : w.read p.target = .ok d)
    (hdecode : Utf8.decodeString d = .error cause) :
    (p.draft (m := StateM World)).run w = pure (.error (.decode p.target cause), w) := by
  rw [Patcher.draft, StateT.run_bind, host_read, h]
  simp only [pure_bind, hdecode]
  rfl

theorem draft_of_source (h : w.read p.target = .ok (Utf8.octets source)) :
    (p.draft (m := StateM World)).run w
      = pure (.ok (.ofSource p.target p.rule p.options source), w) := by
  rw [Patcher.draft, StateT.run_bind, host_read, h]
  simp only [pure_bind, Utf8.decodeString_eq_ok_iff.2 rfl]
  rfl

/-- What is no readable text cannot be drafted. -/
theorem draft_of_not_text (h : ∀ source, w.read p.target ≠ .ok (Utf8.octets source)) :
    ∃ e, (p.draft (m := StateM World)).run w = pure (.error e, w) := by
  cases hread : w.read p.target with
  | error cause => exact ⟨_, draft_of_unreadable hread⟩
  | ok d =>
    cases hdecode : Utf8.decodeString d with
    | error cause => exact ⟨_, draft_of_undecodable hread hdecode⟩
    | ok source =>
      rw [Utf8.decodeString_eq_ok_iff.1 hdecode] at hread
      exact absurd hread (h source)

/-- What cannot be drafted has no plan. -/
theorem plan_of_draft_error {e : PatchError}
    (h : (p.draft (m := StateM World)).run w = pure (.error e, w)) : w.plan p = (.error e, w) := by
  rw [plan, Patcher.plan, StateT.run_bind, h]
  rfl

/-- The plan for a target that is a text. -/
theorem plan_of_source (h : w.read p.target = .ok (Utf8.octets source)) :
    w.plan p = ((Plan.check (.ofSource p.target p.rule p.options source) p.options).map
      fun _ => .ofSource p.target p.rule p.options source, w) := by
  rw [plan, Patcher.plan, StateT.run_bind, draft_of_source h]
  simp only [pure_bind]
  cases Plan.check (.ofSource p.target p.rule p.options source) p.options <;> rfl

/-- Planning changes nothing. -/
theorem plan_snd (w : World) (p : Patcher) : (w.plan p).2 = w := by
  by_cases h : ∃ source, w.read p.target = .ok (Utf8.octets source)
  · obtain ⟨source, hsource⟩ := h
    rw [plan_of_source hsource]
  · obtain ⟨e, he⟩ := draft_of_not_text (w := w) (p := p) fun source hsource => h ⟨source, hsource⟩
    rw [plan_of_draft_error he]

/-- A plan is what the rule makes of the text of the target, if it passes the check. -/
theorem plan_eq_ok_iff :
    (w.plan p).1 = .ok planned ↔
      ∃ source, w.read p.target = .ok (Utf8.octets source) ∧
        planned = .ofSource p.target p.rule p.options source ∧
        planned.check p.options = .ok () := by
  by_cases h : ∃ source, w.read p.target = .ok (Utf8.octets source)
  · obtain ⟨source, hsource⟩ := h
    rw [plan_of_source hsource]
    cases hcheck : Plan.check (.ofSource p.target p.rule p.options source) p.options with
    | error e =>
      constructor
      · intro hplan
        cases hplan
      · rintro ⟨source', hsource', rfl, hcheck'⟩
        rw [eq_of_read hsource' hsource, hcheck] at hcheck'
        cases hcheck'
    | ok u =>
      constructor
      · intro hplan
        obtain rfl := Except.ok.inj hplan
        exact ⟨source, hsource, rfl, hcheck⟩
      · rintro ⟨source', hsource', rfl, -⟩
        rw [eq_of_read hsource hsource']
        rfl
  · obtain ⟨e, he⟩ := draft_of_not_text (w := w) (p := p) fun source hsource => h ⟨source, hsource⟩
    rw [plan_of_draft_error he]
    constructor
    · intro hplan
      cases hplan
    · rintro ⟨source, hsource, -⟩
      exact absurd ⟨source, hsource⟩ h

/-! ## Committing -/

/-- A plan without insertions leaves the world alone. -/
theorem commit_of_isUnchanged (h : planned.isUnchanged = true) :
    w.commit p planned = (.ok (planned.report none), w) := by
  rw [commit, Patcher.commit, if_pos h]
  rfl

theorem edits_isEmpty (h : planned.isUnchanged = false) (options : PatchOptions) :
    (planned.edits options).edits.isEmpty = false := by
  unfold Plan.isUnchanged Transform.isUnchanged at h
  rw [Plan.edits_eq, Transform.edits, List.isEmpty_map]
  exact h

section Insertions

variable (h : planned.isUnchanged = false)
include h

/-- A plan with insertions fails if its edits do. -/
theorem commit_of_apply_error {cause : EditError}
    (happly : ((planned.edits p.options).apply (m := StateM World)).run w
      = pure (.error cause, w')) :
    w.commit p planned = (.error (.edit planned.file cause), w') := by
  rw [commit, Patcher.commit, if_neg (by simp [h]), StateT.run_bind, happly]
  rfl

/-- A plan with insertions is reported if its edits are applied. -/
theorem commit_of_applied {file : String} {edits bytes : Nat}
    (happly : ((planned.edits p.options).apply (m := StateM World)).run w
      = pure (.ok (.applied file edits bytes), w')) :
    w.commit p planned = (.ok (planned.report (some bytes)), w') := by
  rw [commit, Patcher.commit, if_neg (by simp [h]), StateT.run_bind, happly]
  rfl

/-- Edits that do not fit the file are an edit error. -/
theorem commit_of_error {cause : EditError} (hread : w.read planned.file = .ok d)
    (hresult : (planned.edits p.options).resultOn d = .error cause) :
    w.commit p planned = (.error (.edit planned.file cause), w) :=
  commit_of_apply_error h
    (apply_of_error (edits_isEmpty h p.options) (by rwa [Plan.edits_file]) hresult)

/-- A file that cannot be read is an edit error. -/
theorem commit_of_unreadable {cause : OsError} (hread : w.read planned.file = .error cause) :
    w.commit p planned = (.error (.edit planned.file (.io cause)), w) :=
  commit_of_apply_error h
    (apply_of_unreadable (edits_isEmpty h p.options) (by rwa [Plan.edits_file]))

/-- Edits that fit the file are refused at some step, and the world is as it was; or they replace
the file, and nothing else changes. In the end they have landed, unless the policy refuses to set
the time of the new file. -/
theorem commit_of_ok_cases {out : Bytes} (hread : w.read planned.file = .ok d)
    (hresult : (planned.edits p.options).resultOn d = .ok out) :
    (∃ cause, w.Refuses planned.file cause ∧
      w.commit p planned = (.error (.edit planned.file (.io cause)), w)) ∨
    ∃ w' loc new, w.tree.locate w.cwd planned.file = .ok loc ∧ Replaced w w' loc new ∧
      new.content = out ∧
      ((∃ cause, w.policy w'.tree w.cwd (.stamp planned.file) = some cause ∧
          w.commit p planned = (.error (.edit planned.file (.io cause)), w')) ∨
        w.commit p planned = (.ok (planned.report (some out.length)), w')) := by
  obtain ⟨old, hfile, rfl⟩ := exists_file?_of_read hread
  rw [← planned.edits_file p.options] at hfile
  rcases apply_cases (edits_isEmpty h p.options) hfile hresult with ⟨cause, hrefuses, happly⟩ |
    ⟨w', loc, hloc, hreplaced, ⟨cause, hstamp, happly⟩ | happly⟩
  · rw [Plan.edits_file] at hrefuses
    exact Or.inl ⟨cause, hrefuses, commit_of_apply_error h happly⟩
  · rw [Plan.edits_file] at hloc hstamp
    exact Or.inr ⟨w', loc, _, hloc, hreplaced, rfl,
      Or.inl ⟨cause, hstamp, commit_of_apply_error h happly⟩⟩
  · rw [Plan.edits_file] at hloc
    exact Or.inr ⟨w', loc, _, hloc, hreplaced, rfl, Or.inr (commit_of_applied h happly)⟩

/-- Edits that fit the file replace it if the file system accepts that, and nothing else changes. -/
theorem commit_of_accepts {out : Bytes} (haccepts : w.Accepts planned.file)
    (hread : w.read planned.file = .ok d)
    (hresult : (planned.edits p.options).resultOn d = .ok out) :
    ∃ w' loc new, w.commit p planned = (.ok (planned.report (some out.length)), w') ∧
      w.tree.locate w.cwd planned.file = .ok loc ∧ Replaced w w' loc new ∧ new.content = out := by
  rcases commit_of_ok_cases (p := p) h hread hresult with ⟨cause, hrefuses, -⟩ |
    ⟨w', loc, new, hloc, hreplaced, hnew, ⟨cause, hstamp, -⟩ | hcommit⟩
  · exact absurd hrefuses (haccepts.not_refuses cause)
  · rw [haccepts.stamps] at hstamp
    cases hstamp
  · exact ⟨w', loc, new, hcommit, hloc, hreplaced, hnew⟩

end Insertions

/-- All that a commit can do: nothing, for want of insertions; fail, because the edits do not fit
the file or a step is refused, and leave the world alone; or replace the file by what the edits make
of it. Then it has landed, unless the policy refuses to set the time of the new file. -/
theorem commit_cases (w : World) (p : Patcher) (planned : Plan) :
    (planned.isUnchanged = true ∧ w.commit p planned = (.ok (planned.report none), w)) ∨
    (planned.isUnchanged = false ∧ ∃ cause,
      w.commit p planned = (.error (.edit planned.file cause), w) ∧
        ∀ d, w.read planned.file = .ok d →
          (planned.edits p.options).resultOn d = .error cause ∨
            ∃ refusal, cause = .io refusal ∧ w.Refuses planned.file refusal) ∨
    (planned.isUnchanged = false ∧ ∃ d out w' loc new,
      w.read planned.file = .ok d ∧ (planned.edits p.options).resultOn d = .ok out ∧
        w.tree.locate w.cwd planned.file = .ok loc ∧ Replaced w w' loc new ∧ new.content = out ∧
        ((∃ cause, w.policy w'.tree w.cwd (.stamp planned.file) = some cause ∧
            w.commit p planned = (.error (.edit planned.file (.io cause)), w')) ∨
          w.commit p planned = (.ok (planned.report (some out.length)), w'))) := by
  cases h : planned.isUnchanged with
  | true => exact Or.inl ⟨rfl, commit_of_isUnchanged h⟩
  | false =>
    refine Or.inr ?_
    cases hread : w.read planned.file with
    | error cause =>
      refine Or.inl ⟨rfl, _, commit_of_unreadable h hread, ?_⟩
      intro d hd
      cases hd
    | ok d =>
      cases hresult : (planned.edits p.options).resultOn d with
      | error cause =>
        refine Or.inl ⟨rfl, cause, commit_of_error h hread hresult, ?_⟩
        intro d' hd'
        rw [← Except.ok.inj hd']
        exact Or.inl hresult
      | ok out =>
        rcases commit_of_ok_cases (p := p) h hread hresult with ⟨cause, hrefuses, hcommit⟩ |
          ⟨w', loc, new, hreplaced⟩
        · exact Or.inl ⟨rfl, _, hcommit, fun _ _ => Or.inr ⟨cause, rfl, hrefuses⟩⟩
        · exact Or.inr ⟨rfl, d, out, w', loc, new, rfl, hresult, hreplaced⟩

end World

end SourcePatch
