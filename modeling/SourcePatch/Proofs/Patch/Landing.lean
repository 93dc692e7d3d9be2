import SourcePatch.Proofs.Edit.Permissions
import SourcePatch.Proofs.Edit.Verification
import SourcePatch.Proofs.Patch.Steps
import SourcePatch.Proofs.Rule.Edits

/-!
# Landing plans

Between planning and committing a file may change in any way. What a commit does is described here
for every content that it can find, and for every step that the file system may refuse.

* `World.commit_lands_iff`: if the file system accepts the write, a plan lands exactly on the
  contents that hold all its spans, and it changes nothing outside of them.
* `World.commit_of_plan`: on the text that it was made for a plan lands, and what is written is the
  content of its transform, unless the file system refuses a step.
* `World.commit_of_denied`: a file that may not be written is not replaced.
* `World.checked_commit_sound`: with a syntax check nothing is written but the text that was
  checked.
-/

namespace SourcePatch

open SourcePatch.Text

namespace World

variable {p q : Patcher} {w₀ w : World} {planned : Plan} {source : String} {d : Bytes}

/-- The edits of a plan come in order. -/
theorem edits_pairwise_of_plan (hplan : (w₀.plan p).1 = .ok planned) :
    planned.transform.edits.Pairwise Edit.Precedes := by
  obtain ⟨source, -, rfl, -⟩ := plan_eq_ok_iff.1 hplan
  exact p.rule.edits_pairwise p.options.skipExisting source

theorem isUnchanged_eq_false_iff :
    planned.isUnchanged = false ↔ 0 < planned.transform.inserted := by
  rw [Plan.isUnchanged, Transform.isUnchanged, Transform.inserted, List.length_pos_iff]
  simp

theorem pinHolds_edits_iff {options : PatchOptions} :
    (planned.edits options).PinHolds d ↔
      (options.checkSyntax = true → ∃ current, d = Utf8.octets current ∧
        (Verification.ofText planned.source).accepts current = true) := by
  rw [Plan.edits_eq, FileEdits.PinHolds]
  cases options.checkSyntax <;> simp

/-- What a plan makes of a content, without the order of the splices. -/
theorem resultOn_edits_eq_ok_iff (options : PatchOptions) (d out : Bytes)
    (hplan : (w₀.plan p).1 = .ok planned) :
    (planned.edits options).resultOn d = .ok out ↔
      (options.checkSyntax = true → ∃ current, d = Utf8.octets current ∧
        (Verification.ofText planned.source).accepts current = true) ∧
      (∀ r ∈ planned.transform.replacements, r.toEdit.Fits d) ∧
      out = Edit.weave d 0 planned.transform.edits ∧ Utf8.isText out = true := by
  have hedits : (planned.edits options).edits = planned.transform.edits := by rw [Plan.edits_eq]
  have hsorted : (planned.edits options).edits.Pairwise Edit.Precedes := by
    rw [hedits]
    exact edits_pairwise_of_plan hplan
  have hfits : (∀ e ∈ planned.transform.edits, e.Fits d) ↔
      ∀ r ∈ planned.transform.replacements, r.toEdit.Fits d := List.forall_mem_map
  rw [FileEdits.resultOn_eq_ok_iff_weave hsorted, hedits, hfits, pinHolds_edits_iff]

/-! ## A sample -/

/-- A directory with one file in it. -/
def ofFile (name content : String) : World where
  tree := { entries := [([name], .file ⟨Utf8.octets content, Tree.defaultMode, 0⟩)] }
  cwd := []

/-- A patcher that puts a line of its own after each `a`. -/
def linePatcher (options : PatchOptions) : Patcher where
  target := "notes.rs"
  rule :=
    { program :=
        { instrs := #[.save 2 1, .read (.singleton 'a') 2, .save 3 3, .save 4 4, .save 5 5, .accept]
          groups := 2 }
      insertion := "// b"
      separator := "\n" }
  options := options

/-- What the patcher makes of a file with a single line. -/
def linePlan : Plan := .ofSource "notes.rs" (linePatcher {}).rule {} "// a"

theorem plan_linePatcher (checkSyntax : Bool) :
    ((ofFile "notes.rs" "// a").plan (linePatcher { checkSyntax })).1 = .ok linePlan := by
  have hread : (ofFile "notes.rs" "// a").read "notes.rs" = .ok (Utf8.octets "// a") := by
    decide +kernel
  have hfile : RustSyntax.isFile linePlan.transform.content = true := by decide +kernel
  refine plan_eq_ok_iff.2 ⟨"// a", hread, rfl, Plan.check_eq_ok_iff.2 ⟨?_, fun _ _ => hfile⟩⟩
  intro n hn
  cases hn

/-! ## Any content -/

/-- Whatever stands in the file when a plan with insertions is committed, if the file system accepts
the write: the plan lands exactly if all its spans lie in the content and hold the texts that they
were planned for, the whole file is the source if the syntax is checked, and the new content is
text. The new content is the old one with the spans replaced. A plan that does not land changes
nothing, and its spans never overlap. -/
theorem commit_lands_iff (hplan : (w₀.plan p).1 = .ok planned)
    (hinsert : 0 < planned.transform.inserted) (hread : w.read planned.file = .ok d)
    (haccepts : w.Accepts planned.file) :
    planned.transform.edits.Pairwise Edit.Precedes ∧
    ((∃ report, (w.commit q planned).1 = .ok report) ↔
      (q.options.checkSyntax = true → ∃ current, d = Utf8.octets current ∧
        (Verification.ofText planned.source).accepts current = true) ∧
      (∀ r ∈ planned.transform.replacements, r.toEdit.Fits d) ∧
      Utf8.isText (Edit.weave d 0 planned.transform.edits) = true) ∧
    (∀ report, (w.commit q planned).1 = .ok report → report.written = true ∧
      (w.commit q planned).2.read planned.file
        = .ok (Edit.weave d 0 planned.transform.edits)) ∧
    (∀ e, (w.commit q planned).1 = .error e → (w.commit q planned).2 = w ∧
      ∀ path firstEnd secondStart, e ≠ .edit path (.overlapping firstEnd secondStart)) := by
  refine ⟨edits_pairwise_of_plan hplan, ?_⟩
  have hchanged := isUnchanged_eq_false_iff.2 hinsert
  have hresult (out : Bytes) := resultOn_edits_eq_ok_iff q.options d out hplan
  cases hout : (planned.edits q.options).resultOn d with
  | error cause =>
    -- The edits do not fit, so one of the conditions fails.
    rw [commit_of_error hchanged hread hout]
    refine ⟨?_, ?_, ?_⟩
    · constructor
      · rintro ⟨report, hreport⟩
        cases hreport
      · rintro ⟨hpin, hspans, htext⟩
        have hlands := (hresult _).2 ⟨hpin, hspans, rfl, htext⟩
        rw [hout] at hlands
        cases hlands
    · intro report hreport
      cases hreport
    · intro e he
      refine ⟨rfl, ?_⟩
      rintro path firstEnd secondStart rfl
      obtain ⟨-, rfl⟩ := PatchError.edit.inj (Except.error.inj he)
      refine FileEdits.resultOn_ne_overlapping ?_ hout
      rw [Plan.edits_eq]
      exact edits_pairwise_of_plan hplan
  | ok out =>
    -- They land, so the conditions hold, and what is written is the weave.
    obtain ⟨hpin, hspans, rfl, htext⟩ := (hresult out).1 hout
    obtain ⟨w', loc, new, hcommit, hloc, hreplaced, hnew⟩ :=
      commit_of_accepts hchanged haccepts hread hout
    rw [hcommit]
    refine ⟨?_, ?_, ?_⟩
    · exact ⟨fun _ => ⟨hpin, hspans, htext⟩, fun _ => ⟨_, rfl⟩⟩
    · intro report hreport
      obtain rfl := Except.ok.inj hreport
      refine ⟨rfl, ?_⟩
      rw [(hreplaced.read hloc hread).1, hnew]
    · intro e he
      cases he

/-- The end of the line was written while the plan was on its way; it is kept. -/
theorem commit_lands_on_longer_line :
    ((ofFile "notes.rs" "// a, c").commit (linePatcher {}) linePlan).2.read "notes.rs"
      = .ok (Utf8.octets "// a\n// b, c") := by
  obtain ⟨-, hiff, hlands, -⟩ := commit_lands_iff (q := linePatcher {})
    (w := ofFile "notes.rs" "// a, c") (d := Utf8.octets "// a, c") (plan_linePatcher false)
    (by decide +kernel) (by decide +kernel) (accepts_of_permissive rfl _)
  have hvalid : FileEdits.validateAll "notes.rs" (Utf8.octets "// a, c")
      (linePlan.transform.replacements.map Replacement.toEdit) = .ok () := by decide +kernel
  have hspans := List.forall_mem_map.1 (FileEdits.validateAll_eq_ok_iff.1 hvalid)
  have hpin : ¬ (linePatcher {}).options.checkSyntax = true := by decide
  obtain ⟨report, hreport⟩ := hiff.2 ⟨fun h => absurd h hpin, hspans, by decide +kernel⟩
  refine ((hlands report hreport).2).trans ?_
  decide +kernel

/-! ## The planned content -/

/-- The plan that was made for a text fits this text, and makes the content of its transform of
it. -/
theorem resultOn_source (options : PatchOptions) (hplan : (w₀.plan p).1 = .ok planned) :
    (planned.edits options).resultOn (Utf8.octets planned.source)
      = .ok (Utf8.octets planned.transform.content) := by
  refine (resultOn_edits_eq_ok_iff options _ _ hplan).2 ⟨?_, ?_, ?_, ?_⟩
  · intro _
    exact ⟨planned.source, rfl, Verification.accepts_ofText planned.source⟩
  · obtain ⟨source, -, rfl, -⟩ := plan_eq_ok_iff.1 hplan
    intro r hr
    exact p.rule.edits_fit p.options.skipExisting source (List.mem_map_of_mem hr)
  · obtain ⟨source, -, rfl, -⟩ := plan_eq_ok_iff.1 hplan
    exact p.rule.octets_content p.options.skipExisting source
  · exact Utf8.isText_iff.2 ⟨_, rfl⟩

/-- On the text that it was made for, a plan with insertions is refused at some step, and the world
is as it was; or the file holds the content of its transform. In the end it has landed, unless the
policy refuses to set the time of the new file. -/
theorem commit_source_cases (q : Patcher) (hplan : (w₀.plan p).1 = .ok planned)
    (hinsert : 0 < planned.transform.inserted)
    (hread : w.read planned.file = .ok (Utf8.octets planned.source)) :
    (∃ cause, w.Refuses planned.file cause ∧
      w.commit q planned = (.error (.edit planned.file (.io cause)), w)) ∨
    ∃ w', w'.read planned.file = .ok (Utf8.octets planned.transform.content) ∧
      ((∃ cause, w.policy w'.tree w.cwd (.stamp planned.file) = some cause ∧
          w.commit q planned = (.error (.edit planned.file (.io cause)), w')) ∨
        w.commit q planned
          = (.ok (planned.report (some (Utf8.octets planned.transform.content).length)), w')) := by
  rcases commit_of_ok_cases (p := q) (isUnchanged_eq_false_iff.2 hinsert) hread
    (resultOn_source q.options hplan) with hrefused | ⟨w', loc, new, hloc, hreplaced, hnew, hend⟩
  · exact Or.inl hrefused
  · refine Or.inr ⟨w', ?_, hend⟩
    rw [(hreplaced.read hloc hread).1, hnew]

/-- Suppose that a file still holds the text that a plan was made for. If the file system accepts
the write, or if there are no insertions, the commit succeeds. The file then holds the content that
the rule builds from left to right; without insertions nothing changes. What is reported adds up,
and keeps to the number of insertions that was asked for. A commit can only fail with the cause for
which the file system refuses a step; then nothing has changed, unless that step is the last one,
which sets the time of the new file. -/
theorem commit_of_plan (hplan : (w₀.plan p).1 = .ok planned)
    (hsource : w₀.read p.target = .ok (Utf8.octets source))
    (hsame : w.read p.target = .ok (Utf8.octets source)) :
    ((p.rule.apply source p.options.skipExisting).replacements = [] ∨ w.Accepts p.target →
      ∃ report w', w.commit q planned = (.ok report, w') ∧
        report.inserted = (p.rule.apply source p.options.skipExisting).replacements.length ∧
        ((p.rule.apply source p.options.skipExisting).replacements ≠ [] →
          report.written = true ∧ w'.read p.target
            = .ok (Utf8.octets (p.rule.apply source p.options.skipExisting).content)) ∧
        ((p.rule.apply source p.options.skipExisting).replacements = [] →
          report.written = false ∧ w' = w) ∧
        report.inserted + report.skipped = (p.rule.program.findAll source.toList).length ∧
        ∀ n, p.options.expect = some n → report.inserted = n) ∧
    ∀ e, (w.commit q planned).1 = .error e → ∃ cause, e = .edit p.target (.io cause) ∧
      ((w.Refuses p.target cause ∧ (w.commit q planned).2 = w) ∨
        (w.policy (w.commit q planned).2.tree w.cwd (.stamp p.target) = some cause ∧
          (w.commit q planned).2.read p.target
            = .ok (Utf8.octets (p.rule.apply source p.options.skipExisting).content))) := by
  -- The file held one text only, so this is the text that the plan was made for.
  obtain ⟨source', hsource', rfl, hcheck⟩ := plan_eq_ok_iff.1 hplan
  obtain rfl := eq_of_read hsource hsource'
  have hcount := (Plan.check_eq_ok_iff.1 hcheck).1
  have hmatches (bytes : Option Nat) :
      (Plan.report (.ofSource p.target p.rule p.options source) bytes).inserted
        + (Plan.report (.ofSource p.target p.rule p.options source) bytes).skipped
        = (p.rule.program.findAll source.toList).length := by
    refine (p.rule.inserted_add_skipped p.options.skipExisting source).trans ?_
    rw [InsertionRule.apply, List.length_map, InsertionRule.sites, List.length_map]
  by_cases hnone : (p.rule.apply source p.options.skipExisting).replacements = []
  · have hunchanged :
        (Plan.ofSource p.target p.rule p.options source).isUnchanged = true := by
      rw [Plan.isUnchanged, Transform.isUnchanged, Plan.ofSource, hnone]
      rfl
    rw [commit_of_isUnchanged hunchanged]
    refine ⟨fun _ => ⟨_, w, rfl, rfl, ?_, ?_, hmatches none, hcount⟩, ?_⟩
    · intro hsome
      exact absurd hnone hsome
    · intro _
      exact ⟨rfl, rfl⟩
    · intro e he
      cases he
  · have hinsert : 0 < (Plan.ofSource p.target p.rule p.options source).transform.inserted :=
      List.length_pos_iff.2 hnone
    rcases commit_source_cases q hplan hinsert hsame with ⟨cause, hrefuses, hcommit⟩ |
      ⟨w', hread, ⟨cause, hstamp, hcommit⟩ | hcommit⟩
    · -- refused before the file is in its place
      rw [hcommit]
      refine ⟨?_, ?_⟩
      · rintro (hnil | haccepts)
        · exact absurd hnil hnone
        · exact absurd hrefuses (haccepts.not_refuses cause)
      · intro e he
        obtain rfl := Except.error.inj he
        exact ⟨cause, rfl, Or.inl ⟨hrefuses, rfl⟩⟩
    · -- refused when it is there
      rw [hcommit]
      refine ⟨?_, ?_⟩
      · rintro (hnil | haccepts)
        · exact absurd hnil hnone
        · cases hstamp.symm.trans (haccepts.stamps w'.tree)
      · intro e he
        obtain rfl := Except.error.inj he
        exact ⟨cause, rfl, Or.inr ⟨hstamp, hread⟩⟩
    · rw [hcommit]
      refine ⟨fun _ => ⟨_, w', rfl, rfl, ?_, ?_, hmatches _, hcount⟩, ?_⟩
      · intro _
        exact ⟨rfl, hread⟩
      · intro hnil
        exact absurd hnil hnone
      · intro e he
        cases he

/-- A file and an unprivileged user, who may write it. -/
def ofUser (name content : String) : World :=
  { ofFile name content with policy := .unprivileged fun _ => false }

theorem accepts_ofUser : (ofUser "notes.rs" "// a").Accepts "notes.rs" := by
  have hfile : (ofUser "notes.rs" "// a").tree.file? [] "notes.rs"
      = .ok ⟨Utf8.octets "// a", Tree.defaultMode, 0⟩ := by decide +kernel
  have hloc : (ofUser "notes.rs" "// a").tree.locate [] "notes.rs" = .ok ["notes.rs"] := by
    decide +kernel
  exact accepts_of_unprivileged rfl hfile hloc (by decide) rfl

/-- A line is added to a file that nobody else writes, by a user who may. -/
theorem commit_of_plan_for_line :
    ∃ report w', (ofUser "notes.rs" "// a").commit (linePatcher {}) linePlan = (.ok report, w') ∧
      report.written = true ∧ w'.read "notes.rs" = .ok (Utf8.octets "// a\n// b") := by
  have hread : (ofFile "notes.rs" "// a").read "notes.rs" = .ok (Utf8.octets "// a") := by
    decide +kernel
  obtain ⟨hlands, -⟩ := commit_of_plan (w := ofUser "notes.rs" "// a") (q := linePatcher {})
    (plan_linePatcher false) hread hread
  obtain ⟨report, w', hcommit, -, hwritten, -⟩ :=
    hlands (Or.inr accepts_ofUser)
  obtain ⟨hwritten, hread⟩ := hwritten (by decide +kernel)
  refine ⟨report, w', hcommit, hwritten, hread.trans ?_⟩
  decide +kernel

/-- Towards a user without privileges, no plan replaces a file that its owner may not write, or one
in a locked directory. The commit fails, and nothing has changed. -/
theorem commit_of_denied {locked : Location → Bool} {loc : Location} {old : FileData}
    (hpolicy : w.policy = .unprivileged locked) (hplan : (w₀.plan p).1 = .ok planned)
    (hinsert : 0 < planned.transform.inserted)
    (hfile : w.tree.file? w.cwd planned.file = .ok old)
    (hsource : old.content = Utf8.octets planned.source)
    (hloc : w.tree.locate w.cwd planned.file = .ok loc)
    (hdenied : (Policy.ownerWrites old.mode && !locked loc.dropLast) = false) (q : Patcher) :
    w.commit q planned = (.error (.edit planned.file (.io Policy.permissionDenied)), w) := by
  have hread := read_of_file? hfile
  rw [hsource] at hread
  have hwrite := atomicWrite_unprivileged hpolicy hfile hloc (Utf8.octets planned.transform.content)
  rw [hdenied, if_neg Bool.false_ne_true] at hwrite
  have hchanged := isUnchanged_eq_false_iff.2 hinsert
  refine commit_of_apply_error hchanged (apply_of_write_error (edits_isEmpty hchanged q.options)
    ?_ (resultOn_source q.options hplan) ?_)
  · rwa [Plan.edits_file]
  · rwa [Plan.edits_file]

/-! ## Checked syntax -/

/-- With a syntax check on both sides, whatever happens to the file between planning and committing:
planning writes nothing; what a commit writes is the content that was checked, in the place of the
text that it was made from; and a commit that does not write changes nothing, as long as the file
system lets one set the time of a file that one has made. If it does not, and the commit fails for
this, the file holds the content that was checked. -/
theorem checked_commit_sound (hp : p.options.checkSyntax = true)
    (hq : q.options.checkSyntax = true) (w₀ : World) :
    (w₀.plan p).2 = w₀ ∧ ∀ planned, (w₀.plan p).1 = .ok planned → ∀ w : World,
      (Verification.exactLimit < (Utf8.octets planned.source).length →
        ∀ current, w.read planned.file = .ok (Utf8.octets current) →
          ¬ Xxh3.Collide current planned.source) →
      (∀ report, (w.commit q planned).1 = .ok report → report.written = true →
        w.read planned.file = .ok (Utf8.octets planned.source) ∧
        (w.commit q planned).2.read planned.file
          = .ok (Utf8.octets planned.transform.content) ∧
        RustSyntax.isFile planned.transform.content = true) ∧
      ((∀ report, (w.commit q planned).1 = .ok report → report.written = false) →
        (w.policy.Stamps → (w.commit q planned).2 = w) ∧
        ((w.commit q planned).2 = w ∨ ∃ cause,
          (w.commit q planned).1 = .error (.edit planned.file (.io cause)) ∧
          w.policy (w.commit q planned).2.tree w.cwd (.stamp planned.file) = some cause ∧
          w.read planned.file = .ok (Utf8.octets planned.source) ∧
          (w.commit q planned).2.read planned.file
            = .ok (Utf8.octets planned.transform.content) ∧
          RustSyntax.isFile planned.transform.content = true)) := by
  refine ⟨plan_snd w₀ p, ?_⟩
  intro planned hplan w hhash
  rcases commit_cases w q planned with ⟨-, hcommit⟩ | ⟨-, cause, hcommit, -⟩ |
    ⟨hchanged, d, out, w', loc, new, hread, hout, hloc, hreplaced, hnew, hend⟩
  · rw [hcommit]
    refine ⟨?_, fun _ => ⟨fun _ => rfl, Or.inl rfl⟩⟩
    intro report hreport hwritten
    obtain rfl := Except.ok.inj hreport
    cases hwritten
  · rw [hcommit]
    refine ⟨?_, fun _ => ⟨fun _ => rfl, Or.inl rfl⟩⟩
    intro report hreport
    cases hreport
  · -- The pin makes the content that is there the source, and so the result the checked content.
    obtain ⟨hpin, -⟩ := (resultOn_edits_eq_ok_iff q.options d out hplan).1 hout
    obtain ⟨current, rfl, haccepts⟩ := hpin hq
    have hsource : current = planned.source := by
      refine Verification.eq_of_accepts ?_ haccepts
      intro hlong
      exact hhash hlong current hread
    subst hsource
    rw [resultOn_source q.options hplan] at hout
    obtain rfl := Except.ok.inj hout
    have hfile : RustSyntax.isFile planned.transform.content = true := by
      obtain ⟨source, -, -, hcheck⟩ := plan_eq_ok_iff.1 hplan
      exact (Plan.check_eq_ok_iff.1 hcheck).2 hp hchanged
    have hafter : w'.read planned.file = .ok (Utf8.octets planned.transform.content) := by
      rw [(hreplaced.read hloc hread).1, hnew]
    rcases hend with ⟨cause, hstamp, hcommit⟩ | hcommit
    · rw [hcommit]
      refine ⟨?_, fun _ => ⟨?_, Or.inr ⟨cause, rfl, hstamp, hread, hafter, hfile⟩⟩⟩
      · intro report hreport
        cases hreport
      · intro hstamps
        rw [hstamps] at hstamp
        cases hstamp
    · rw [hcommit]
      refine ⟨fun report _ _ => ⟨hread, hafter, hfile⟩, ?_⟩
      intro hnotWritten
      have := hnotWritten _ rfl
      cases this

/-- The checked content is what replaces a short file; hashes play no part. A file that was changed
meanwhile is left alone. -/
theorem checked_commit_sound_for_line :
    ((ofUser "notes.rs" "// a").commit
        (linePatcher { checkSyntax := true }) linePlan).2.read "notes.rs"
        = .ok (Utf8.octets "// a\n// b") ∧
      RustSyntax.isFile "// a\n// b" = true ∧
      ((ofUser "notes.rs" "// a, c").commit (linePatcher { checkSyntax := true }) linePlan).2
        = ofUser "notes.rs" "// a, c" := by
  let q := linePatcher { checkSyntax := true }
  obtain ⟨-, hsound⟩ := checked_commit_sound (p := q) (q := q) rfl rfl (ofFile "notes.rs" "// a")
  have hplan : ((ofFile "notes.rs" "// a").plan q).1 = .ok linePlan := plan_linePatcher true
  have hshort : ¬ Verification.exactLimit < (Utf8.octets linePlan.source).length := by
    decide +kernel
  have hchanged : linePlan.isUnchanged = false := by decide +kernel
  have hsound (w : World) := hsound linePlan hplan w fun hlong => absurd hlong hshort
  refine and_assoc.1 ⟨?_, ?_⟩
  · have hread : (ofUser "notes.rs" "// a").read "notes.rs" = .ok (Utf8.octets "// a") := by
      decide +kernel
    obtain ⟨w', loc, new, hcommit, -⟩ := commit_of_accepts (p := q) hchanged accepts_ofUser hread
      (resultOn_source q.options hplan)
    obtain ⟨-, hafter, hfile⟩ := (hsound (ofUser "notes.rs" "// a")).1 _ (by rw [hcommit]) rfl
    have hcontent : linePlan.transform.content = "// a\n// b" := by decide +kernel
    rw [hcontent] at hafter hfile
    exact ⟨hafter, hfile⟩
  · have hread : (ofUser "notes.rs" "// a, c").read "notes.rs" = .ok (Utf8.octets "// a, c") := by
      decide +kernel
    have hresult : (linePlan.edits q.options).resultOn (Utf8.octets "// a, c")
        = .error (.sourceChanged "notes.rs") := by decide +kernel
    have hcommit := commit_of_error (p := q) hchanged hread hresult
    refine ((hsound (ofUser "notes.rs" "// a, c")).2 ?_).1 Policy.stamps_unprivileged
    intro report hreport
    rw [hcommit] at hreport
    cases hreport

end World

end SourcePatch
