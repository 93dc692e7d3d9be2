import SourcePatch.Proofs.CommandLine.Steps
import SourcePatch.Proofs.Diff.Patching

/-!
# Diffs that are shown

* `printedEntries` are the signs and lines that a diff shows, `diffText_eq` says how they are set.
* `linesSigned_eq`: the signs tell which lines are of the first text and which of the second.
* `readEntries?_entriesText`: without colours, the entries can be read from what is shown.
* `diff_faithful`: so what is shown of a plan turns the text of the file into the content of the
  transform.
-/

namespace SourcePatch

namespace CommandLine

open World

open Diff (DiffEntry Line Mark lineDiff)

/-! ## Signs and lines -/

/-- The sign in front of a line. -/
def sign : Mark → Char
  | .same => ' '
  | .removed => '-'
  | .added => '+'

/-- An entry as it is shown. -/
def signed (e : DiffEntry) : Char × Line := (sign e.mark, e.line)

/-- What a sign stands for. -/
def markOf? : Char → Option Mark
  | ' ' => some .same
  | '-' => some .removed
  | '+' => some .added
  | _ => none

/-- The colour of a line with a sign. -/
def paintSigned (coloured : Bool) : Char → String → String
  | '-', text => Style.red.paint coloured text
  | '+', text => Style.green.paint coloured text
  | _, text => text

/-- The signs and lines that the diff of two texts shows. -/
def printedEntries (source patched : String) : List (Char × Line) :=
  (Diff.endedEntries (lineDiff source.toList patched.toList)).map signed

/-- The lines with one of some signs. -/
def linesSigned (signs : List Char) (entries : List (Char × Line)) : List Line :=
  (entries.filter fun entry => signs.contains entry.1).map (·.2)

/-- What stands above the entries. -/
def heading (coloured : Bool) (file : String) : String :=
  "\n" ++ Style.dimmed.paint coloured s!"--- {file} (original)" ++ "\n"
    ++ Style.dimmed.paint coloured s!"+++ {file} (patched)" ++ "\n"

/-- The text of entries, one behind the other. -/
def entriesText (coloured : Bool) (entries : List (Char × Line)) : String :=
  String.join (entries.map fun entry =>
    paintSigned coloured entry.1 (String.ofList (entry.1 :: entry.2)))

theorem completed_eq (line : Line) : completed line = String.ofList (Diff.withBreak line) := by
  unfold completed Diff.withBreak Diff.endsInBreak
  split
  · rename_i h
    rw [h]
    rfl
  · rename_i h
    rw [h]
    rfl
  · rename_i hnewline hreturn
    have hplain : ¬ line.getLast?.any Diff.isBreak = true := by
      rw [Option.any_eq_true]
      rintro ⟨c, hc, hbreak⟩
      rcases Diff.isBreak_iff.1 hbreak with rfl | rfl
      · exact hnewline hc
      · exact hreturn hc
    rw [if_neg hplain, String.ofList_append]

theorem entryText_eq (coloured : Bool) (e : DiffEntry) : entryText coloured e
    = paintSigned coloured (sign e.mark)
      (String.ofList (sign e.mark :: Diff.withBreak e.line)) := by
  unfold entryText
  rw [completed_eq]
  cases e.mark with
  | same => rw [String.ofList_cons]; rfl
  | removed => rw [String.ofList_cons]; rfl
  | added => rw [String.ofList_cons]; rfl

/-- The diff of two texts is its heading and its entries. -/
theorem diffText_eq (coloured : Bool) (file source patched : String) :
    diffText coloured file source patched
      = heading coloured file ++ entriesText coloured (printedEntries source patched) := by
  have hentries : entriesText coloured (printedEntries source patched)
      = String.join ((lineDiff source.toList patched.toList).map (entryText coloured)) := by
    rw [entriesText, printedEntries, Diff.endedEntries, List.map_map, List.map_map]
    refine congrArg String.join (List.map_congr_left fun e _ => ?_)
    exact (entryText_eq coloured e).symm
  rw [hentries]
  rfl

theorem linesSigned_eq (es : List DiffEntry) :
    linesSigned [' ', '-'] (es.map signed) = Diff.oldLines es ∧
      linesSigned [' ', '+'] (es.map signed) = Diff.newLines es := by
  unfold linesSigned
  rw [List.filter_map, List.filter_map, List.map_map, List.map_map]
  constructor
  · refine congrArg (List.map _) (List.filter_congr fun e _ => ?_)
    cases h : e.mark <;> simp [h, signed, sign]
  · refine congrArg (List.map _) (List.filter_congr fun e _ => ?_)
    cases h : e.mark <;> simp [h, signed, sign]

/-! ## Reading a diff -/

/-- An entry from its line. -/
def readEntry? : Line → Option DiffEntry
  | [] => none
  | c :: line => (markOf? c).map (⟨·, line⟩)

/-- The entries from the text of a diff. -/
def readEntries? (text : String) : Option (List DiffEntry) :=
  (Diff.splitLines text.toList).mapM readEntry?

theorem readEntry?_signed (e : DiffEntry) : readEntry? (sign e.mark :: e.line) = some e := by
  obtain ⟨mark, line⟩ := e
  cases mark <;> rfl

/-- Without colours, the text of entries is made up of their signs and lines. -/
theorem toList_entriesText (es : List DiffEntry) :
    (entriesText false (es.map signed)).toList
      = (es.map fun e => sign e.mark :: e.line).flatten := by
  rw [entriesText, String.toList_join, List.map_map, List.flatMap_def, List.map_map]
  refine congrArg List.flatten (List.map_congr_left fun e _ => ?_)
  cases h : e.mark <;> simp [h, signed, sign, paintSigned, Style.paint]

theorem mapM_readEntry? (es : List DiffEntry) :
    (es.map fun e => sign e.mark :: e.line).mapM readEntry? = some es := by
  induction es with
  | nil => rfl
  | cons e es ih =>
    rw [List.map_cons, List.mapM_cons, ih, readEntry?_signed]
    rfl

/-- Without colours, the entries can be read again. -/
theorem readEntries?_entriesText (source patched : String) :
    readEntries? (entriesText false (printedEntries source patched))
      = some (Diff.endedEntries (lineDiff source.toList patched.toList)) := by
  rw [readEntries?, printedEntries, toList_entriesText, Diff.splitLines_flatten, mapM_readEntry?]
  · intro l hl
    obtain ⟨e, he, rfl⟩ := List.mem_map.1 hl
    exact (Diff.ended_of_mem_endedEntries he).cons (by cases e.mark <;> rfl)
  · intro l hl
    obtain ⟨e, he, rfl⟩ := List.mem_map.1 hl
    cases e.mark <;> simp [sign]

/-! ## Diffs of plans -/

theorem diffText_of_planRule {w w' : World} {a : Arguments} {coloured : Bool} {p : Patcher}
    {planned : Plan} (hdiff : a.diff = true)
    (hrun : (planRule (m := StateM World) a coloured p).run w = (.ok planned, w'))
    (hinserted : 0 < planned.transform.inserted) :
    (w.plan p).1 = .ok planned ∧ w'.output
      = w.output ++ diffText coloured planned.file planned.source planned.transform.content := by
  cases hplan : (w.plan p).1 with
  | error e =>
    -- Without a plan the run would have ended in the error.
    obtain ⟨noted, herror⟩ := planRule_of_error a coloured hplan
    cases hrun.symm.trans herror
  | ok planned' =>
    obtain ⟨noted, hok⟩ := planRule_of_ok a coloured hplan
    obtain ⟨hsame, rfl⟩ := Prod.mk.inj (hok.symm.trans hrun)
    obtain rfl := Except.ok.inj hsame
    refine ⟨rfl, ?_⟩
    rw [saying_output, diffShown, hdiff, isUnchanged_eq_false_iff.2 hinserted]
    rfl

/-- A diff that is shown is a patch. It is a heading and entries; the lines that are signed as kept
or removed are the first text, those that are signed as kept or added the second one, but for a
newline that ends the last line. The entries turn one text into the other, and can be read from what
is shown without colours. So what is shown of a plan with insertions turns the text of the file into
the content of the transform. -/
theorem diff_faithful :
    (∀ coloured file source patched, diffText coloured file source patched
      = heading coloured file ++ entriesText coloured (printedEntries source patched)) ∧
    (∀ source patched : String,
      (∀ entry ∈ printedEntries source patched, Diff.Ended entry.2) ∧
        (linesSigned [' ', '-'] (printedEntries source patched)).flatten
          = Diff.completeText source.toList ∧
        (linesSigned [' ', '+'] (printedEntries source patched)).flatten
          = Diff.completeText patched.toList ∧
        Diff.patch (lineDiff source.toList patched.toList) source.toList = some patched.toList) ∧
    (∀ source patched : String, ∃ es,
      readEntries? (entriesText false (printedEntries source patched)) = some es ∧
        Diff.patch es (Diff.completeText source.toList)
          = some (Diff.completeText patched.toList)) ∧
    ∀ (w w' : World) (a : Arguments) (coloured : Bool) (p : Patcher) (planned : Plan),
      a.diff = true →
      (planRule (m := StateM World) a coloured p).run w = (.ok planned, w') →
      0 < planned.transform.inserted →
      w.read planned.file = .ok (Utf8.octets planned.source) ∧
        planned.transform = p.rule.apply planned.source p.options.skipExisting ∧
        w'.output = w.output ++ (heading coloured planned.file ++
          entriesText coloured (printedEntries planned.source planned.transform.content)) ∧
        Diff.patch (lineDiff planned.source.toList planned.transform.content.toList)
          planned.source.toList = some planned.transform.content.toList := by
  refine ⟨diffText_eq, ?_, ?_, ?_⟩
  · intro source patched
    obtain ⟨hold, hnew⟩ := linesSigned_eq
      (Diff.endedEntries (lineDiff source.toList patched.toList))
    obtain ⟨hsource, hpatched⟩ := Diff.flatten_endedEntries source.toList patched.toList
    rw [printedEntries, hold, hnew]
    refine ⟨?_, hsource, hpatched, Diff.patch_lineDiff _ _⟩
    intro entry hentry
    obtain ⟨e, he, rfl⟩ := List.mem_map.1 hentry
    exact Diff.ended_of_mem_endedEntries he
  · intro source patched
    exact ⟨_, readEntries?_entriesText source patched, Diff.patch_endedEntries _ _⟩
  · intro w w' a coloured p planned hdiff hrun hinserted
    obtain ⟨hplan, hshown⟩ := diffText_of_planRule hdiff hrun hinserted
    obtain ⟨source, hsource, rfl, -⟩ := plan_eq_ok_iff.1 hplan
    refine ⟨hsource, rfl, ?_, Diff.patch_lineDiff _ _⟩
    rw [hshown, diffText_eq]

/-- A line is added to a file of one line without a newline, which the diff ends. -/
theorem diff_faithful_line :
    (((planRule (m := StateM World) { diff := true } false (linePatcher {})).run
      (ofFile "notes.rs" "// a")).2.output
        = "\n--- notes.rs (original)\n+++ notes.rs (patched)\n-// a\n+// a\n+// b\n") ∧
      Diff.patch (lineDiff "// a".toList "// a\n// b".toList) "// a".toList
        = some "// a\n// b".toList := by
  obtain ⟨-, -, -, hplans⟩ := diff_faithful
  obtain ⟨noted, hrun⟩ := planRule_of_ok { diff := true } false (plan_linePatcher false)
  have hcontent : linePlan.transform.content = "// a\n// b" := by decide +kernel
  have hinserted : 0 < linePlan.transform.inserted := by decide +kernel
  obtain ⟨-, -, houtput, hpatch⟩ := hplans _ _ { diff := true } false (linePatcher {}) linePlan rfl
    hrun hinserted
  rw [hcontent] at houtput hpatch
  refine ⟨?_, hpatch⟩
  rw [hrun]
  refine houtput.trans ?_
  decide +kernel

end CommandLine

end SourcePatch
