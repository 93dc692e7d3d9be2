import Mathlib.Data.List.Basic
import SourcePatch.Proofs.Diff.Scripts

/-!
# Diffs as patches

* `oldLines` and `newLines` are what a diff says of both texts; `lines_lineDiff`: the diff of two
  texts says of them what they are.
* `patch` applies a diff to a text, and fails if it is not one of this text (`patch_eq_some_iff`);
  so the diff of two texts turns one into the other (`patch_lineDiff`).
* `withBreak` ends a line that has no line break, `completeText` the last line of a text;
  `linesOf_splitLines`: the former comes down to the latter.
* `splitLines_flatten`: lines that end in line breaks are found again in the text that they make up.
-/

namespace SourcePatch.Diff

/-! ## Both texts of a diff -/

section Sides

variable {es fs : List DiffEntry}

/-- The lines of all entries but those with a mark. -/
def linesWithout (mark : Mark) (es : List DiffEntry) : List Line :=
  (es.filter fun e => e.mark != mark).map (·.line)

/-- The lines of the first text: those that are kept or removed. -/
abbrev oldLines (es : List DiffEntry) : List Line := linesWithout .added es

/-- The lines of the second text: those that are kept or added. -/
abbrev newLines (es : List DiffEntry) : List Line := linesWithout .removed es

variable {mark : Mark}

@[simp] theorem linesWithout_nil : linesWithout mark [] = [] := rfl

theorem linesWithout_cons (e : DiffEntry) : linesWithout mark (e :: es)
    = if e.mark = mark then linesWithout mark es else e.line :: linesWithout mark es := by
  unfold linesWithout
  by_cases h : e.mark = mark <;> simp [h]

@[simp] theorem linesWithout_append :
    linesWithout mark (es ++ fs) = linesWithout mark es ++ linesWithout mark fs := by
  rw [linesWithout, List.filter_append, List.map_append]
  rfl

@[simp] theorem linesWithout_marked (mark' : Mark) (ls : List Line) :
    linesWithout mark (ls.map (⟨mark', ·⟩)) = if mark' = mark then [] else ls := by
  induction ls with
  | nil => simp
  | cons line ls ih =>
    rw [List.map_cons, linesWithout_cons, ih]
    split <;> rfl

/-- The entries of a script are of the lists that it connects, and of the changes before it. -/
theorem lines_entriesFrom (removed added : List Line) (s : Script) :
    oldLines (entriesFrom removed added s) = removed ++ before s ∧
      newLines (entriesFrom removed added s) = added ++ after s := by
  fun_induction entriesFrom removed added s with
  | case1 removed added => simp [flush]
  | case2 removed added ls s ih => simp [flush, ih]
  | case3 removed added ls s ih => simp [ih]
  | case4 removed added ls s ih => simp [ih]

/-- The diff of two texts has their lines. -/
theorem lines_lineDiff (old new : List Char) :
    oldLines (lineDiff old new) = splitLines old ∧
      newLines (lineDiff old new) = splitLines new := by
  have h := Connects.of_alike (alike_compact _) (connects_script (splitLines old) (splitLines new))
  obtain ⟨hold, hnew⟩ := lines_entriesFrom [] []
    (compact (script (splitLines old) (splitLines new)))
  exact ⟨hold.trans h.before_eq, hnew.trans h.after_eq⟩

end Sides

/-! ## Applying a diff -/

/-- Applies a diff to a text: lines that are kept or removed are taken from its front, lines that
are kept or added are written. All of the text has to be taken. -/
def patch : List DiffEntry → List Char → Option (List Char)
  | [], text => if text.isEmpty then some [] else none
  | ⟨.same, line⟩ :: es, text =>
    (line.isPrefixOf? text).bind fun rest => (patch es rest).map (line ++ ·)
  | ⟨.removed, line⟩ :: es, text => (line.isPrefixOf? text).bind (patch es)
  | ⟨.added, line⟩ :: es, text => (patch es text).map (line ++ ·)

/-- A diff can be applied to one text, and makes one text of it. -/
theorem patch_eq_some_iff {es : List DiffEntry} {text out : List Char} :
    patch es text = some out ↔ (oldLines es).flatten = text ∧ (newLines es).flatten = out := by
  induction es generalizing text out with
  | nil =>
    cases text with
    | nil => simp [patch]
    | cons c cs => simp [patch]
  | cons e es ih =>
    obtain ⟨mark, line⟩ := e
    cases mark <;> simp [patch, Option.bind_eq_some_iff, ih, linesWithout_cons]

/-- The diff of two texts turns one into the other. -/
theorem patch_lineDiff (old new : List Char) : patch (lineDiff old new) old = some new := by
  obtain ⟨hold, hnew⟩ := lines_lineDiff old new
  rw [patch_eq_some_iff, hold, hnew, flatten_splitLines, flatten_splitLines]
  exact ⟨rfl, rfl⟩

/-! ## Completed lines -/

section Completing

variable {line body current rest text xs ys : List Char}

/-- Is a character a line break, or one half of one? -/
def isBreak (c : Char) : Bool := c = '\n' || c = '\r'

theorem isBreak_iff {c : Char} : isBreak c = true ↔ c = '\n' ∨ c = '\r' := by
  rw [isBreak, Bool.or_eq_true, decide_eq_true_eq, decide_eq_true_eq]

/-- Is a text without line breaks? -/
def Plain (text : List Char) : Prop := ∀ c ∈ text, isBreak c = false

/-- Does a text end in a line break? -/
def endsInBreak (text : List Char) : Bool := text.getLast?.any isBreak

/-- A text with a newline at its end, unless it ends in a line break. -/
def withBreak (text : List Char) : List Char :=
  if endsInBreak text then text else text ++ ['\n']

/-- A text whose last line is ended. -/
def completeText (text : List Char) : List Char := if text.isEmpty then [] else withBreak text

/-- A line that ends in a line break and holds no other one. -/
inductive Ended : Line → Prop where
  | newline {body : List Char} (plain : Plain body) : Ended (body ++ ['\n'])
  | both {body : List Char} (plain : Plain body) : Ended (body ++ ['\r', '\n'])
  | carriage {body : List Char} (plain : Plain body) : Ended (body ++ ['\r'])

theorem endsInBreak_append (xs : List Char) (h : ys ≠ []) :
    endsInBreak (xs ++ ys) = endsInBreak ys := by
  rw [endsInBreak, List.getLast?_append_of_ne_nil xs h, endsInBreak]

theorem Plain.endsInBreak (h : Plain line) : endsInBreak line = false := by
  cases hlast : line.getLast? with
  | none => rw [Diff.endsInBreak, hlast, Option.any_none]
  | some c => rw [Diff.endsInBreak, hlast, Option.any_some, h c (List.mem_of_getLast? hlast)]

theorem Ended.endsInBreak (h : Ended line) : endsInBreak line = true := by
  cases h with
  | newline => rw [endsInBreak_append _ (List.cons_ne_nil _ _)]; rfl
  | both => rw [endsInBreak_append _ (List.cons_ne_nil _ _)]; rfl
  | carriage => rw [endsInBreak_append _ (List.cons_ne_nil _ _)]; rfl

theorem Ended.cons {c : Char} (h : Ended line) (hc : isBreak c = false) : Ended (c :: line) := by
  cases h with
  | newline plain => exact .newline (List.forall_mem_cons.2 ⟨hc, plain⟩)
  | both plain => exact .both (List.forall_mem_cons.2 ⟨hc, plain⟩)
  | carriage plain => exact .carriage (List.forall_mem_cons.2 ⟨hc, plain⟩)

theorem Ended.ne_nil (h : Ended line) : line ≠ [] := by
  rintro rfl
  cases h.endsInBreak

theorem Ended.withBreak_eq (h : Ended line) : withBreak line = line := by
  rw [withBreak, if_pos h.endsInBreak]

theorem Plain.withBreak_eq (h : Plain line) : withBreak line = line ++ ['\n'] := by
  rw [withBreak, h.endsInBreak]
  rfl

theorem completeText_of_ne_nil (h : text ≠ []) : completeText text = withBreak text := by
  rw [completeText, if_neg (mt List.isEmpty_iff.1 h)]

/-- What comes behind a line that is ended is completed by itself. -/
theorem Ended.completeText_append (h : Ended line) (rest : List Char) :
    completeText (line ++ rest) = line ++ completeText rest := by
  rw [completeText_of_ne_nil (List.append_ne_nil_of_left_ne_nil h.ne_nil rest)]
  by_cases hrest : rest = []
  · rw [hrest, List.append_nil, h.withBreak_eq]
    exact (List.append_nil line).symm
  · rw [completeText_of_ne_nil hrest, withBreak, withBreak, endsInBreak_append line hrest]
    split
    · rfl
    · exact List.append_assoc line rest _

/-! ## Lines of a text -/

/-- These are the lines of a text: all but the last one are ended. -/
structure LinesOf (ls : List Line) (text : List Char) : Prop where
  ended : ∀ l ∈ ls, Ended (withBreak l)
  flatten_eq : (ls.map withBreak).flatten = completeText text

theorem LinesOf.cons {ls : List Line} (hline : Ended line) (h : LinesOf ls text) :
    LinesOf (line :: ls) (line ++ text) where
  ended := List.forall_mem_cons.2 ⟨by rwa [hline.withBreak_eq], h.ended⟩
  flatten_eq := by
    rw [List.map_cons, List.flatten_cons, h.flatten_eq, hline.withBreak_eq,
      hline.completeText_append]

theorem Plain.reverse (h : Plain body) : Plain body.reverse := by
  intro c hc
  exact h c (List.mem_reverse.1 hc)

/-- A last line that is not ended yet. -/
theorem Plain.linesOf (h : Plain line) (hline : line ≠ []) : LinesOf [line] line where
  ended := by
    rw [List.forall_mem_singleton, h.withBreak_eq]
    exact .newline h
  flatten_eq := by
    rw [completeText_of_ne_nil hline]
    exact List.append_nil _

theorem linesOf_splitLinesFrom (hcurrent : Plain current) (text : List Char) :
    LinesOf (splitLinesFrom current text) (current.reverse ++ text) := by
  have hnil : Plain [] := fun c hc => absurd hc List.not_mem_nil
  fun_induction splitLinesFrom current text with
  | case1 current h =>
    rw [List.isEmpty_iff.1 h]
    exact ⟨fun l hl => absurd hl List.not_mem_nil, rfl⟩
  | case2 current h =>
    rw [List.append_nil]
    exact hcurrent.reverse.linesOf (mt List.reverse_eq_nil_iff.1 (mt List.isEmpty_iff.2 h))
  | case3 current cs ih =>
    have hline : Ended ('\n' :: '\r' :: current).reverse := by
      rw [List.reverse_cons, List.reverse_cons, List.append_assoc]
      exact .both hcurrent.reverse
    have htext : ('\n' :: '\r' :: current).reverse ++ cs
        = current.reverse ++ '\r' :: '\n' :: cs := by simp
    exact htext ▸ (ih hnil).cons hline
  | case4 current c cs _ hc ih =>
    have hline : Ended (c :: current).reverse := by
      rw [List.reverse_cons]
      rcases isBreak_iff.1 hc with rfl | rfl
      · exact .newline hcurrent.reverse
      · exact .carriage hcurrent.reverse
    have htext : (c :: current).reverse ++ cs = current.reverse ++ c :: cs := by simp
    exact htext ▸ (ih hnil).cons hline
  | case5 current c cs _ hc ih =>
    have h := ih (List.forall_mem_cons.2 ⟨Bool.eq_false_iff.2 hc, hcurrent⟩)
    rw [List.reverse_cons, List.append_assoc] at h
    exact h

/-- A text is completed at its end and nowhere else if all its lines are. -/
theorem linesOf_splitLines (text : List Char) : LinesOf (splitLines text) text :=
  linesOf_splitLinesFrom (fun _ hc => absurd hc List.not_mem_nil) text

/-- Characters without a line break go to the line that is under way. -/
theorem Plain.splitLinesFrom_append (h : Plain body) (current rest : List Char) :
    splitLinesFrom current (body ++ rest) = splitLinesFrom (body.reverse ++ current) rest := by
  induction body generalizing current with
  | nil => rfl
  | cons c body ih =>
    obtain ⟨hc, hbody⟩ := List.forall_mem_cons.1 h
    have hreturn : c ≠ '\r' := by
      rintro rfl
      cases hc
    have hplain : ¬ (c = '\n' || c = '\r') = true := Bool.eq_false_iff.1 hc
    rw [List.cons_append, splitLinesFrom, if_neg hplain, ih hbody, List.reverse_cons,
      List.append_assoc]
    · rfl
    · intro cs hcr
      exact absurd hcr hreturn

theorem Ended.splitLines_append (h : Ended line) (hrest : rest.head? ≠ some '\n') :
    splitLines (line ++ rest) = line :: splitLines rest := by
  unfold splitLines
  cases h with
  | newline plain =>
    rw [List.append_assoc, plain.splitLinesFrom_append]
    simp [splitLinesFrom]
  | both plain =>
    rw [List.append_assoc, plain.splitLinesFrom_append]
    simp [splitLinesFrom]
  | carriage plain =>
    rw [List.append_assoc, plain.splitLinesFrom_append]
    cases rest with
    | nil => simp [splitLinesFrom]
    | cons c rest =>
      have hc : c ≠ '\n' := by simpa using hrest
      simp [splitLinesFrom, hc]

/-- Lines that end in line breaks are found again in the text that they make up. -/
theorem splitLines_flatten {ls : List Line} (hended : ∀ l ∈ ls, Ended l)
    (hhead : ∀ l ∈ ls, l.head? ≠ some '\n') : splitLines ls.flatten = ls := by
  induction ls with
  | nil => rfl
  | cons l ls ih =>
    rw [List.forall_mem_cons] at hended hhead
    -- A carriage return at the end of a line must not meet a newline.
    have hrest : ls.flatten.head? ≠ some '\n' := by
      cases ls with
      | nil => exact (Option.some_ne_none _).symm
      | cons l' ls =>
        rw [List.forall_mem_cons] at hended hhead
        rw [List.flatten_cons, List.head?_append_of_ne_nil _ hended.2.1.ne_nil]
        exact hhead.2.1
    rw [List.flatten_cons, hended.1.splitLines_append hrest, ih hended.2 hhead.2]

/-! ## Completed diffs -/

/-- The entries of a diff with all lines ended. -/
def endedEntries (es : List DiffEntry) : List DiffEntry :=
  es.map fun e => ⟨e.mark, withBreak e.line⟩

theorem linesWithout_endedEntries (mark : Mark) (es : List DiffEntry) :
    linesWithout mark (endedEntries es) = (linesWithout mark es).map withBreak := by
  unfold linesWithout endedEntries
  rw [List.filter_map, List.map_map, List.map_map]
  rfl

theorem oldLines_endedEntries (es : List DiffEntry) :
    oldLines (endedEntries es) = (oldLines es).map withBreak :=
  linesWithout_endedEntries .added es

theorem newLines_endedEntries (es : List DiffEntry) :
    newLines (endedEntries es) = (newLines es).map withBreak :=
  linesWithout_endedEntries .removed es

theorem mem_linesWithout {es : List DiffEntry} {e : DiffEntry} {mark : Mark} (he : e ∈ es)
    (hmark : e.mark ≠ mark) : e.line ∈ linesWithout mark es :=
  List.mem_map_of_mem (List.mem_filter.2 ⟨he, bne_iff_ne.2 hmark⟩)

theorem ended_of_mem_endedEntries {old new : List Char} {e : DiffEntry}
    (he : e ∈ endedEntries (lineDiff old new)) : Ended e.line := by
  obtain ⟨e, hmem, rfl⟩ := List.mem_map.1 he
  obtain ⟨hold, hnew⟩ := lines_lineDiff old new
  -- An added line is one of the second text, any other line is one of the first.
  by_cases hadded : e.mark = .added
  · have hremoved : e.mark ≠ .removed := by
      rw [hadded]
      exact Mark.noConfusion
    exact (linesOf_splitLines new).ended _ (hnew ▸ mem_linesWithout hmem hremoved)
  · exact (linesOf_splitLines old).ended _ (hold ▸ mem_linesWithout hmem hadded)

theorem flatten_endedEntries (old new : List Char) :
    (oldLines (endedEntries (lineDiff old new))).flatten = completeText old ∧
      (newLines (endedEntries (lineDiff old new))).flatten = completeText new := by
  obtain ⟨hold, hnew⟩ := lines_lineDiff old new
  rw [oldLines_endedEntries, newLines_endedEntries, hold, hnew]
  exact ⟨(linesOf_splitLines old).flatten_eq, (linesOf_splitLines new).flatten_eq⟩

/-- With all lines ended, a diff turns one completed text into the other. -/
theorem patch_endedEntries (old new : List Char) :
    patch (endedEntries (lineDiff old new)) (completeText old) = some (completeText new) :=
  patch_eq_some_iff.2 (flatten_endedEntries old new)

end Completing

end SourcePatch.Diff
