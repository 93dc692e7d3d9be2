import Mathlib.Data.List.Chain
import Mathlib.Data.List.Find
import SourcePatch.Proofs.Text.LineBreaks
import SourcePatch.Rule.ImplBlock

/-!
# Blocks around texts

The block around a part of a source is put together from what comes before the part, the part
itself, and what comes after it.

* `ImplBlock.around_append`: a block is its end before the part, the part, and its beginning after
  it.
* `ImplBlock.blockBefore_append` and `ImplBlock.blockAfter_append` follow a text that is put
  together from others.
* `ImplBlock.isOpener_append_congr`: what opens a block is seen in the first characters of a line.
* `ImplBlock.Calm` texts have no line that opens a block.
* `ImplBlock.Keeps` compares blocks of two texts by the guard that they have.
* `ImplBlock.blockBefore_withCrlf` and `ImplBlock.blockAfter_withCrlf`: a carriage return in front of
  each newline moves no border of a block.
-/

namespace SourcePatch

open Text

namespace ImplBlock

/-- The part of a text from its last opening line on, or all of it if there is none. The text goes
on with `more`, which may complete its last line. -/
def blockBefore (text more : List Char) : List Char :=
  text.drop (startOf (text ++ more) text.length)

/-- The part of a text up to its first opening line, or all of it if there is none. The line that
the text begins in is not one of its own. -/
def blockAfter (text : List Char) : List Char := text.take (endOf text 0)

theorem startOf_le (text more : List Char) : startOf (text ++ more) text.length ≤ text.length := by
  rw [startOf, List.take_left]
  cases hfind : (lineStarts text).reverse.find? fun pos => isOpener ((text ++ more).drop pos) with
  | none => exact Nat.zero_le _
  | some pos => exact le_of_mem_lineStarts (List.mem_reverse.1 (List.mem_of_find?_eq_some hfind))

theorem endOf_append (text more : List Char) :
    endOf (text ++ more) text.length = text.length + endOf more 0 := by
  have hdrop : ((fun pos => isOpener ((text ++ more).drop pos)) ∘ (text.length + ·))
      = fun pos => isOpener (more.drop pos) := by
    funext pos
    simp only [Function.comp_apply]
    rw [← List.drop_drop, List.drop_left]
  rw [endOf, List.drop_left, afterNewlines_eq_map, List.find?_map, hdrop, endOf, List.drop_zero]
  cases (afterNewlines 0 more).find? fun pos => isOpener (more.drop pos) with
  | none => rw [Option.map_none, Option.getD_none, Option.getD_none, List.length_append]
  | some pos => rfl

/-- The block around a part of a source: what comes before the part, the part itself, and what
comes after it. -/
theorem around_append (before text after : List Char) :
    around (before ++ (text ++ after)) before.length (before.length + text.length)
      = blockBefore before (text ++ after) ++ (text ++ blockAfter after) := by
  have hstart := startOf_le before (text ++ after)
  have hend := endOf_append (before ++ text) after
  rw [List.append_assoc, List.length_append] at hend
  rw [around, hend, blockBefore, blockAfter, slice,
    List.drop_append_of_le_length hstart]
  generalize startOf (before ++ (text ++ after)) before.length = first at hstart ⊢
  -- The block reaches beyond the part by what the end adds to it.
  have hlength : before.length + text.length + endOf after 0 - first
      = (before.drop first ++ text).length + endOf after 0 := by
    rw [List.length_append, List.length_drop]
    omega
  rw [hlength, ← List.append_assoc, List.take_length_add_append, List.append_assoc]

/-- What comes before the end of a longer text: from its last opening line on, if the part that was
added has one. -/
theorem blockBefore_append (xs ys more : List Char) :
    blockBefore (xs ++ ys) more =
      match (afterNewlines 0 ys).reverse.find? fun pos => isOpener ((ys ++ more).drop pos) with
      | some pos => ys.drop pos
      | none => blockBefore xs (ys ++ more) ++ ys := by
  have hdrop : ((fun pos => isOpener ((xs ++ (ys ++ more)).drop pos)) ∘ (xs.length + ·))
      = fun pos => isOpener ((ys ++ more).drop pos) := by
    funext pos
    simp only [Function.comp_apply]
    rw [← List.drop_drop, List.drop_left]
  -- The search goes backwards, so a line of the part that was added comes first.
  have hstart : startOf (xs ++ (ys ++ more)) (xs ++ ys).length =
      match (afterNewlines 0 ys).reverse.find? fun pos => isOpener ((ys ++ more).drop pos) with
      | some pos => xs.length + pos
      | none => startOf (xs ++ (ys ++ more)) xs.length := by
    rw [startOf, startOf, List.take_left, ← List.append_assoc, List.take_left, lineStarts,
      afterNewlines_append, ← List.cons_append, List.reverse_append, List.find?_append,
      ← List.map_reverse, List.find?_map, List.append_assoc, hdrop]
    cases (afterNewlines 0 ys).reverse.find? fun pos => isOpener ((ys ++ more).drop pos) with
    | none => rfl
    | some pos => rfl
  rw [blockBefore, List.append_assoc, hstart]
  cases (afterNewlines 0 ys).reverse.find? fun pos => isOpener ((ys ++ more).drop pos) with
  | none => exact List.drop_append_of_le_length (startOf_le xs (ys ++ more))
  | some pos =>
    simp only
    rw [← List.drop_drop, List.drop_left]

/-- What comes after the beginning of a longer text: up to its first opening line, if that is in
the part that was put in front. -/
theorem blockAfter_append (xs ys : List Char) :
    blockAfter (xs ++ ys) =
      match (afterNewlines 0 xs).find? fun pos => isOpener ((xs ++ ys).drop pos) with
      | some pos => xs.take pos
      | none => xs ++ blockAfter ys := by
  have hdrop : ((fun pos => isOpener ((xs ++ ys).drop pos)) ∘ (xs.length + ·))
      = fun pos => isOpener (ys.drop pos) := by
    funext pos
    simp only [Function.comp_apply]
    rw [← List.drop_drop, List.drop_left]
  rw [blockAfter, endOf, List.drop_zero, afterNewlines_append, List.find?_append, List.find?_map,
    hdrop]
  cases hfind : (afterNewlines 0 xs).find? fun pos => isOpener ((xs ++ ys).drop pos) with
  | none =>
    rw [blockAfter, endOf, List.drop_zero, Option.none_or]
    cases (afterNewlines 0 ys).find? fun pos => isOpener (ys.drop pos) with
    | none =>
      rw [Option.map_none, Option.getD_none, Option.getD_none, List.take_length, List.take_length]
    | some pos => exact List.take_length_add_append pos
  | some pos =>
    have hle := le_of_mem_afterNewlines (List.mem_of_find?_eq_some hfind)
    exact List.take_append_of_le_length hle

/-! ## Opening lines -/

theorem isPrefixOf_append {p xs : List Char} (h : p.length ≤ xs.length) (ys : List Char) :
    p.isPrefixOf (xs ++ ys) = p.isPrefixOf xs := by
  rw [Bool.eq_iff_iff, List.isPrefixOf_iff_prefix, List.isPrefixOf_iff_prefix]
  constructor
  · intro hp
    exact List.prefix_of_prefix_length_le hp (List.prefix_append xs ys) h
  · intro hp
    exact hp.trans (List.prefix_append xs ys)

/-- Whether a line opens a block is seen in its first characters: what stands behind a visible text
of five characters does not matter. -/
theorem isOpener_append_congr {c : Char} {cs : List Char} (hvisible : Blank.isBlank c = false)
    (hline : '\n' ∉ c :: cs) (hlength : 5 ≤ (c :: cs).length) (text more more' : List Char) :
    isOpener (text ++ (c :: cs ++ more)) = isOpener (text ++ (c :: cs ++ more')) := by
  -- The text decides alone if it ends the line, and otherwise together with the visible part.
  have hkept : ∀ d ∈ c :: cs, (d != '\n') = true := by
    intro d hd
    rw [bne_iff_ne]
    rintro rfl
    exact hline hd
  have hdecided (line rest : List Char) (hle : 5 ≤ line.length) :
      ("impl ".toList.isPrefixOf (line ++ rest) || "impl<".toList.isPrefixOf (line ++ rest))
        = ("impl ".toList.isPrefixOf line || "impl<".toList.isPrefixOf line) := by
    rw [isPrefixOf_append (by simpa using hle), isPrefixOf_append (by simpa using hle)]
  have hstable (more : List Char) : isOpener (text ++ (c :: cs ++ more)) =
      if (text.takeWhile (· != '\n')).length = text.length then
        "impl ".toList.isPrefixOf (Blank.trimStart text ++ c :: cs)
          || "impl<".toList.isPrefixOf (Blank.trimStart text ++ c :: cs)
      else isOpener text := by
    unfold isOpener
    rw [List.takeWhile_append, List.takeWhile_append_of_pos hkept]
    split
    · have htrim : Blank.trimStart (text ++ (c :: cs ++ more.takeWhile (· != '\n')))
          = (Blank.trimStart text ++ c :: cs) ++ more.takeWhile (· != '\n') := by
        rw [Blank.trimStart, List.dropWhile_append, List.cons_append, List.dropWhile_cons, hvisible,
          Blank.trimStart]
        split
        · rename_i hempty
          rw [List.isEmpty_iff.1 hempty]
          rfl
        · rw [List.append_assoc]
          rfl
      rw [htrim]
      refine hdecided _ _ ?_
      rw [List.length_append]
      omega
    · rfl
  rw [hstable, hstable]

theorem trimStart_append {blanks : List Char} (h : ∀ d ∈ blanks, Blank.isBlank d = true)
    (rest : List Char) : Blank.trimStart (blanks ++ rest) = Blank.trimStart rest :=
  List.dropWhile_append_of_pos h

/-- A line that opens a block shows an `i` first. -/
theorem eq_of_isOpener {blanks rest : List Char} {c : Char}
    (hblanks : ∀ d ∈ blanks, Blank.isBlank d = true) (hc : Blank.isBlank c = false)
    (h : isOpener (blanks ++ c :: rest) = true) : c = 'i' := by
  have hne : (c != '\n') = true := by
    rw [bne_iff_ne]
    rintro rfl
    rw [Blank.isBlank_newline] at hc
    cases hc
  unfold isOpener at h
  rw [List.takeWhile_append] at h
  split at h
  · rw [trimStart_append hblanks, List.takeWhile_cons, if_pos hne, Blank.trimStart,
      List.dropWhile_cons, hc] at h
    rcases Bool.or_eq_true_iff.1 h with h | h
    · exact (List.cons_prefix_cons.1 (List.isPrefixOf_iff_prefix.1 h)).1.symm
    · exact (List.cons_prefix_cons.1 (List.isPrefixOf_iff_prefix.1 h)).1.symm
  · have hblanks' : ∀ d ∈ blanks.takeWhile (· != '\n'), Blank.isBlank d = true :=
      fun d hd => hblanks d (List.takeWhile_subset (· != '\n') hd)
    have hline := trimStart_append hblanks' []
    rw [List.append_nil] at hline
    rw [hline] at h
    cases h

theorem exists_visible {text : List Char} (h : ∃ c ∈ text, Blank.isBlank c = false) :
    ∃ blanks c rest, text = blanks ++ c :: rest ∧ (∀ d ∈ blanks, Blank.isBlank d = true) ∧
      Blank.isBlank c = false := by
  obtain ⟨c, hc, hvisible⟩ := h
  induction text with
  | nil => cases hc
  | cons d ds ih =>
    by_cases hd : Blank.isBlank d = true
    · have hmem : c ∈ ds := by
        rcases List.mem_cons.1 hc with rfl | hmem
        · rw [hd] at hvisible
          cases hvisible
        · exact hmem
      obtain ⟨blanks, e, rest, rfl, hblanks, he⟩ := ih hmem
      exact ⟨d :: blanks, e, rest, rfl, List.forall_mem_cons.2 ⟨hd, hblanks⟩, he⟩
    · exact ⟨[], d, ds, rfl, by simp, by simpa using hd⟩

/-- No line that begins in the text opens a block, whatever follows the text. -/
def Calm (text : List Char) : Prop :=
  ∀ more, ∀ pos ∈ afterNewlines 0 text, isOpener ((text ++ more).drop pos) = false

/-- A text is calm if it ends with a visible character and has no `i` directly behind a blank. -/
theorem calm_of_isChain {text : List Char} {c : Char} (hc : Blank.isBlank c = false)
    (h : (text ++ [c]).IsChain fun a b => Blank.isBlank a = true → b ≠ 'i') :
    Calm (text ++ [c]) := by
  intro more pos hpos
  obtain ⟨before, line, hsplit, rfl⟩ := mem_afterNewlines hpos
  rw [Bool.eq_false_iff]
  intro hopener
  -- The line has a visible character of the text, and the first one of them would be the `i`.
  have hvisible : ∃ d ∈ line, Blank.isBlank d = false := by
    refine ⟨c, ?_, hc⟩
    have hlast := congrArg List.getLast? hsplit
    rw [List.getLast?_concat, List.getLast?_append, List.getLast?_cons] at hlast
    cases hline : line.getLast? with
    | none =>
      rw [List.getLast?_eq_none_iff] at hline
      subst hline
      obtain rfl : c = '\n' := by simpa using hlast
      rw [Blank.isBlank_newline] at hc
      cases hc
    | some d =>
      rw [hline] at hlast
      obtain rfl : c = d := by simpa using hlast
      exact List.mem_of_getLast? hline
  obtain ⟨blanks, d, rest, rfl, hblanks, hd⟩ := exists_visible hvisible
  rw [hsplit, List.append_assoc, List.cons_append] at hopener
  have hdrop : (before ++ '\n' :: (blanks ++ d :: rest ++ more)).drop (before.length + 1)
      = blanks ++ d :: (rest ++ more) := by
    rw [← List.drop_drop, List.drop_left, List.drop_one, List.tail_cons, List.append_assoc]
    rfl
  rw [hdrop] at hopener
  obtain rfl := eq_of_isOpener hblanks hd hopener
  obtain ⟨blanks', a, hlast, ha⟩ : ∃ blanks' a, '\n' :: blanks = blanks' ++ [a] ∧
      Blank.isBlank a = true := by
    have hne : '\n' :: blanks ≠ [] := by simp
    refine ⟨_, _, (List.dropLast_concat_getLast hne).symm, ?_⟩
    rcases List.mem_cons.1 (List.getLast_mem hne) with heq | hmem
    · rw [heq]
      exact Blank.isBlank_newline
    · exact hblanks _ hmem
  have hpair : before ++ '\n' :: (blanks ++ 'i' :: rest)
      = (before ++ blanks') ++ a :: 'i' :: rest := by
    rw [← List.cons_append, hlast]
    simp
  rw [hsplit, hpair] at h
  exact (List.isChain_append_cons_cons.1 h).2.1 ha rfl

/-! ## Keeping a guard -/

/-- Is the second text the first one, or does it have the guard anyway? -/
def Keeps (guard before after : List Char) : Prop := before = after ∨ guard <:+: after

namespace Keeps

variable {guard xs xs' ys ys' : List Char}

theorem append_right (h : Keeps guard xs xs') (ys : List Char) :
    Keeps guard (xs ++ ys) (xs' ++ ys) := by
  rcases h with rfl | h
  · exact Or.inl rfl
  · exact Or.inr (h.trans (List.prefix_append xs' ys).isInfix)

theorem append_left (h : Keeps guard ys ys') (xs : List Char) :
    Keeps guard (xs ++ ys) (xs ++ ys') := by
  rcases h with rfl | h
  · exact Or.inl rfl
  · exact Or.inr (h.trans (List.suffix_append xs ys').isInfix)

/-- A guard in a text that is put together from kept ones is still there. -/
theorem infix_append (hxs : Keeps guard xs xs') (hys : Keeps guard ys ys')
    (h : guard <:+: xs ++ ys) : guard <:+: xs' ++ ys' := by
  rcases hxs.append_right ys with heq | hguard
  · rcases hys.append_left xs' with heq' | hguard
    · rwa [← heq', ← heq]
    · exact hguard
  · rcases hys.append_left xs' with heq' | hguard'
    · rwa [← heq']
    · exact hguard'

end Keeps

section Blocks

variable {guard xs xs' ys ys' more more' : List Char}

/-- What follows a text matters for its last line only. -/
theorem blockBefore_congr
    (h : ∀ pos ≤ xs.length, isOpener ((xs ++ more).drop pos) = isOpener ((xs ++ more').drop pos)) :
    blockBefore xs more = blockBefore xs more' := by
  have hstart : startOf (xs ++ more) xs.length = startOf (xs ++ more') xs.length := by
    rw [startOf, startOf, List.take_left, List.take_left]
    refine congrArg (Option.getD · 0) (List.find?_congr fun pos hpos => h pos ?_)
    exact le_of_mem_lineStarts (List.mem_reverse.1 hpos)
  rw [blockBefore, blockBefore, hstart]

/-- A calm text belongs to the block before it. -/
theorem Calm.blockBefore_append (h : Calm ys) :
    blockBefore (xs ++ ys) more = blockBefore xs (ys ++ more) ++ ys := by
  have hnone : (afterNewlines 0 ys).reverse.find? (fun pos => isOpener ((ys ++ more).drop pos))
      = none := by
    rw [List.find?_eq_none]
    intro pos hpos
    rw [h more pos (List.mem_reverse.1 hpos)]
    decide
  rw [ImplBlock.blockBefore_append, hnone]

/-- A calm text belongs to the block after it. -/
theorem Calm.blockAfter_append (h : Calm xs) : blockAfter (xs ++ ys) = xs ++ blockAfter ys := by
  have hnone : (afterNewlines 0 xs).find? (fun pos => isOpener ((xs ++ ys).drop pos)) = none := by
    rw [List.find?_eq_none]
    intro pos hpos
    rw [h ys pos hpos]
    decide
  rw [ImplBlock.blockAfter_append, hnone]

/-- A guard is kept before a text that is added to both sides. -/
theorem keeps_blockBefore_append
    (h : ∀ more, Keeps guard (blockBefore xs more) (blockBefore xs' more)) (ys more : List Char) :
    Keeps guard (blockBefore (xs ++ ys) more) (blockBefore (xs' ++ ys) more) := by
  rw [blockBefore_append, blockBefore_append]
  cases (afterNewlines 0 ys).reverse.find? fun pos => isOpener ((ys ++ more).drop pos) with
  | none => exact (h (ys ++ more)).append_right ys
  | some pos => exact Or.inl rfl

/-- A guard is kept after a text that is put in front of both sides. -/
theorem keeps_blockAfter_append
    (hopener : ∀ pos ≤ xs.length, isOpener ((xs ++ ys).drop pos) = isOpener ((xs ++ ys').drop pos))
    (h : Keeps guard (blockAfter ys) (blockAfter ys')) :
    Keeps guard (blockAfter (xs ++ ys)) (blockAfter (xs ++ ys')) := by
  have hfind : (afterNewlines 0 xs).find? (fun pos => isOpener ((xs ++ ys).drop pos))
      = (afterNewlines 0 xs).find? fun pos => isOpener ((xs ++ ys').drop pos) :=
    List.find?_congr fun pos hpos => hopener pos (le_of_mem_afterNewlines hpos)
  rw [blockAfter_append, blockAfter_append, hfind]
  cases (afterNewlines 0 xs).find? fun pos => isOpener ((xs ++ ys').drop pos) with
  | none => exact h.append_left xs
  | some pos => exact Or.inl rfl

end Blocks

/-! ## Carriage returns -/

theorem takeWhile_withCrlf (rest : List Char) :
    (withCrlf rest).takeWhile (· != '\n') = rest.takeWhile (· != '\n') ∨
      (withCrlf rest).takeWhile (· != '\n') = rest.takeWhile (· != '\n') ++ ['\r'] := by
  induction rest with
  | nil => exact Or.inl rfl
  | cons c cs ih =>
    by_cases hc : c = '\n'
    · subst hc
      exact Or.inr rfl
    · have hkept (ds : List Char) :
          (c :: ds).takeWhile (· != '\n') = c :: ds.takeWhile (· != '\n') :=
        List.takeWhile_cons_of_pos (bne_iff_ne.2 hc)
      rw [withCrlf, if_neg hc, hkept, hkept]
      exact ih.imp (congrArg (c :: ·)) (congrArg (c :: ·))

/-- A carriage return at the end of a line does not matter for what its first text is. -/
theorem isPrefixOf_trimStart_concat {p : List Char} (hp : '\r' ∉ p) (line : List Char) :
    p.isPrefixOf (Blank.trimStart (line ++ ['\r'])) = p.isPrefixOf (Blank.trimStart line) := by
  rw [Blank.trimStart, List.dropWhile_append, ← Blank.trimStart]
  split
  · rename_i hempty
    rw [List.isEmpty_iff.1 hempty]
    rfl
  · rw [Bool.eq_iff_iff, List.isPrefixOf_iff_prefix, List.isPrefixOf_iff_prefix,
      List.prefix_concat_iff, or_iff_right]
    rintro rfl
    exact hp (by simp)

theorem isOpener_withCrlf (rest : List Char) : isOpener (withCrlf rest) = isOpener rest := by
  rw [isOpener, isOpener]
  rcases takeWhile_withCrlf rest with hline | hline
  · rw [hline]
  · rw [hline, isPrefixOf_trimStart_concat (by decide), isPrefixOf_trimStart_concat (by decide)]

theorem blockBefore_withCrlf (text more : List Char) :
    blockBefore (withCrlf text) (withCrlf more) = withCrlf (blockBefore text more) := by
  have hstarts : lineStarts (withCrlf text) = (lineStarts text).map (crlfPosition text) := by
    rw [lineStarts, afterNewlines_withCrlf]
    rfl
  have hstart : startOf (withCrlf text ++ withCrlf more) (withCrlf text).length
      = crlfPosition text (startOf (text ++ more) text.length) := by
    rw [startOf, startOf, List.take_left, List.take_left, hstarts, ← List.map_reverse,
      List.find?_map, ← withCrlf_append]
    -- A position of the text is one of the whole, and comes to lie at the same place in both.
    have hopener : (lineStarts text).reverse.find?
          ((fun pos => isOpener ((withCrlf (text ++ more)).drop pos)) ∘ crlfPosition text)
        = (lineStarts text).reverse.find? fun pos => isOpener ((text ++ more).drop pos) := by
      refine List.find?_congr fun pos hpos => ?_
      have hle := le_of_mem_lineStarts (List.mem_reverse.1 hpos)
      have hposition : crlfPosition text pos = crlfPosition (text ++ more) pos := by
        rw [crlfPosition, crlfPosition, List.take_append_of_le_length hle]
      rw [Function.comp_apply, hposition, drop_withCrlf, isOpener_withCrlf]
    rw [hopener]
    cases (lineStarts text).reverse.find? fun pos => isOpener ((text ++ more).drop pos) with
    | none => rfl
    | some pos => rfl
  rw [blockBefore, hstart, drop_withCrlf, blockBefore]

theorem blockAfter_withCrlf (text : List Char) :
    blockAfter (withCrlf text) = withCrlf (blockAfter text) := by
  have hend : endOf (withCrlf text) 0 = crlfPosition text (endOf text 0) := by
    have hopener : (fun pos => isOpener ((withCrlf text).drop pos)) ∘ crlfPosition text
        = fun pos => isOpener (text.drop pos) := by
      funext pos
      rw [Function.comp_apply, drop_withCrlf, isOpener_withCrlf]
    rw [endOf, endOf, List.drop_zero, List.drop_zero, afterNewlines_withCrlf, List.find?_map,
      hopener]
    cases (afterNewlines 0 text).find? fun pos => isOpener (text.drop pos) with
    | none =>
      rw [Option.map_none, Option.getD_none, Option.getD_none, crlfPosition, List.take_length]
    | some pos => rfl
  rw [blockAfter, hend, take_withCrlf, blockAfter]

end ImplBlock

end SourcePatch
