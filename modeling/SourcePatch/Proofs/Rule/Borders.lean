import Mathlib.Data.List.TakeWhile
import Mathlib.Order.Bounds.Basic
import SourcePatch.Proofs.Rule.Edits
import SourcePatch.Proofs.Text.Lines

/-!
# Borders of blocks

A block begins with the last line up to a match that opens an `impl`, and ends before the next line
that does. Borders are octet offsets, as are the ends of the match.

* `ImplBlock.Opens` and `ImplBlock.OpensAt`: which lines open a block, and where they begin.
* `ImplBlock.StartsBlock` and `ImplBlock.EndsBlock` are the borders, as a greatest and a least
  offset; `ImplBlock.startsBlock_startOf` and `ImplBlock.endsBlock_endOf` say which of them the
  searches find.
* `ImplBlock.isBlock_around`: the text that is searched for the guard is the block that ends behind
  the match, not at its end.
* `InsertionRule.skipped_iff_guardStands`: which matches are skipped. A line that begins where the
  match ends does not end the block, so that the next block may decide
  (`skipped_by_following_block`).
-/

namespace SourcePatch

open SourcePatch.Text

namespace ImplBlock

/-! ## Opening lines -/

/-- Is `impl ` or `impl<` the first visible text of the line at the front of the text? -/
def Opens (rest : List Char) : Prop :=
  ∃ blanks line, rest = blanks ++ line ∧ (∀ c ∈ blanks, Blank.isBlank c = true ∧ c ≠ '\n') ∧
    ("impl ".toList <+: line ∨ "impl<".toList <+: line)

/-- Does a line that opens a block begin at an offset? -/
def OpensAt (source : List Char) (offset : Nat) : Prop :=
  ∃ before rest, source = before ++ rest ∧ Utf8.size before = offset ∧
    (before = [] ∨ before.getLast? = some '\n') ∧ Opens rest

variable {source : List Char} {first last offset stop : Nat}

theorem isOpener_iff {rest : List Char} : isOpener rest = true ↔ Opens rest := by
  rw [isOpener, Bool.or_eq_true, List.isPrefixOf_iff_prefix, List.isPrefixOf_iff_prefix]
  constructor
  · intro h
    have hline : rest.takeWhile (· != '\n')
        = (rest.takeWhile (· != '\n')).takeWhile Blank.isBlank
          ++ Blank.trimStart (rest.takeWhile (· != '\n')) :=
      List.takeWhile_append_dropWhile.symm
    refine ⟨(rest.takeWhile (· != '\n')).takeWhile Blank.isBlank,
      Blank.trimStart (rest.takeWhile (· != '\n')) ++ rest.dropWhile (· != '\n'), ?_, ?_, ?_⟩
    · rw [← List.append_assoc, ← hline, List.takeWhile_append_dropWhile]
    · intro c hc
      have hkept : (c != '\n') = true := by
        simpa using List.mem_takeWhile_imp (List.takeWhile_subset _ hc)
      exact ⟨List.mem_takeWhile_imp hc, bne_iff_ne.1 hkept⟩
    · exact h.imp (·.trans (List.prefix_append _ _)) (·.trans (List.prefix_append _ _))
  · rintro ⟨blanks, line, rfl, hblanks, hline⟩
    have hkept : ∀ c ∈ blanks, (c != '\n') = true := fun c hc => bne_iff_ne.2 (hblanks c hc).2
    rw [List.takeWhile_append_of_pos hkept, Blank.trimStart,
      List.dropWhile_append_of_pos fun c hc => (hblanks c hc).1]
    rcases hline with ⟨more, rfl⟩ | ⟨more, rfl⟩
    · exact Or.inl (List.prefix_append "impl ".toList (more.takeWhile (· != '\n')))
    · exact Or.inr (List.prefix_append "impl<".toList (more.takeWhile (· != '\n')))

/-- The offsets of opening lines are those of the positions that the searches stop at. -/
theorem opensAt_iff : OpensAt source offset ↔
    ∃ pos ∈ lineStarts source, isOpener (source.drop pos) = true ∧
      Utf8.size (source.take pos) = offset := by
  constructor
  · rintro ⟨before, rest, rfl, rfl, hline, hopens⟩
    refine ⟨before.length, mem_lineStarts_iff.2 ⟨by simp, ?_⟩, ?_, ?_⟩
    · rwa [List.take_left]
    · rw [List.drop_left]
      exact isOpener_iff.2 hopens
    · rw [List.take_left]
  · rintro ⟨pos, hpos, hopener, rfl⟩
    exact ⟨source.take pos, source.drop pos, (List.take_append_drop pos source).symm, rfl,
      (mem_lineStarts_iff.1 hpos).2, isOpener_iff.1 hopener⟩

instance (source : List Char) (offset : Nat) : Decidable (OpensAt source offset) :=
  decidable_of_iff' _ opensAt_iff

/-! ## Borders -/

/-- The block of what begins at an offset starts with the last line up to there that opens a block,
or with the text. -/
def StartsBlock (source : List Char) (offset start : Nat) : Prop :=
  IsGreatest {o | o = 0 ∨ OpensAt source o ∧ o ≤ offset} start

/-- The block of what ends at an offset stops before the first line from there on that opens a
block, or with the text. -/
def EndsBlock (source : List Char) (offset stop : Nat) : Prop :=
  IsLeast {o | o = Utf8.size source ∨ OpensAt source o ∧ offset ≤ o} stop

/-- What a search in an ordered list finds is a hit, or the fallback behind the whole list, and no
other hit comes before it. -/
theorem rel_getD_find? {r : Nat → Nat → Prop} (hrefl : ∀ a, r a a) {xs : List Nat}
    (hsorted : xs.Pairwise r) {fallback : Nat} (hfallback : ∀ a ∈ xs, r a fallback) (p : Nat → Bool) :
    ((xs.find? p).getD fallback = fallback ∨
      (xs.find? p).getD fallback ∈ xs ∧ p ((xs.find? p).getD fallback) = true) ∧
    ∀ b, b = fallback ∨ b ∈ xs ∧ p b = true → r ((xs.find? p).getD fallback) b := by
  cases hfind : xs.find? p with
  | none =>
    refine ⟨Or.inl rfl, ?_⟩
    rintro b (rfl | ⟨hb, hp⟩)
    · exact hrefl b
    · exact absurd hp (List.find?_eq_none.1 hfind b hb)
  | some a =>
    have hmem := List.mem_of_find?_eq_some hfind
    refine ⟨Or.inr ⟨hmem, List.find?_some hfind⟩, ?_⟩
    rintro b (rfl | ⟨hb, hp⟩)
    · exact hfallback a hmem
    · obtain ⟨-, before, after, rfl, hbefore⟩ := List.find?_eq_some_iff_append.1 hfind
      rcases List.mem_append.1 hb with hb | hb
      · have hnot := hbefore b hb
        rw [hp] at hnot
        cases hnot
      rcases List.mem_cons.1 hb with rfl | hb
      · exact hrefl b
      · exact (List.pairwise_cons.1 (List.pairwise_append.1 hsorted).2.1).1 b hb

/-- The search for the beginning finds the last opening line up to the position. -/
theorem isGreatest_startOf (h : first ≤ source.length) :
    IsGreatest {pos | pos = 0 ∨
      (pos ∈ lineStarts source ∧ pos ≤ first) ∧ isOpener (source.drop pos) = true}
      (startOf source first) := by
  have hsorted : (lineStarts (source.take first)).reverse.Pairwise (· ≥ ·) :=
    List.pairwise_reverse.2 ((pairwise_lineStarts _).imp Nat.le_of_lt)
  have hfound := rel_getD_find? (r := (· ≥ ·)) Nat.le_refl hsorted (fun a _ => Nat.zero_le a)
    fun pos => isOpener (source.drop pos)
  simp only [List.mem_reverse, mem_lineStarts_take_iff h] at hfound
  exact hfound

/-- The search for the end finds the first opening line behind the position. -/
theorem isLeast_endOf (h : last ≤ source.length) :
    IsLeast {pos | pos = source.length ∨
      (pos ∈ lineStarts source ∧ last < pos) ∧ isOpener (source.drop pos) = true}
      (endOf source last) := by
  have hsorted := (pairwise_afterNewlines last (source.drop last)).imp Nat.le_of_lt
  have hfallback : ∀ pos ∈ afterNewlines last (source.drop last), pos ≤ source.length :=
    fun pos hpos => le_of_mem_lineStarts ((mem_afterNewlines_drop_iff h).1 hpos).1
  have hfound := rel_getD_find? Nat.le_refl hsorted hfallback
    fun pos => isOpener (source.drop pos)
  simp only [mem_afterNewlines_drop_iff h] at hfound
  exact hfound

theorem startsBlock_startOf (h : first ≤ source.length) :
    StartsBlock source (Utf8.size (source.take first))
      (Utf8.size (source.take (startOf source first))) := by
  obtain ⟨hmem, hgreatest⟩ := isGreatest_startOf h
  constructor
  · rcases hmem with hzero | ⟨⟨hline, hle⟩, hopener⟩
    · rw [hzero]
      exact Or.inl rfl
    · exact Or.inr ⟨opensAt_iff.2 ⟨_, hline, hopener, rfl⟩, Utf8.size_take_le source hle⟩
  · rintro o (rfl | ⟨hopens, hle⟩)
    · exact Nat.zero_le _
    · obtain ⟨pos, hline, hopener, rfl⟩ := opensAt_iff.1 hopens
      have hpos : pos ≤ first := by
        by_contra hlt
        have := Utf8.size_take_lt source (Nat.not_le.1 hlt) (le_of_mem_lineStarts hline)
        omega
      exact Utf8.size_take_le source (hgreatest (Or.inr ⟨⟨hline, hpos⟩, hopener⟩))

/-- The search for the end begins behind the offset: a line that begins there is passed over. -/
theorem endsBlock_endOf (h : last ≤ source.length) :
    EndsBlock source (Utf8.size (source.take last) + 1)
      (Utf8.size (source.take (endOf source last))) := by
  obtain ⟨hmem, hleast⟩ := isLeast_endOf h
  constructor
  · rcases hmem with hlength | ⟨⟨hline, hlt⟩, hopener⟩
    · rw [hlength, List.take_length]
      exact Or.inl rfl
    · exact Or.inr ⟨opensAt_iff.2 ⟨_, hline, hopener, rfl⟩,
        Utf8.size_take_lt source hlt (le_of_mem_lineStarts hline)⟩
  · rintro o (rfl | ⟨hopens, hle⟩)
    · exact Utf8.size_take_le_size source _
    · obtain ⟨pos, hline, hopener, rfl⟩ := opensAt_iff.1 hopens
      have hpos : last < pos := by
        by_contra hlt
        have := Utf8.size_take_le source (Nat.not_lt.1 hlt)
        omega
      exact Utf8.size_take_le source (hleast (Or.inr ⟨⟨hline, hpos⟩, hopener⟩))

/-- Where no line opens a block at an offset, it does not matter whether one there would count. -/
theorem endsBlock_succ_iff (h : ¬ OpensAt source offset) :
    EndsBlock source (offset + 1) stop ↔ EndsBlock source offset stop := by
  have hsame : {o | o = Utf8.size source ∨ OpensAt source o ∧ offset + 1 ≤ o}
      = {o | o = Utf8.size source ∨ OpensAt source o ∧ offset ≤ o} := by
    ext o
    refine or_congr_right (and_congr_right fun hopens => ?_)
    have hne : o ≠ offset := by
      rintro rfl
      exact h hopens
    omega
  rw [EndsBlock, EndsBlock, hsame]

/-! ## Blocks -/

/-- The block around the octets from `first` up to `last`: what lies between its borders. -/
def IsBlock (source : List Char) (first last : Nat) (block : List Char) : Prop :=
  ∃ before after, source = before ++ (block ++ after) ∧
    StartsBlock source first (Utf8.size before) ∧
    EndsBlock source last (Utf8.size (before ++ block))

/-- Does the block around the octets from `first` up to `last` have the guard? -/
def GuardStands (source : List Char) (guard : String) (first last : Nat) : Prop :=
  ∃ block, IsBlock source first last block ∧ guard.toList <:+: block

/-- The block that ends at or after a later offset goes on further. -/
theorem IsBlock.isPrefix {block block' : List Char} {last' : Nat}
    (h : IsBlock source first last block) (h' : IsBlock source first last' block')
    (hle : last ≤ last') : block <+: block' := by
  obtain ⟨before, after, hsource, hstart, hstop⟩ := h
  obtain ⟨before', after', hsource', hstart', hstop'⟩ := h'
  have hbefore : before <+: source := ⟨block ++ after, hsource.symm⟩
  have hbefore' : before' <+: source := ⟨block' ++ after', hsource'.symm⟩
  have hsize := hstart.unique hstart'
  obtain rfl : before = before' := by
    refine List.IsPrefix.eq_of_length_le (Utf8.prefix_of_size_le hbefore hbefore' hsize.le) ?_
    exact (Utf8.prefix_of_size_le hbefore' hbefore hsize.ge).length_le
  have hblock : before ++ block <+: source := ⟨after, by rw [List.append_assoc, hsource]⟩
  have hblock' : before ++ block' <+: source := ⟨after', by rw [List.append_assoc, hsource']⟩
  have hstops : Utf8.size (before ++ block) ≤ Utf8.size (before ++ block') := by
    refine hstop.2 ?_
    exact hstop'.1.imp_right fun ⟨hopens, hlater⟩ => ⟨hopens, hle.trans hlater⟩
  exact (List.prefix_append_right_inj before).1 (Utf8.prefix_of_size_le hblock hblock' hstops)

/-- A block has each text that goes on from the part until no line opens another block. -/
theorem IsBlock.infix_of_calm {block before text after : List Char}
    (h : IsBlock source first last block) (hsource : source = before ++ (text ++ after))
    (hfirst : first ≤ Utf8.size before)
    (hcalm : ∀ o, OpensAt source o → last ≤ o → Utf8.size (before ++ text) ≤ o) :
    text <:+: block := by
  obtain ⟨front, back, hblock, hstart, hstop⟩ := h
  have hfront : front <+: before := by
    refine Utf8.prefix_of_size_le ⟨block ++ back, hblock.symm⟩ ⟨text ++ after, hsource.symm⟩ ?_
    rcases hstart.1 with hzero | ⟨-, hle⟩
    · rw [hzero]
      exact Nat.zero_le _
    · exact hle.trans hfirst
  have htext : before ++ text <+: front ++ block := by
    have hto : before ++ text <+: source := ⟨after, by rw [List.append_assoc, hsource]⟩
    have hto' : front ++ block <+: source := ⟨back, by rw [List.append_assoc, hblock]⟩
    refine Utf8.prefix_of_size_le hto hto' ?_
    rcases hstop.1 with hsize | ⟨hopens, hle⟩
    · rw [hsize, hsource, ← List.append_assoc, Utf8.size_append _ after]
      exact Nat.le_add_right _ _
    · exact hcalm _ hopens hle
  obtain ⟨gap, rfl⟩ := hfront
  rw [List.append_assoc, List.prefix_append_right_inj] at htext
  exact (List.suffix_append gap text).isInfix.trans htext.isInfix

/-- The text that is searched for the guard is the block that ends behind the part. -/
theorem isBlock_around (hspan : first ≤ last) (hlast : last ≤ source.length) :
    IsBlock source (Utf8.size (source.take first)) (Utf8.size (source.take last) + 1)
      (around source first last) := by
  have hstart : startOf source first ≤ first := by
    rcases (isGreatest_startOf (hspan.trans hlast)).1 with hzero | ⟨⟨-, hle⟩, -⟩
    · rw [hzero]
      exact Nat.zero_le first
    · exact hle
  have hend : last ≤ endOf source last := by
    rcases (isLeast_endOf hlast).1 with hlength | ⟨⟨-, hlt⟩, -⟩
    · rw [hlength]
      exact hlast
    · exact hlt.le
  have hborders : startOf source first ≤ endOf source last := by omega
  refine ⟨source.take (startOf source first), source.drop (endOf source last), ?_, ?_, ?_⟩
  · rw [around, slice_append_drop source hborders, List.take_append_drop]
  · exact startsBlock_startOf (hspan.trans hlast)
  · rw [around, take_append_slice source hborders]
    exact endsBlock_endOf hlast

theorem containsGuard_iff (guard : String) (hspan : first ≤ last) (hlast : last ≤ source.length) :
    containsGuard source first last guard = true ↔
      GuardStands source guard (Utf8.size (source.take first))
        (Utf8.size (source.take last) + 1) := by
  rw [containsGuard, containsText_iff]
  constructor
  · intro h
    exact ⟨around source first last, isBlock_around hspan hlast, h⟩
  · rintro ⟨block, hblock, h⟩
    exact h.trans (hblock.isPrefix (isBlock_around hspan hlast) (Nat.le_refl _)).isInfix

theorem containsGuard_of_guardStands {guard : String} (hspan : first ≤ last)
    (hlast : last ≤ source.length)
    (h : GuardStands source guard (Utf8.size (source.take first)) (Utf8.size (source.take last))) :
    containsGuard source first last guard = true := by
  obtain ⟨block, hblock, h⟩ := h
  rw [containsGuard, containsText_iff]
  exact h.trans (hblock.isPrefix (isBlock_around hspan hlast) (Nat.le_succ _)).isInfix

theorem guardStands_succ_iff {guard : String} (h : ¬ OpensAt source last) :
    GuardStands source guard first (last + 1) ↔ GuardStands source guard first last := by
  simp only [GuardStands, IsBlock, endsBlock_succ_iff h]

end ImplBlock

namespace InsertionRule

open ImplBlock

variable {rule : InsertionRule} {source guard : String} {m : MatchSpan}

theorem skipped_of_mem_sites {s : Site} (hguard : rule.guard = some guard)
    (hs : s ∈ rule.sites source.toList true) :
    s.skipped = containsGuard source.toList s.first s.last guard := by
  obtain ⟨found, -, rfl⟩ := List.mem_map.1 hs
  rw [siteOf, Bool.true_and, isGuarded, hguard]

/-- A match is skipped exactly if the guard stands in the block that ends behind it: before the
first opening line that begins after the end of the match. So a match whose own block has the guard
is always skipped, and no other is if no line opens a block just where the match ends. -/
theorem skipped_iff_guardStands (hguard : rule.guard = some guard)
    (hm : m ∈ (rule.apply source true).hits) :
    (m.skipped = true ↔ GuardStands source.toList guard m.byteStart (m.byteEnd + 1)) ∧
    (GuardStands source.toList guard m.byteStart m.byteEnd → m.skipped = true) ∧
    (¬ OpensAt source.toList m.byteEnd →
      (m.skipped = true ↔ GuardStands source.toList guard m.byteStart m.byteEnd)) := by
  obtain ⟨s, hs, rfl⟩ := (rule.mem_hits_iff true source).1 hm
  obtain ⟨hspan, hlast⟩ := rule.sites_bounds source.toList true hs
  have hskipped : (s.span source.toList).skipped
      = containsGuard source.toList s.first s.last guard := skipped_of_mem_sites hguard hs
  have hiff := containsGuard_iff guard hspan hlast
  rw [hskipped]
  refine ⟨hiff, containsGuard_of_guardStands hspan hlast, ?_⟩
  intro hopens
  exact hiff.trans (guardStands_succ_iff hopens)

/-! ## Samples -/

theorem ofPattern_afterLine : (ofPattern "(fn a\n)()" "X").toOption.isSome = true := by
  decide +kernel

/-- A rule whose matches end where a line begins. -/
def afterLine : InsertionRule :=
  ((ofPattern "(fn a\n)()" "X").toOption.get ofPattern_afterLine).withGuard "G"

/-- Two blocks with a match each, of which the first has the guard. -/
def twoBlocks : String := "impl A \x7b\nfn a\nG\n\x7d\nimpl B \x7b\nfn a\n\x7d\n"

theorem skipped_iff_guardStands_two_blocks :
    GuardStands twoBlocks.toList "G" 9 14 ∧
      ¬ GuardStands twoBlocks.toList "G" 27 32 := by
  have hfirst : (⟨9, 14, 2, "fn a\n", "", true⟩ : MatchSpan) ∈
      (afterLine.apply twoBlocks true).hits := by
    decide +kernel
  have hsecond : (⟨27, 32, 6, "fn a\n", "", false⟩ : MatchSpan) ∈
      (afterLine.apply twoBlocks true).hits := by
    decide +kernel
  refine ⟨?_, ?_⟩
  · exact ((skipped_iff_guardStands rfl hfirst).2.2 (by decide +kernel)).1 rfl
  · intro hguard
    exact absurd ((skipped_iff_guardStands rfl hsecond).2.1 hguard) Bool.false_ne_true

/-- A match in front of a block that has the guard. -/
def nextBlock : String := "fn a\nimpl B \x7b\nG\n"

/-- The block of the match ends with it, since the next line opens the block that has the guard.
The match is skipped all the same. -/
theorem skipped_by_following_block :
    (afterLine.apply nextBlock true).hits = [⟨0, 5, 1, "fn a\n", "", true⟩] ∧
      ¬ GuardStands nextBlock.toList "G" 0 5 := by
  have hown : IsBlock nextBlock.toList 0 5 "fn a\n".toList := by
    refine ⟨[], "impl B \x7b\nG\n".toList, by decide, ⟨Or.inl rfl, ?_⟩, ⟨Or.inr ?_, ?_⟩⟩
    · rintro o (rfl | ⟨-, hle⟩)
      · exact Nat.le_refl 0
      · exact hle
    · exact ⟨by decide +kernel, Nat.le_refl 5⟩
    · rintro o (rfl | ⟨-, hle⟩)
      · decide
      · exact hle
  refine ⟨by decide +kernel, ?_⟩
  rintro ⟨block, hblock, hguard⟩
  have hinside := hguard.trans (hblock.isPrefix hown (Nat.le_refl 5)).isInfix
  exact absurd hinside (by decide)

end InsertionRule

end SourcePatch
