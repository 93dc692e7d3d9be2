import SourcePatch.Proofs.Rule.Borders
import SourcePatch.Proofs.Rule.Images
import SourcePatch.Proofs.Text.LineBreaks

/-!
# Rules that run again

A rule that inserts its own guard skips what it has inserted before when it is applied to its own
output. The guard is looked for as it is written in the rule. If it has a newline and the insertion
was written with carriage returns, it is not there, and the insertion is made again
(`inserts_again_with_carriage_returns`).

* `Transform.PlacedAt`: where the new text has a replacement, which stands there
  (`InsertionRule.content_of_placedAt`).
* `InsertionRule.infix_replacementText`: when a replacement has the guard of its rule.
* `InsertionRule.not_again`: what was inserted is not inserted again.
-/

namespace SourcePatch

open SourcePatch.Text ImplBlock

/-- Does the new text have a replacement at an offset? The replacements before it have moved it
there from its offset in the source. -/
def Transform.PlacedAt (t : Transform) (r : Replacement) (place : Nat) : Prop :=
  ∃ before after, t.replacements = before ++ r :: after ∧
    place + (before.map fun b => Utf8.size b.replaced.toList).sum
      = r.byteStart + (before.map fun b => Utf8.size b.replacement.toList).sum

namespace InsertionRule

variable {rule : InsertionRule} {source guard : String} {skipExisting : Bool} {r : Replacement}
  {place : Nat}

/-- A replacement is that of a site, and those before it are those of the sites before. -/
theorem exists_site_of_replacements_eq {before after : List Replacement}
    (h : (rule.apply source skipExisting).replacements = before ++ r :: after) :
    ∃ pre s post, rule.sites source.toList skipExisting = pre ++ s :: post ∧ s.skipped = false ∧
      r = rule.replacementAt source.toList s ∧
      before = (pre.filter fun t => !t.skipped).map (rule.replacementAt source.toList) := by
  rw [replacements_apply] at h
  obtain ⟨bs, rest, hfilter, rfl, hrest⟩ := List.map_eq_append_iff.1 h
  obtain ⟨s, as, rfl, rfl, -⟩ := List.map_eq_cons_iff.1 hrest
  obtain ⟨pre, tail, hsites, rfl, htail⟩ := List.filter_eq_append_iff.1 hfilter
  obtain ⟨skipped, post, rfl, hskipped, hs, -⟩ := List.filter_eq_cons_iff.1 htail
  refine ⟨pre ++ skipped, s, post, ?_, by simpa using hs, rfl, ?_⟩
  · rw [hsites, List.append_assoc]
  · rw [List.filter_append, List.filter_eq_nil_iff.2 hskipped, List.append_nil]

/-- The new text has each replacement at its place. -/
theorem content_of_placedAt (h : (rule.apply source skipExisting).PlacedAt r place) :
    ∃ s ∈ rule.sites source.toList skipExisting, r = rule.replacementAt source.toList s ∧
      ∃ front back, (rule.apply source skipExisting).content.toList
        = front ++ (r.replacement.toList ++ back) ∧ Utf8.size front = place := by
  obtain ⟨before, after, h, hplace⟩ := h
  obtain ⟨pre, s, post, hsites, hskipped, rfl, hbefore⟩ := exists_site_of_replacements_eq h
  have hsize := rule.measure_front additive_size hsites hbefore
  refine ⟨s, by rw [hsites]; simp, rfl, rule.weaveTo source.toList 0 pre s.first,
    rule.weave source.toList s.last post, ?_, ?_⟩
  · rw [apply, String.toList_ofList, hsites, weave_append_cons, newText, hskipped,
      if_neg Bool.false_ne_true, replacementAt, String.toList_ofList]
  · have hstart : (rule.replacementAt source.toList s).byteStart
        = Utf8.size (source.toList.take s.first) := rfl
    omega

/-- The replacement of a match has the guard if the insertion does. Where line breaks are
rewritten, the guard has to be written with carriage returns as well; only the one in front of a
newline at its beginning may be left out. -/
theorem infix_replacementText {guard cs : List Char} {s : Site}
    (hguard : guard <:+: rule.insertion.toList)
    (hbreaks : hasCrlf (s.text cs) = true → CrlfAfter (some '\r') guard) :
    guard <:+: rule.replacementText cs s := by
  have hadded : guard <:+: rule.addition s.tail :=
    hguard.trans (List.infix_append _ rule.insertion.toList _)
  refine List.IsInfix.trans ?_ (List.suffix_append s.head _).isInfix
  split
  · rename_i hcrlf
    exact infix_toCrlf (hbreaks hcrlf) hadded
  · exact hadded

/-- A rule that inserts its guard is applied to its own output. If no line in what a replacement
has written opens a block, and the guard is not changed where line breaks are rewritten, each match
that begins at the place of the replacement is skipped. So it does not get the insertion again. -/
theorem not_again (rule : InsertionRule) (hguard : rule.guard = some guard)
    (hinsertion : guard.toList <:+: rule.insertion.toList)
    (hplaced : (rule.apply source true).PlacedAt r place)
    (hbreaks : hasCrlf r.replaced.toList = true → CrlfAfter (some '\r') guard.toList)
    (hcalm : ∀ o, place < o → o < place + Utf8.size r.replacement.toList →
      ¬ OpensAt (rule.apply source true).content.toList o) :
    (∀ m ∈ (rule.apply (rule.apply source true).content true).hits,
      m.byteStart = place → m.skipped = true) ∧
    ∀ r' ∈ (rule.apply (rule.apply source true).content true).replacements,
      r'.byteStart ≠ place := by
  obtain ⟨s, hs, hsite, front, back, hcontent, hfront⟩ := content_of_placedAt hplaced
  have hreplacement : guard.toList <:+: r.replacement.toList := by
    rw [hsite, replacementAt, String.toList_ofList] at hbreaks ⊢
    exact infix_replacementText hinsertion hbreaks
  generalize (rule.apply source true).content = content at *
  have hskipped : ∀ t ∈ rule.sites content.toList true,
      Utf8.size (content.toList.take t.first) = place → t.skipped = true := by
    intro t ht hstart
    obtain ⟨hspan, hlast⟩ := rule.sites_bounds content.toList true ht
    rw [skipped_of_mem_sites hguard ht, containsGuard, containsText_iff]
    refine hreplacement.trans ((isBlock_around hspan hlast).infix_of_calm hcontent ?_ ?_)
    · rw [hstart, hfront]
    · intro o hopens hle
      have hsize := Utf8.size_take_le content.toList hspan
      by_contra hlt
      rw [Utf8.size_append] at hlt
      exact hcalm o (by omega) (by omega) hopens
  constructor
  · intro m hm hstart
    obtain ⟨t, ht, rfl⟩ := (rule.mem_hits_iff true content).1 hm
    exact hskipped t ht hstart
  · intro r' hr' hstart
    rw [replacements_apply] at hr'
    obtain ⟨t, ht, rfl⟩ := List.mem_map.1 hr'
    obtain ⟨ht, hinserted⟩ := List.mem_filter.1 ht
    rw [hskipped t ht hstart] at hinserted
    cases hinserted

/-! ## Samples -/

theorem ofPattern_beforeBreak : (ofPattern "(a)(\\r\\n)" "G\nH").toOption.isSome = true := by
  decide +kernel

/-- A rule that inserts two lines at the end of a line. -/
def beforeBreak : InsertionRule :=
  (ofPattern "(a)(\\r\\n)" "G\nH").toOption.get ofPattern_beforeBreak

/-- What the rule makes of the line `a`. -/
def twoLines : String := "a\r\n\r\nG\r\nH\r\n"

theorem not_opensAt_twoLines (o : Nat) : ¬ OpensAt twoLines.toList o := by
  intro hopens
  obtain ⟨pos, hpos, hopener, -⟩ := opensAt_iff.1 hopens
  have hnone : ∀ pos ∈ lineStarts twoLines.toList, isOpener (twoLines.toList.drop pos) = false := by
    decide +kernel
  rw [hnone pos hpos] at hopener
  cases hopener

/-- The second line is found again, and the lines are not inserted a second time. -/
theorem not_again_with_second_line :
    ((beforeBreak.withGuard "H").apply "a\r\n" true).content = twoLines ∧
      ((beforeBreak.withGuard "H").apply twoLines true).hits.map (·.byteStart) = [0] ∧
      ∀ m ∈ ((beforeBreak.withGuard "H").apply twoLines true).hits,
        m.byteStart = 0 → m.skipped = true := by
  have hcontent : ((beforeBreak.withGuard "H").apply "a\r\n" true).content = twoLines := by
    decide +kernel
  have hplaced : ((beforeBreak.withGuard "H").apply "a\r\n" true).PlacedAt
      ⟨0, 3, "a\r\n", twoLines⟩ 0 := ⟨[], [], by decide +kernel, rfl⟩
  have hagain := (beforeBreak.withGuard "H").not_again rfl (by decide) hplaced (by decide)
  rw [hcontent] at hagain
  exact ⟨hcontent, by decide +kernel, (hagain fun o _ _ => not_opensAt_twoLines o).1⟩

/-- With both lines as the guard, the newline between them does not stand alone any more, and the
lines are inserted a second time. -/
theorem inserts_again_with_carriage_returns :
    "G\nH".toList <:+: (beforeBreak.withGuard "G\nH").insertion.toList ∧
      ((beforeBreak.withGuard "G\nH").apply "a\r\n" true).content = twoLines ∧
      ((beforeBreak.withGuard "G\nH").apply "a\r\n" true).PlacedAt
        ⟨0, 3, "a\r\n", twoLines⟩ 0 ∧
      (∀ o, ¬ OpensAt twoLines.toList o) ∧
      ((beforeBreak.withGuard "G\nH").apply twoLines true).hits
        = [⟨0, 3, 1, "a", "\r\n", false⟩] := by
  refine ⟨by decide, by decide +kernel, ?_, not_opensAt_twoLines, by decide +kernel⟩
  exact ⟨[], [], by decide +kernel, rfl⟩

end InsertionRule

end SourcePatch
