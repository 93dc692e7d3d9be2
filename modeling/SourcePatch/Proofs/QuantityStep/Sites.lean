import SourcePatch.Proofs.Pattern.Order
import SourcePatch.Proofs.QuantityStep.Replacing
import SourcePatch.Proofs.Rule.Edits

/-!
# Sites of the built-in rule

* `exists_siteAt`: a layout stands at each site of the rule.
* `exists_siteAt_of_layout`: each layout in a source is the layout of a site of the rule.
-/

namespace SourcePatch.QuantityStep

open SourcePatch.Pattern SourcePatch.Text

variable {cs : List Char} {skipExisting : Bool}

/-- A site at which a layout stands. -/
structure SiteAt (cs : List Char) (skipExisting : Bool) (s : Site) (l : Layout) : Prop where
  stands : ∃ more, cs.drop s.first = l.text ++ more
  last : s.last = s.first + l.text.length
  head : s.head = l.head
  tail : s.tail = l.tail
  text : s.text cs = l.text
  replacement : rule.replacementText cs s = l.replacement
  skipped : s.skipped = (skipExisting && rule.isGuarded cs s.first s.last)

/-- A part that stands behind another one is cut out by its positions. -/
theorem slice_of_drop {xs ys zs : List Char} {first a b : Nat}
    (h : cs.drop first = xs ++ (ys ++ zs)) (ha : a = first + xs.length) (hb : b = a + ys.length) :
    slice cs a b = ys := by
  rw [slice, hb, ha, ← List.drop_drop, h, List.drop_left, Nat.add_sub_cancel_left, List.take_left]

/-- A match that records the parts of a layout is a site of it. -/
theorem siteAt_siteOf {m : Found} {l : Layout} {more : List Char}
    (hdrop : cs.drop m.first = l.text ++ more) (hlast : m.last = m.first + l.text.length)
    (hslots : m.slots = l.slots m.first) :
    SiteAt cs skipExisting (rule.siteOf cs skipExisting m) l := by
  have hall : cs.drop m.first = [] ++ (l.text ++ more) := hdrop
  have hparts : cs.drop m.first = [] ++ (l.head ++ (l.gap ++ (l.tail ++ more))) := by
    rw [hdrop, Layout.text]
    simp
  have hbehind : cs.drop m.first = (l.head ++ l.gap) ++ (l.tail ++ more) := by
    rw [hparts]
    simp
  have htext : slice cs m.first m.last = l.text := slice_of_drop hall rfl hlast
  have hhead : m.groupText cs 1 = l.head := by
    rw [Found.groupText, Found.group?, hslots]
    exact slice_of_drop hparts rfl rfl
  have htail : m.groupText cs 2 = l.tail := by
    rw [Found.groupText, Found.group?, hslots]
    refine slice_of_drop hbehind ?_ ?_
    · rw [List.length_append, Nat.add_assoc]
    · rw [Layout.text, List.length_append, List.length_append, Nat.add_assoc, Nat.add_assoc]
  refine ⟨⟨more, hdrop⟩, hlast, hhead, htail, htext, ?_, rfl⟩
  rw [InsertionRule.replacementText, l.replacement_eq, InsertionRule.siteOf, Site.text]
  simp only
  rw [hhead, htail, htext]

/-- A layout stands at each site of the rule. -/
theorem exists_siteAt {s : Site} (hs : s ∈ rule.sites cs skipExisting) :
    ∃ l, SiteAt cs skipExisting s l := by
  obtain ⟨m, hm, rfl⟩ := List.mem_map.1 hs
  obtain ⟨before, hmatch⟩ := Program.matchAt_of_mem_findAll hm
  obtain ⟨l, more, hdrop, hlast, hslots⟩ := matchAt_eq_some_iff.1 hmatch
  exact ⟨l, siteAt_siteOf hdrop hlast hslots⟩

/-- Each layout in a source is the layout of a site of the rule. -/
theorem exists_siteAt_of_layout (skipExisting : Bool) {x : Nat} {l : Layout} {more : List Char}
    (h : cs.drop x = l.text ++ more) :
    ∃ s ∈ rule.sites cs skipExisting, s.first = x ∧ SiteAt cs skipExisting s l := by
  have hlength := l.length_text_pos
  have hx : x ≤ cs.length := by
    have hlen := congrArg List.length h
    rw [List.length_drop, List.length_append] at hlen
    omega
  have hmatch (before : Option Char) : rule.program.matchAt before (cs.drop x) x
      = some (x + l.text.length, l.slots x) :=
    matchAt_eq_some_iff.2 ⟨l, more, h, rfl, rfl⟩
  obtain ⟨m, hm, hle, hlt⟩ := Program.exists_mem_findAll hmatch (by omega) hx
  obtain ⟨before, hfound⟩ := Program.matchAt_of_mem_findAll hm
  -- The listed match cannot begin earlier: no signature stands inside another layout.
  have hfirst : m.first = x := by
    obtain ⟨l', more', hdrop, hlast, -⟩ := matchAt_eq_some_iff.1 hfound
    refine Nat.le_antisymm hle (Nat.le_of_not_lt fun hbefore => ?_)
    refine l'.quiet_text (k := x - m.first) (by omega) (by omega) more' ?_
    have hinside : cs.drop x = l'.text.drop (x - m.first) ++ more' := by
      rw [← List.drop_append_of_le_length (by omega), ← hdrop, List.drop_drop]
      congr 1
      omega
    rw [← hinside, h]
    exact l.opening_prefix_text more
  subst hfirst
  -- So it is the match of the layout, and it records the parts of this one.
  rw [hmatch before] at hfound
  obtain ⟨hlast, hslots⟩ := Prod.mk.inj (Option.some.inj hfound)
  exact ⟨rule.siteOf cs skipExisting m, List.mem_map_of_mem hm, rfl,
    siteAt_siteOf h hlast.symm hslots.symm⟩

/-- Each layout in a source is a site of the rule. -/
theorem exists_site_of_layout {x : Nat} {l : Layout} {more : List Char}
    (h : cs.drop x = l.text ++ more) : ∃ s ∈ rule.sites cs skipExisting, s.first = x := by
  obtain ⟨s, hs, hfirst, -⟩ := exists_siteAt_of_layout skipExisting h
  exact ⟨s, hs, hfirst⟩

/-! ## Parts of sources -/

namespace SiteAt

variable {s : Site} {l : Layout} (h : SiteAt cs skipExisting s l)
include h

theorem drop_first : cs.drop s.first = l.text ++ cs.drop s.last := by
  obtain ⟨more, hmore⟩ := h.stands
  rw [h.last, ← List.drop_drop, hmore, List.drop_left]

/-- What comes from a position before the site on. -/
theorem drop_eq {pos : Nat} (hpos : pos ≤ s.first) :
    cs.drop pos = slice cs pos s.first ++ (l.text ++ cs.drop s.last) := by
  rw [← h.drop_first, slice_append_drop cs hpos]

theorem first_lt_last : s.first < s.last := by
  have hpos := l.length_text_pos
  rw [h.last]
  omega

theorem last_le_length : s.last ≤ cs.length := by
  have hpos := l.length_text_pos
  have hlength := congrArg List.length h.drop_first
  rw [List.length_append, List.length_drop, List.length_drop] at hlength
  have hlast := h.last
  omega

theorem take_last : cs.take s.last = cs.take s.first ++ l.text := by
  rw [h.last, List.take_add, h.drop_first, List.take_left]

end SiteAt

theorem length_slice {first last : Nat} (hlast : last ≤ cs.length) :
    (slice cs first last).length = last - first := by
  rw [slice, List.length_take, List.length_drop]
  omega

end SourcePatch.QuantityStep
