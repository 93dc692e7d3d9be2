import Mathlib.Algebra.GroupWithZero.Nat
import Mathlib.Data.List.Sort
import SourcePatch.Proofs.Rule.Edits

/-!
# Where a source comes to lie

What a rule leaves alone stands in the new text as well, moved by what the replacements before it
have added and taken away.

* `InsertionRule.weaveTo` is the new text up to a position of the source, and
  `InsertionRule.weave_append_cons` cuts the new text at a site.
* `InsertionRule.measure_weaveTo`: what a measure of texts makes of it.
* `Transform.image` is a match as it stands in the new text; `Transform.image_span` says that this
  is where the new text has it.
-/

namespace SourcePatch

open SourcePatch.Text

/-! ## New texts in parts -/

namespace InsertionRule

variable (rule : InsertionRule) (cs : List Char) {s : Site} {ss pre post : List Site}
  {pos first : Nat}

/-- What stands in the new text for a site. -/
def newText (s : Site) : List Char := if s.skipped then s.text cs else rule.replacementText cs s

/-- The new text from position `pos` of the source up to position `last`. -/
def weaveTo : (pos : Nat) → List Site → (last : Nat) → List Char
  | pos, [], last => slice cs pos last
  | pos, s :: ss, last => slice cs pos s.first ++ (rule.newText cs s ++ weaveTo s.last ss last)

/-- The new text is cut at a site into what is before it, what stands for it, and what is after. -/
theorem weave_append_cons (pos : Nat) : rule.weave cs pos (pre ++ s :: post)
    = rule.weaveTo cs pos pre s.first ++ (rule.newText cs s ++ rule.weave cs s.last post) := by
  induction pre generalizing pos with
  | nil =>
    rw [List.nil_append, weave, weaveTo, List.append_assoc]
    rfl
  | cons t ts ih =>
    rw [List.cons_append, weave, weaveTo, ih t.last]
    simp only [List.append_assoc]
    rfl

theorem weaveTo_append_cons (pos last : Nat) : rule.weaveTo cs pos (pre ++ s :: post) last
    = rule.weaveTo cs pos pre s.first
      ++ (rule.newText cs s ++ rule.weaveTo cs s.last post last) := by
  induction pre generalizing pos with
  | nil => rfl
  | cons t ts ih =>
    rw [List.cons_append, weaveTo, weaveTo, ih t.last]
    simp only [List.append_assoc]

/-- A measure of texts that adds up over their parts. -/
def Additive (measure : List Char → Nat) : Prop :=
  ∀ xs ys, measure (xs ++ ys) = measure xs + measure ys

theorem additive_size : Additive Utf8.size := Utf8.size_append

theorem additive_count (c : Char) : Additive (·.count c) := fun _ _ => List.count_append

/-- The new text up to a position measures what the source does, with the replacements in the place
of what they replace. -/
theorem measure_weaveTo {measure : List Char → Nat} (hadd : Additive measure) {last : Nat}
    (hsorted : ss.Pairwise Site.Precedes) (hpos : ∀ s ∈ ss, pos ≤ s.first)
    (hbounds : ∀ s ∈ ss, s.first ≤ s.last ∧ s.last ≤ last) (hle : pos ≤ last) :
    measure (rule.weaveTo cs pos ss last)
        + ((ss.filter fun s => !s.skipped).map fun s => measure (s.text cs)).sum
      = measure (slice cs pos last)
        + ((ss.filter fun s => !s.skipped).map fun s => measure (rule.replacementText cs s)).sum := by
  induction ss generalizing pos with
  | nil => rfl
  | cons s ss ih =>
    obtain ⟨hfirst, hsorted⟩ := List.pairwise_cons.1 hsorted
    obtain ⟨hgap, -⟩ := List.forall_mem_cons.1 hpos
    obtain ⟨⟨hs, hlast⟩, hbounds⟩ := List.forall_mem_cons.1 hbounds
    have hrest := ih hsorted (fun t ht => (hfirst t ht).2) hbounds hlast
    have hslice : slice cs pos last = slice cs pos s.first ++ (s.text cs ++ slice cs s.last last) := by
      rw [Site.text, slice_append_slice cs hs hlast, slice_append_slice cs hgap (by omega)]
    rw [weaveTo, hslice, hadd, hadd, hadd, hadd, newText]
    cases hskip : s.skipped with
    | true =>
      rw [List.filter_cons_of_neg (by simp [hskip]), if_pos rfl]
      omega
    | false =>
      rw [List.filter_cons_of_pos (by simp [hskip]), if_neg (by simp), List.map_cons, List.map_cons,
        List.sum_cons, List.sum_cons]
      omega

end InsertionRule

/-! ## Images of matches -/

namespace Transform

/-- The replacements that end before an offset of the source. -/
def before (t : Transform) (offset : Nat) : List Replacement :=
  t.replacements.filter fun r => r.byteEnd ≤ offset

/-- What the replacements before an offset measure. -/
def gained (t : Transform) (measure : List Char → Nat) (offset : Nat) : Nat :=
  ((t.before offset).map fun r => measure r.replacement.toList).sum

/-- What the texts measure that were replaced before an offset. -/
def lost (t : Transform) (measure : List Char → Nat) (offset : Nat) : Nat :=
  ((t.before offset).map fun r => measure r.replaced.toList).sum

/-- A match of the source as it stands in the new text, if it was left alone: its text is the same,
and its place has moved with the replacements before it. -/
def image (t : Transform) (m : MatchSpan) : MatchSpan :=
  { m with
    byteStart := m.byteStart + t.gained Utf8.size m.byteStart - t.lost Utf8.size m.byteStart
    byteEnd := m.byteEnd + t.gained Utf8.size m.byteStart - t.lost Utf8.size m.byteStart
    line := m.line + t.gained (·.count '\n') m.byteStart - t.lost (·.count '\n') m.byteStart }

end Transform

namespace InsertionRule

variable (rule : InsertionRule) {source : String} {skipExisting : Bool} {s : Site}
  {pre post : List Site}

theorem replacements_apply (source : String) (skipExisting : Bool) :
    (rule.apply source skipExisting).replacements
      = ((rule.sites source.toList skipExisting).filter fun s => !s.skipped).map
        (rule.replacementAt source.toList) := rfl

/-- The replacements before a site that is left alone are those of the sites before it. -/
theorem before_apply (hsites : rule.sites source.toList skipExisting = pre ++ s :: post)
    (hskipped : s.skipped = true) :
    (rule.apply source skipExisting).before (Utf8.size (source.toList.take s.first))
      = (pre.filter fun t => !t.skipped).map (rule.replacementAt source.toList) := by
  have hsorted := rule.sites_pairwise source.toList skipExisting
  have hbounds := fun t => rule.sites_bounds source.toList skipExisting (s := t)
  rw [hsites] at hsorted hbounds
  obtain ⟨-, hbehind, hbefore⟩ := List.pairwise_append.1 hsorted
  have hpre : ((pre.filter fun t => !t.skipped).map (rule.replacementAt source.toList)).filter
        (fun r => r.byteEnd ≤ Utf8.size (source.toList.take s.first))
      = (pre.filter fun t => !t.skipped).map (rule.replacementAt source.toList) := by
    rw [List.filter_eq_self, List.forall_mem_map]
    intro t ht
    exact decide_eq_true
      (Utf8.size_take_le _ (hbefore t (List.mem_of_mem_filter ht) s List.mem_cons_self).2)
  have hpost : ((post.filter fun t => !t.skipped).map (rule.replacementAt source.toList)).filter
      (fun r => r.byteEnd ≤ Utf8.size (source.toList.take s.first)) = [] := by
    rw [List.filter_eq_nil_iff, List.forall_mem_map]
    intro t ht
    have hst := ((List.pairwise_cons.1 hbehind).1 t (List.mem_of_mem_filter ht)).1
    have ht := hbounds t (by simp [List.mem_of_mem_filter ht])
    have hlt := Utf8.size_take_lt source.toList hst (by omega)
    have hle := Utf8.size_take_le source.toList ht.1
    rw [decide_eq_true_eq]
    change ¬ Utf8.size (source.toList.take t.last) ≤ _
    omega
  rw [Transform.before, replacements_apply, hsites, List.filter_append,
    List.filter_cons_of_neg (by simp [hskipped]), List.map_append, List.filter_append, hpre, hpost,
    List.append_nil]

/-- What the replacements before a site add to the source makes up the new text before it. -/
theorem measure_front {measure : List Char → Nat} (hadd : Additive measure)
    (hsites : rule.sites source.toList skipExisting = pre ++ s :: post) {front : List Replacement}
    (hfront : front = (pre.filter fun t => !t.skipped).map (rule.replacementAt source.toList)) :
    measure (rule.weaveTo source.toList 0 pre s.first)
        + (front.map fun r => measure r.replaced.toList).sum
      = measure (source.toList.take s.first)
        + (front.map fun r => measure r.replacement.toList).sum := by
  have hsorted := rule.sites_pairwise source.toList skipExisting
  have hbounds := fun t => rule.sites_bounds source.toList skipExisting (s := t)
  rw [hsites] at hsorted hbounds
  obtain ⟨hpre, -, hbefore⟩ := List.pairwise_append.1 hsorted
  have h := rule.measure_weaveTo source.toList hadd hpre
    (fun t _ => Nat.zero_le t.first)
    (fun t ht => ⟨(hbounds t (List.mem_append_left _ ht)).1,
      (hbefore t ht s List.mem_cons_self).2⟩) (Nat.zero_le _)
  have hreplaced : (fun r : Replacement => measure r.replaced.toList)
      ∘ rule.replacementAt source.toList = fun t => measure (t.text source.toList) := by
    funext t
    simp [replacementAt]
  have hreplacement : (fun r : Replacement => measure r.replacement.toList)
      ∘ rule.replacementAt source.toList
        = fun t => measure (rule.replacementText source.toList t) := by
    funext t
    simp [replacementAt]
  rw [hfront, List.map_map, List.map_map, hreplaced, hreplacement]
  exact h

/-- A site that is left alone has its image behind the new text of what is before it. -/
theorem image_span (hsites : rule.sites source.toList skipExisting = pre ++ s :: post)
    (hskipped : s.skipped = true) :
    (rule.apply source skipExisting).image (s.span source.toList) =
      { s.span source.toList with
        byteStart := Utf8.size (rule.weaveTo source.toList 0 pre s.first)
        byteEnd := Utf8.size (rule.weaveTo source.toList 0 pre s.first ++ s.text source.toList)
        line := 1 + (rule.weaveTo source.toList 0 pre s.first).count '\n' } := by
  have hbounds := rule.sites_bounds source.toList skipExisting (s := s) (by rw [hsites]; simp)
  have hfront := rule.before_apply hsites hskipped
  have hsize := rule.measure_front additive_size hsites hfront
  have hlines := rule.measure_front (additive_count '\n') hsites hfront
  have htext : source.toList.take s.last = source.toList.take s.first ++ s.text source.toList :=
    (take_append_slice source.toList hbounds.1).symm
  have hend := congrArg Utf8.size htext
  rw [Utf8.size_append] at hend
  simp only [Transform.image, Transform.gained, Transform.lost, Site.span, lineNumber,
    Utf8.size_append, MatchSpan.mk.injEq, and_true]
  exact ⟨by omega, by omega, by omega⟩

/-- Without replacements the new text is the source. -/
theorem content_of_replacements_nil (h : (rule.apply source skipExisting).replacements = []) :
    (rule.apply source skipExisting).content = source := by
  refine Utf8.octets_inj ?_
  rw [rule.octets_content, Transform.edits, h]
  rfl

end InsertionRule

end SourcePatch
