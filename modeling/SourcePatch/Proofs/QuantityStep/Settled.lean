import SourcePatch.Proofs.Edit.Verification
import SourcePatch.Proofs.QuantityStep.Sites
import SourcePatch.Proofs.Rule.Images

/-!
# The built-in rule settles

What the built-in rule has made of a source it leaves alone.

* `Guarded`: the block around a part of a text has the guard.
* `exists_skipped_of_layout`: a layout in the new text is that of a site which was skipped.
* `guarded_of_layout`: it still has the guard around it.
* `replacements_settled`: the rule has nothing to insert in what it made.
* `exists_not_fits`: one of the edits for the old source does not fit the new text.
-/

namespace SourcePatch.QuantityStep

open SourcePatch.Pattern SourcePatch.Text SourcePatch.ImplBlock

variable {cs : List Char} {skipExisting : Bool} {s : Site} {ss : List Site} {l : Layout}

/-! ## Layouts and signatures -/

/-- The layout that stands somewhere is found in one way only. -/
theorem text_append_inj {l l' : Layout} {xs ys : List Char} (h : l.text ++ xs = l'.text ++ ys) :
    l.text = l'.text ∧ xs = ys := by
  have hmatch (l : Layout) (xs : List Char) :
      rule.program.matchAt none (l.text ++ xs) 0 = some (0 + l.text.length, l.slots 0) :=
    matchAt_eq_some_iff.2 ⟨l, xs, rfl, rfl, rfl⟩
  have hsame := hmatch l xs
  rw [h, hmatch l' ys] at hsame
  have hlength := (Prod.mk.inj (Option.some.inj hsame)).1
  exact List.append_inj h (by omega)

/-- What follows a signature does not matter for the lines that begin before it. -/
theorem isOpener_drop_congr {xs ys ys' : List Char} (hys : opening <+: ys)
    (hys' : opening <+: ys') {pos : Nat} (hpos : pos ≤ xs.length) :
    isOpener ((xs ++ ys).drop pos) = isOpener ((xs ++ ys').drop pos) := by
  obtain ⟨more, rfl⟩ := hys
  obtain ⟨more', rfl⟩ := hys'
  rw [List.drop_append_of_le_length hpos, List.drop_append_of_le_length hpos, opening_eq]
  have hf : Blank.isBlank 'f' = false := Layout.foreign_f.1
  exact isOpener_append_congr hf (by decide) (by decide) _ _ _

/-! ## New texts of sites -/

/-- What stands in the new text for a site. -/
def piece (s : Site) (l : Layout) : List Char := if s.skipped then l.text else l.replacement

theorem SiteAt.newText_eq (h : SiteAt cs skipExisting s l) : rule.newText cs s = piece s l := by
  rw [InsertionRule.newText, h.text, h.replacement]
  rfl

theorem weave_cons (h : SiteAt cs skipExisting s l) (pos : Nat) :
    rule.weave cs pos (s :: ss)
      = slice cs pos s.first ++ (piece s l ++ rule.weave cs s.last ss) := by
  rw [InsertionRule.weave, h.text, h.replacement, List.append_assoc]
  rfl

theorem opening_prefix_piece (s : Site) (l : Layout) (more : List Char) :
    opening <+: piece s l ++ more := by
  unfold piece
  split
  · exact l.opening_prefix_text more
  · rw [l.replacement_eq_opening_append, List.append_assoc]
    exact List.prefix_append _ _

/-- No signature begins inside what stands in the new text for a site. -/
theorem quiet_piece (s : Site) (l : Layout) {k : Nat} (hpos : 0 < k)
    (hk : k < (piece s l).length) (more : List Char) :
    ¬ opening <+: (piece s l).drop k ++ more := by
  unfold piece at hk ⊢
  split
  · rename_i hskipped
    rw [if_pos hskipped] at hk
    exact l.quiet_text hpos hk more
  · rename_i hskipped
    rw [if_neg hskipped] at hk
    exact l.quiet_replacement hpos hk more

/-! ## Blocks of old and new texts -/

/-- The block around a part of a text has the guard. -/
def Guarded (before text after : List Char) : Prop :=
  guard.toList <:+: blockBefore before (text ++ after) ++ (text ++ blockAfter after)

theorem isGuarded_append (before text after : List Char) :
    rule.isGuarded (before ++ (text ++ after)) before.length (before.length + text.length) = true ↔
      Guarded before text after := by
  have hguard : rule.guard = some guard := rfl
  rw [InsertionRule.isGuarded, hguard]
  simp only
  rw [containsGuard, around_append, containsText_iff]
  rfl

/-- Whether a site is skipped depends on the block around it. -/
theorem SiteAt.skipped_iff (h : SiteAt cs skipExisting s l) :
    s.skipped = true ↔
      skipExisting = true ∧ Guarded (cs.take s.first) l.text (cs.drop s.last) := by
  have hlength : (cs.take s.first).length = s.first := by
    have hfirst := h.first_lt_last
    have hlast := h.last_le_length
    rw [List.length_take]
    omega
  rw [h.skipped, Bool.and_eq_true, ← isGuarded_append, hlength, ← h.last, ← h.drop_first,
    List.take_append_drop]

/-- A site that was skipped has the guard around it as long as the text before it and the text
after it keep theirs. -/
theorem SiteAt.guarded_of_keeps (h : SiteAt cs skipExisting s l) (hskipped : s.skipped = true)
    {before after : List Char}
    (hbefore : ∀ more,
      Keeps guard.toList (blockBefore (cs.take s.first) more) (blockBefore before more))
    (hafter : Keeps guard.toList (blockAfter (cs.drop s.last)) (blockAfter after)) :
    skipExisting = true ∧ Guarded before l.text after := by
  obtain ⟨hskip, hguarded⟩ := h.skipped_iff.1 hskipped
  have hcongr : blockBefore (cs.take s.first) (l.text ++ cs.drop s.last)
      = blockBefore (cs.take s.first) (l.text ++ after) :=
    blockBefore_congr fun pos hpos =>
      isOpener_drop_congr (l.opening_prefix_text _) (l.opening_prefix_text _) hpos
  refine ⟨hskip, ?_⟩
  rw [Guarded, hcongr] at hguarded
  exact (hbefore _).infix_append (hafter.append_left l.text) hguarded

/-- A piece keeps the guard of the block that it ends. -/
theorem keeps_blockBefore_piece {xs xs' : List Char}
    (h : ∀ more, Keeps guard.toList (blockBefore xs more) (blockBefore xs' more)) (s : Site)
    (l : Layout) (more : List Char) :
    Keeps guard.toList (blockBefore (xs ++ l.text) more) (blockBefore (xs' ++ piece s l) more) := by
  unfold piece
  split
  · exact keeps_blockBefore_append h l.text more
  · rw [l.calm_replacement.blockBefore_append]
    exact Or.inr (l.guard_infix_replacement.trans (List.suffix_append _ _).isInfix)

/-- A piece keeps the guard of the block that it begins. -/
theorem keeps_blockAfter_piece {ys ys' : List Char}
    (h : Keeps guard.toList (blockAfter ys) (blockAfter ys')) (s : Site) (l : Layout) :
    Keeps guard.toList (blockAfter (l.text ++ ys)) (blockAfter (piece s l ++ ys')) := by
  unfold piece
  split
  · rw [l.calm_text.blockAfter_append, l.calm_text.blockAfter_append]
    exact h.append_left l.text
  · rw [l.calm_replacement.blockAfter_append]
    exact Or.inr (l.guard_infix_replacement.trans (List.prefix_append _ _).isInfix)

/-- The last block of the new text before a position keeps the guard that the source has there. The
front is what the new text has before the first of the sites. -/
theorem keeps_blockBefore_weaveTo {pos last : Nat} {front : List Char}
    (hsites : ∀ s ∈ ss, ∃ l, SiteAt cs skipExisting s l) (hsorted : ss.Pairwise Site.Precedes)
    (hpos : ∀ s ∈ ss, pos ≤ s.first) (hlast : ∀ s ∈ ss, s.last ≤ last) (hle : pos ≤ last)
    (hfront : ∀ more, Keeps guard.toList (blockBefore (cs.take pos) more) (blockBefore front more))
    (more : List Char) :
    Keeps guard.toList (blockBefore (cs.take last) more)
      (blockBefore (front ++ rule.weaveTo cs pos ss last) more) := by
  induction ss generalizing pos front with
  | nil =>
    rw [InsertionRule.weaveTo, ← take_append_slice cs hle]
    exact keeps_blockBefore_append hfront _ more
  | cons s ss ih =>
    obtain ⟨⟨l, hl⟩, hsites⟩ := List.forall_mem_cons.1 hsites
    obtain ⟨hfirst, hsorted⟩ := List.pairwise_cons.1 hsorted
    obtain ⟨hgap, -⟩ := List.forall_mem_cons.1 hpos
    obtain ⟨hend, hlast⟩ := List.forall_mem_cons.1 hlast
    -- The gap before the site is the same on both sides, and the piece keeps the guard.
    have hbefore (more : List Char) : Keeps guard.toList (blockBefore (cs.take s.first) more)
        (blockBefore (front ++ slice cs pos s.first) more) := by
      rw [← take_append_slice cs hgap]
      exact keeps_blockBefore_append hfront _ more
    have hpiece (more : List Char) : Keeps guard.toList (blockBefore (cs.take s.last) more)
        (blockBefore (front ++ slice cs pos s.first ++ piece s l) more) := by
      rw [hl.take_last]
      exact keeps_blockBefore_piece hbefore s l more
    have hrest := ih hsites hsorted (fun t ht => (hfirst t ht).2) hlast hend hpiece
    rw [InsertionRule.weaveTo, hl.newText_eq]
    simpa only [List.append_assoc] using hrest

/-- The first block of what is left keeps its guard. -/
theorem keeps_blockAfter_weave {pos : Nat} (hsites : ∀ s ∈ ss, ∃ l, SiteAt cs skipExisting s l)
    (hsorted : ss.Pairwise Site.Precedes) (hpos : ∀ s ∈ ss, pos ≤ s.first) :
    Keeps guard.toList (blockAfter (cs.drop pos)) (blockAfter (rule.weave cs pos ss)) := by
  induction ss generalizing pos with
  | nil => exact Or.inl rfl
  | cons s ss ih =>
    obtain ⟨⟨l, hl⟩, hsites⟩ := List.forall_mem_cons.1 hsites
    obtain ⟨hfirst, hsorted⟩ := List.pairwise_cons.1 hsorted
    have hgap := (List.forall_mem_cons.1 hpos).1
    have hrest := ih hsites hsorted fun t ht => (hfirst t ht).2
    rw [hl.drop_eq hgap, weave_cons hl]
    refine keeps_blockAfter_append ?_ (keeps_blockAfter_piece hrest s l)
    intro pos hpos
    exact isOpener_drop_congr (l.opening_prefix_text _) (opening_prefix_piece s l _) hpos

/-! ## Layouts in new texts -/

/-- A layout that begins before a signature ends before it, so it stands there whatever comes
instead of the signature. -/
theorem exists_append_of_opening {gap ys more : List Char} {y : Nat} (hy : y < gap.length)
    (hopening : opening <+: ys) (h : (gap ++ ys).drop y = l.text ++ more) (ys' : List Char) :
    ∃ more', (gap ++ ys').drop y = l.text ++ more' := by
  have hle := Nat.le_of_lt hy
  rw [List.drop_append_of_le_length hle] at h ⊢
  rcases List.append_eq_append_iff.1 h with ⟨rest, htext, hys⟩ | ⟨rest, hgap, -⟩
  · cases hrest : rest with
    | nil =>
      rw [hrest, List.append_nil] at htext
      exact ⟨ys', by rw [htext]⟩
    | cons c cs =>
      -- The signature would stand inside the layout.
      have hinside : l.text.drop (gap.drop y).length = rest := by rw [htext, List.drop_left]
      have hlength := congrArg List.length htext
      rw [List.length_append, hrest, List.length_cons] at hlength
      have hk : 0 < (gap.drop y).length := by
        rw [List.length_drop]
        omega
      refine absurd ?_ (l.quiet_text hk (by omega) more)
      rw [hinside, ← hys]
      exact hopening
  · rw [hgap, List.append_assoc]
    exact ⟨rest ++ ys', rfl⟩

/-- A layout that stands where a site was is the text of the site, which was skipped. -/
theorem eq_of_piece_append {l' : Layout} {xs more : List Char}
    (heq : piece s l ++ xs = l'.text ++ more) :
    s.skipped = true ∧ l'.text = l.text ∧ more = xs := by
  unfold piece at heq
  split at heq
  · rename_i hskipped
    obtain ⟨htext, hmore⟩ := text_append_inj heq
    exact ⟨hskipped, htext.symm, hmore.symm⟩
  · exact absurd heq.symm (Layout.replacement_ne l l' more xs)

/-- A layout in the new text is that of a site which was skipped, and it stands behind the new text
of what comes before this site. -/
theorem exists_skipped_of_layout {pos y : Nat} {more : List Char}
    (hsites : ∀ s ∈ ss, ∃ l, SiteAt cs skipExisting s l)
    (hsorted : ss.Pairwise Site.Precedes) (hpos : ∀ s ∈ ss, pos ≤ s.first)
    (hlisted : ∀ x, pos ≤ x → ∀ (l : Layout) more, cs.drop x = l.text ++ more →
      ∃ s ∈ ss, s.first = x)
    (hy : (rule.weave cs pos ss).drop y = l.text ++ more) :
    ∃ pre s post l', ss = pre ++ s :: post ∧ SiteAt cs skipExisting s l' ∧ s.skipped = true ∧
      l.text = l'.text ∧ (rule.weave cs pos ss).take y = rule.weaveTo cs pos pre s.first ∧
      more = rule.weave cs s.last post := by
  induction ss generalizing pos y with
  | nil =>
    -- Behind the last site nothing has changed, so the layout would be one more site.
    rw [InsertionRule.weave, List.drop_drop] at hy
    obtain ⟨s, hs, -⟩ := hlisted (pos + y) (Nat.le_add_right pos y) l more hy
    cases hs
  | cons s ss ih =>
    obtain ⟨⟨l', hl⟩, hsites⟩ := List.forall_mem_cons.1 hsites
    obtain ⟨hfirst, hsorted⟩ := List.pairwise_cons.1 hsorted
    have hgap := (List.forall_mem_cons.1 hpos).1
    have hbetween := hl.first_lt_last
    have hdrop := hl.drop_eq hgap
    have hlength : (slice cs pos s.first).length = s.first - pos := by
      have := hl.last_le_length
      exact length_slice (by omega)
    rw [weave_cons hl] at hy ⊢
    rcases Nat.lt_trichotomy y (slice cs pos s.first).length with hlt | rfl | hgt
    · -- Before the site: the layout was there already, but no site was.
      obtain ⟨more', hmore'⟩ :=
        exists_append_of_opening hlt (opening_prefix_piece s l' _) hy (l'.text ++ cs.drop s.last)
      rw [← hdrop, List.drop_drop] at hmore'
      obtain ⟨t, ht, hat⟩ := hlisted (pos + y) (Nat.le_add_right pos y) l more' hmore'
      rcases List.mem_cons.1 ht with rfl | ht
      · omega
      · have := (hfirst t ht).1
        omega
    · -- At the site: it was skipped, and its text stands here.
      rw [List.drop_left] at hy
      obtain ⟨hskipped, htext, rfl⟩ := eq_of_piece_append hy
      exact ⟨[], s, ss, l', rfl, hl, hskipped, htext, List.take_left, rfl⟩
    · obtain ⟨k, rfl⟩ : ∃ k, y = (slice cs pos s.first).length + k :=
        ⟨y - (slice cs pos s.first).length, by omega⟩
      rw [← List.drop_drop, List.drop_left] at hy
      rw [List.take_length_add_append]
      by_cases hinside : k < (piece s l').length
      · -- Inside the new text of the site no signature begins.
        rw [List.drop_append_of_le_length (Nat.le_of_lt hinside)] at hy
        refine absurd ?_ (quiet_piece s l' (by omega) hinside (rule.weave cs s.last ss))
        rw [hy]
        exact l.opening_prefix_text more
      · -- Behind the site the same holds of the sites that are left.
        obtain ⟨j, rfl⟩ : ∃ j, k = (piece s l').length + j := ⟨k - (piece s l').length, by omega⟩
        rw [← List.drop_drop, List.drop_left] at hy
        rw [List.take_length_add_append]
        have hlisted' : ∀ x, s.last ≤ x → ∀ (l : Layout) more, cs.drop x = l.text ++ more →
            ∃ t ∈ ss, t.first = x := by
          intro x hx l more hstands
          obtain ⟨t, ht, rfl⟩ := hlisted x (by omega) l more hstands
          rcases List.mem_cons.1 ht with rfl | ht
          · omega
          · exact ⟨t, ht, rfl⟩
        obtain ⟨pre, t, post, l₁, rfl, ht, hskipped, htext, htake, hmore⟩ :=
          ih hsites hsorted (fun t ht => (hfirst t ht).2) hlisted' hy
        refine ⟨s :: pre, t, post, l₁, rfl, ht, hskipped, htext, ?_, hmore⟩
        rw [htake, InsertionRule.weaveTo, hl.newText_eq]

/-- What the rule makes of a source has no layout but those that were skipped. -/
theorem exists_skipped_of_layout_sites {y : Nat} {more : List Char}
    (hy : (rule.weave cs 0 (rule.sites cs skipExisting)).drop y = l.text ++ more) :
    ∃ pre s post l', rule.sites cs skipExisting = pre ++ s :: post ∧
      SiteAt cs skipExisting s l' ∧ s.skipped = true ∧ l.text = l'.text ∧
      (rule.weave cs 0 (rule.sites cs skipExisting)).take y = rule.weaveTo cs 0 pre s.first ∧
      more = rule.weave cs s.last post :=
  exists_skipped_of_layout (fun _ => exists_siteAt) (rule.sites_pairwise cs skipExisting)
    (fun s _ => Nat.zero_le s.first) (fun _ _ _ _ => exists_site_of_layout) hy

/-- A layout in the new text was skipped in the old one, and it still has the guard around it. -/
theorem guarded_of_layout {y : Nat} {more : List Char}
    (hy : (rule.weave cs 0 (rule.sites cs skipExisting)).drop y = l.text ++ more) :
    skipExisting = true ∧
      Guarded ((rule.weave cs 0 (rule.sites cs skipExisting)).take y) l.text more := by
  obtain ⟨pre, s, post, l', hsites, hl, hskipped, htext, htake, rfl⟩ :=
    exists_skipped_of_layout_sites hy
  have hsorted := rule.sites_pairwise cs skipExisting
  have hlayouts : ∀ t ∈ rule.sites cs skipExisting, ∃ l, SiteAt cs skipExisting t l :=
    fun _ => exists_siteAt
  rw [hsites] at hsorted hlayouts
  obtain ⟨hpre, hbehind, hbefore⟩ := List.pairwise_append.1 hsorted
  obtain ⟨hfirst, hpost⟩ := List.pairwise_cons.1 hbehind
  have hkept (more : List Char) : Keeps guard.toList (blockBefore (cs.take s.first) more)
      (blockBefore ([] ++ rule.weaveTo cs 0 pre s.first) more) :=
    keeps_blockBefore_weaveTo (fun t ht => hlayouts t (List.mem_append_left _ ht))
      hpre (fun t _ => Nat.zero_le t.first) (fun t ht => (hbefore t ht s List.mem_cons_self).2)
      (Nat.zero_le _) (fun _ => Or.inl rfl) more
  rw [htake, htext]
  exact hl.guarded_of_keeps hskipped hkept
    (keeps_blockAfter_weave
      (fun t ht => hlayouts t (List.mem_append_right _ (List.mem_cons_of_mem _ ht))) hpost
      fun t ht => (hfirst t ht).2)

/-! ## The rule on its own results -/

variable (source : String)

/-- What the rule made of a source, as characters. -/
theorem content_toList (skipExisting : Bool) :
    (rule.apply source skipExisting).content.toList
      = rule.weave source.toList 0 (rule.sites source.toList skipExisting) :=
  String.toList_ofList

/-- What the rule finds in what it made, it skips. -/
theorem skipped_of_mem_sites {s : Site}
    (hs : s ∈ rule.sites (rule.apply source skipExisting).content.toList skipExisting) :
    s.skipped = true := by
  obtain ⟨l, hl⟩ := exists_siteAt hs
  have hdrop := hl.drop_first
  rw [hl.skipped_iff]
  rw [content_toList] at hdrop ⊢
  exact guarded_of_layout hdrop

/-- In what the rule made it has nothing to insert. -/
theorem replacements_settled (skipExisting : Bool) :
    (rule.apply (rule.apply source skipExisting).content skipExisting).replacements = [] := by
  rw [InsertionRule.apply, List.map_eq_nil_iff, List.filter_eq_nil_iff]
  intro s hs
  simp [skipped_of_mem_sites source hs]

/-- Up to the first site that is not skipped, the new text is the old one. -/
theorem weave_append_of_skipped {pre : List Site} {pos : Nat} (hl : SiteAt cs skipExisting s l)
    (hskipped : ∀ t ∈ pre, t.skipped = true) (hbounds : ∀ t ∈ pre, t.first ≤ t.last)
    (hsorted : (pre ++ s :: ss).Pairwise Site.Precedes)
    (hpos : ∀ t ∈ pre ++ s :: ss, pos ≤ t.first) :
    rule.weave cs pos (pre ++ s :: ss)
      = slice cs pos s.first ++ (piece s l ++ rule.weave cs s.last ss) := by
  induction pre generalizing pos with
  | nil => exact weave_cons hl pos
  | cons t ts ih =>
    obtain ⟨hskip, hskipped⟩ := List.forall_mem_cons.1 hskipped
    obtain ⟨hbound, hbounds⟩ := List.forall_mem_cons.1 hbounds
    obtain ⟨hfirst, hsorted⟩ := List.pairwise_cons.1 hsorted
    have hgap := (List.forall_mem_cons.1 hpos).1
    have hbehind : t.last ≤ s.first := (hfirst s (by simp)).2
    rw [List.cons_append, InsertionRule.weave, if_pos hskip,
      ih hskipped hbounds hsorted fun t ht => (hfirst t ht).2, Site.text,
      slice_append_slice cs hgap hbound, ← List.append_assoc,
      slice_append_slice cs (Nat.le_trans hgap hbound) hbehind]

/-- What the rule made of a source has no other text with the same hash in the place of a match that
is told by its hash. -/
def HashesDiffer (source : String) (skipExisting : Bool) : Prop :=
  ∀ r ∈ (rule.apply source skipExisting).replacements,
    Verification.exactLimit < (Utf8.octets r.replaced).length → ∀ found,
      slice (Utf8.octets (rule.apply source skipExisting).content) r.byteStart r.byteEnd
        = Utf8.octets found → ¬ Xxh3.Collide found r.replaced

/-- What the rule made begins like the source. Where the two part, the source has the layout of an
edit, and the new text has a replacement. -/
theorem exists_first_edit {skipExisting : Bool}
    (hinsert : (rule.apply source skipExisting).replacements ≠ []) :
    ∃ s l more, SiteAt source.toList skipExisting s l ∧
      rule.replacementAt source.toList s ∈ (rule.apply source skipExisting).replacements ∧
      (rule.apply source skipExisting).content.toList
        = source.toList.take s.first ++ (l.replacement ++ more) := by
  -- The site is the first one that is not skipped.
  obtain ⟨s, hfind⟩ : ∃ s, (rule.sites source.toList skipExisting).find? (fun s => !s.skipped)
      = some s := by
    rw [← Option.isSome_iff_exists, List.find?_isSome]
    obtain ⟨s, hs⟩ := List.exists_mem_of_ne_nil _ fun hnil => hinsert (List.map_eq_nil_iff.2 hnil)
    exact ⟨s, List.mem_filter.1 hs⟩
  have hs := List.mem_of_find?_eq_some hfind
  obtain ⟨hnotSkipped, pre, ss, hsites, hpre⟩ := List.find?_eq_some_iff_append.1 hfind
  obtain ⟨l, hl⟩ := exists_siteAt hs
  refine ⟨s, l, rule.weave source.toList s.last ss, hl,
    List.mem_map_of_mem (List.mem_filter.2 ⟨hs, hnotSkipped⟩), ?_⟩
  have hsorted := rule.sites_pairwise source.toList skipExisting
  have hbounds := fun t => rule.sites_bounds source.toList skipExisting (s := t)
  rw [hsites] at hsorted hbounds
  rw [InsertionRule.apply, String.toList_ofList, hsites,
    weave_append_of_skipped hl (fun t ht => by simpa using hpre t ht)
      (fun t ht => (hbounds t (List.mem_append_left _ ht)).1) hsorted
      (fun t _ => Nat.zero_le t.first), piece, if_neg (by simpa using hnotSkipped)]
  rfl

/-- If the rule had something to insert, then one of the edits does not fit what it made: where the
first edit expects a layout, a replacement stands. -/
theorem exists_not_fits {skipExisting : Bool}
    (hinsert : (rule.apply source skipExisting).replacements ≠ [])
    (hhash : HashesDiffer source skipExisting) :
    ∃ r ∈ (rule.apply source skipExisting).replacements,
      ¬ r.toEdit.Fits (Utf8.octets (rule.apply source skipExisting).content) := by
  obtain ⟨s, l, more, hl, hmem, hcontent⟩ := exists_first_edit source hinsert
  refine ⟨_, hmem, ?_⟩
  rintro ⟨-, -, found, hfound, haccepts⟩
  obtain rfl := Verification.eq_of_accepts (fun hlong => hhash _ hmem hlong found hfound) haccepts
  -- The texts agree up to the site, so the edit looks at the octets of the replacement.
  have hoctets : slice (Utf8.encode (source.toList.take s.first ++ (l.replacement ++ more)))
      (Utf8.size (source.toList.take s.first)) (Utf8.size (source.toList.take s.last))
        = Utf8.encode l.text := by
    rw [← hcontent, ← hl.text]
    exact hfound.trans (congrArg Utf8.encode String.toList_ofList)
  obtain ⟨rest, hrest⟩ := Utf8.eq_append_of_slice_encode hoctets
  exact l.replacement_ne l rest more hrest.symm

end SourcePatch.QuantityStep
