import SourcePatch.Proofs.QuantityStep.Settled

/-!
# The fixed point of the built-in rule

One pass of the built-in rule is enough.

* `SiteAt.span_eq_image`: a match in the new text is the image of a match in the old one.
* `settles_in_one_pass`: in what it made the rule finds nothing but the matches that it skipped, and
  it skips them again.
-/

namespace SourcePatch.QuantityStep

open SourcePatch.Pattern SourcePatch.Text

variable {source : String} {s t : Site} {l l' : Layout} {pre post : List Site}

/-- A layout has its parts from its text. -/
theorem parts_of_text_eq (h : l.text = l'.text) : l.head = l'.head ∧ l.tail = l'.tail := by
  have hmatch (l : Layout) :
      rule.program.matchAt none l.text 0 = some (0 + l.text.length, l.slots 0) :=
    matchAt_eq_some_iff.2 ⟨l, [], (List.append_nil _).symm, rfl, rfl⟩
  have hsame := hmatch l
  rw [h, hmatch l'] at hsame
  -- The match records where the parts end, and so they are cut out of one text at the same places.
  obtain ⟨hhead, hgap⟩ : l'.head.length = l.head.length ∧ l'.gap.length = l.gap.length := by
    have hslots := (Prod.mk.inj (Option.some.inj hsame)).2
    simp only [Layout.slots, List.cons.injEq, Option.some.injEq] at hslots
    omega
  obtain ⟨hheads, hrest⟩ := List.append_inj h hhead.symm
  exact ⟨hheads, (List.append_inj hrest hgap.symm).2⟩

/-- Without skipping, nothing that the rule looks for is left. -/
theorem sites_content_nil (source : String) (skipExisting : Bool) :
    rule.sites (rule.apply source false).content.toList skipExisting = [] := by
  rw [List.eq_nil_iff_forall_not_mem]
  intro s hs
  obtain ⟨l, hl⟩ := exists_siteAt hs
  have hdrop := hl.drop_first
  rw [content_toList] at hdrop
  obtain ⟨hskip, -⟩ := guarded_of_layout hdrop
  cases hskip

/-- A match in the new text is the image of the match whose layout stands there. -/
theorem SiteAt.span_eq_image
    (hsites : rule.sites source.toList true = pre ++ s :: post)
    (hs : SiteAt source.toList true s l) (hskipped : s.skipped = true)
    (ht : SiteAt (rule.apply source true).content.toList true t l') (hkept : t.skipped = true)
    (htext : l'.text = l.text)
    (hfront : (rule.apply source true).content.toList.take t.first
      = rule.weaveTo source.toList 0 pre s.first) :
    t.span (rule.apply source true).content.toList
      = (rule.apply source true).image (s.span source.toList) := by
  obtain ⟨hhead, htail⟩ := parts_of_text_eq htext
  rw [rule.image_span hsites hskipped, hs.text, Site.span, Site.span, ht.take_last, lineNumber,
    hfront, htext, ht.head, ht.tail, hs.head, hs.tail, hhead, htail, hkept, hskipped]

/-- The matches that are skipped have images in their order. -/
theorem images_pairwise (source : String) :
    (((rule.apply source true).hits.filter (·.skipped)).map (rule.apply source true).image).Pairwise
      fun a b => a.byteStart < b.byteStart := by
  rw [InsertionRule.hits_apply, List.filter_map, List.map_map, List.pairwise_map,
    List.pairwise_filter, List.pairwise_iff_forall_sublist]
  intro s t hst (hs : s.skipped = true) (ht : t.skipped = true)
  -- The second of two sites comes behind the first, with the text of the first between them.
  obtain ⟨front, back, hsites, hmem, hback⟩ := List.cons_sublist_iff.1 hst
  obtain ⟨pre, mid₁, rfl⟩ := List.append_of_mem hmem
  obtain ⟨mid₂, post, rfl⟩ := List.append_of_mem (List.singleton_sublist.1 hback)
  obtain ⟨l, hl⟩ : ∃ l, SiteAt source.toList true s l := by
    refine exists_siteAt ?_
    rw [hsites]
    simp
  have hfirst : rule.sites source.toList true = pre ++ s :: (mid₁ ++ (mid₂ ++ t :: post)) := by
    rw [hsites]
    simp
  have hsecond : rule.sites source.toList true = (pre ++ s :: (mid₁ ++ mid₂)) ++ t :: post := by
    rw [hsites]
    simp
  simp only [Function.comp_apply]
  have hlong := Utf8.size_take_lt source.toList hl.first_lt_last hl.last_le_length
  rw [hl.take_last, Utf8.size_append] at hlong
  rw [rule.image_span hfirst hs, rule.image_span hsecond ht]
  simp only
  rw [InsertionRule.weaveTo_append_cons, hl.newText_eq, piece, if_pos hs, Utf8.size_append,
    Utf8.size_append]
  omega

/-- The matches in the new text are the images of those that were skipped. -/
theorem mem_hits_content_iff (source : String) (m : MatchSpan) :
    m ∈ (rule.apply (rule.apply source true).content true).hits ↔
      m ∈ ((rule.apply source true).hits.filter (·.skipped)).map
        (rule.apply source true).image := by
  rw [InsertionRule.mem_hits_iff, List.mem_map]
  constructor
  · rintro ⟨t, ht, rfl⟩
    obtain ⟨l', hl'⟩ := exists_siteAt ht
    have hdrop := hl'.drop_first
    rw [content_toList] at hdrop
    obtain ⟨pre, s, post, l, hsites, hl, hskipped, htext, hfront, -⟩ :=
      exists_skipped_of_layout_sites hdrop
    rw [← content_toList] at hfront
    have hmem : s ∈ rule.sites source.toList true := by
      rw [hsites]
      simp
    have himage :=
      hl.span_eq_image hsites hskipped hl' (skipped_of_mem_sites source ht) htext hfront
    refine ⟨s.span source.toList, List.mem_filter.2 ⟨?_, hskipped⟩, himage.symm⟩
    exact (rule.mem_hits_iff true source).2 ⟨s, hmem, rfl⟩
  · rintro ⟨m, hm, rfl⟩
    obtain ⟨hm, hskipped⟩ := List.mem_filter.1 hm
    obtain ⟨s, hs, rfl⟩ := (rule.mem_hits_iff true source).1 hm
    replace hskipped : s.skipped = true := hskipped
    obtain ⟨l, hl⟩ := exists_siteAt hs
    obtain ⟨pre, post, hsites⟩ := List.append_of_mem hs
    -- The text of the site stands behind the new text of what is before it.
    have hcontent : (rule.apply source true).content.toList
        = rule.weaveTo source.toList 0 pre s.first
          ++ (l.text ++ rule.weave source.toList s.last post) := by
      rw [content_toList, hsites, rule.weave_append_cons, hl.newText_eq, piece, if_pos hskipped]
    have hdrop := congrArg (List.drop (rule.weaveTo source.toList 0 pre s.first).length) hcontent
    rw [List.drop_left] at hdrop
    obtain ⟨t, ht, hfirst, hl'⟩ := exists_siteAt_of_layout true hdrop
    have hfront : (rule.apply source true).content.toList.take t.first
        = rule.weaveTo source.toList 0 pre s.first := by
      rw [hfirst, hcontent, List.take_left]
    exact ⟨t, ht,
      hl.span_eq_image hsites hskipped hl' (skipped_of_mem_sites source ht) rfl hfront⟩

/-- What the rule made without skipping has no match at all. What it made with skipping has the
matches that were skipped, moved by what was inserted before them; they are skipped again, and
nothing is inserted. In both cases the text stays as it is. -/
theorem settles_in_one_pass (source : String) :
    (∀ skipExisting, rule.apply (rule.apply source false).content skipExisting
      = ⟨(rule.apply source false).content, [], []⟩) ∧
    rule.apply (rule.apply source true).content true
      = ⟨(rule.apply source true).content,
          ((rule.apply source true).hits.filter (·.skipped)).map (rule.apply source true).image,
          []⟩ := by
  constructor
  · intro skipExisting
    rw [InsertionRule.apply, sites_content_nil]
    simp [InsertionRule.weave]
  · have hreplacements := replacements_settled source true
    have hcontent := rule.content_of_replacements_nil hreplacements
    have hhits : (rule.apply (rule.apply source true).content true).hits
        = ((rule.apply source true).hits.filter (·.skipped)).map
          (rule.apply source true).image := by
      -- Both lists are in the strict order of the offsets, so their members decide.
      have : Std.Irrefl fun a b : MatchSpan => a.byteStart < b.byteStart :=
        ⟨fun a => Nat.lt_irrefl a.byteStart⟩
      have : Std.Antisymm fun a b : MatchSpan => a.byteStart < b.byteStart :=
        ⟨fun _ _ hab hba => absurd hba (Nat.lt_asymm hab)⟩
      exact ((rule.hits_pairwise true _).imp fun h => h.1).eq_of_mem_iff (images_pairwise source)
        (mem_hits_content_iff source)
    rw [← hhits]
    generalize rule.apply (rule.apply source true).content true = twice at hreplacements hcontent
    obtain ⟨content, hits, replacements⟩ := twice
    simp only at hreplacements hcontent
    rw [hreplacements, hcontent]

end SourcePatch.QuantityStep
