import SourcePatch.Proofs.QuantityStep.Settled

/-!
# The built-in rule and line breaks

Whether the lines of a source end with newlines, or with carriage returns and newlines, makes no
difference to what the built-in rule does.

* `Layout.withCrlf` is a layout with the other line breaks, and `Site.withCrlf` a site.
* `sites_withCrlf`: where the line breaks are rewritten, the rule finds the same sites.
* `apply_crlf`: rewriting the line breaks and applying the rule can be exchanged.
-/

namespace SourcePatch

open Text

/-- Where a site of a source comes to lie if carriage returns are put in front of the newlines. The
tail begins behind the carriage return. -/
def Site.withCrlf (cs : List Char) (s : Site) : Site where
  first := crlfPosition cs s.first
  last := crlfPosition cs s.last
  head := Text.withCrlf s.head
  tail := s.tail
  skipped := s.skipped

namespace QuantityStep

open SourcePatch.Pattern SourcePatch.ImplBlock

variable {cs : List Char} {skipExisting : Bool} {s t : Site} {ss : List Site} {l : Layout}

/-! ## Layouts -/

namespace Layout

theorem not_mem_name (l : Layout) : '\n' ∉ l.name ∧ '\r' ∉ l.name := by
  rcases l.name_cases with h | h <;> rw [h] <;> decide

/-- A layout with a carriage return in front of each newline. That of the last line belongs to the
gap. -/
def withCrlf (l : Layout) : Layout where
  space := Text.withCrlf l.space
  name := l.name
  closing := Text.withCrlf l.closing
  gap := Text.withCrlf l.gap ++ ['\r']
  indent := l.indent
  space_ne := List.ne_nil_of_length_pos (length_withCrlf_pos l.space_ne)
  closing_ne := List.ne_nil_of_length_pos (length_withCrlf_pos l.closing_ne)
  name_cases := l.name_cases
  space_blank := by
    intro c hc
    rcases mem_withCrlf hc with rfl | hc
    · exact Blank.isBlank_carriageReturn
    · exact l.space_blank c hc
  closing_blank := by
    intro c hc
    rcases mem_withCrlf hc with rfl | hc
    · exact Blank.isBlank_carriageReturn
    · exact l.closing_blank c hc
  gap_blank := by
    intro c hc
    rcases List.mem_append.1 hc with hc | hc
    · rcases mem_withCrlf hc with rfl | hc
      · exact Blank.isBlank_carriageReturn
      · exact l.gap_blank c hc
    · rw [List.mem_singleton.1 hc]
      exact Blank.isBlank_carriageReturn
  indent_blank := l.indent_blank
  last_line := l.last_line

theorem head_withCrlf (l : Layout) : l.withCrlf.head = Text.withCrlf l.head := by
  have hopening : Text.withCrlf opening = opening := withCrlf_of_not_mem (by decide)
  rw [head, head, withCrlf_append, withCrlf_append, withCrlf_append, withCrlf_append, hopening,
    withCrlf_of_not_mem l.not_mem_name.1]
  rfl

theorem withCrlf_tail (l : Layout) : Text.withCrlf l.tail = '\r' :: l.tail := by
  have hindent : '\n' ∉ l.indent ++ ['\x7d'] := by
    rw [List.mem_append, not_or]
    exact ⟨l.last_line, by decide⟩
  rw [tail, Text.withCrlf, if_pos rfl, withCrlf_of_not_mem hindent]

theorem text_withCrlf (l : Layout) : l.withCrlf.text = Text.withCrlf l.text := by
  have htail : l.withCrlf.tail = l.tail := rfl
  have hgap : l.withCrlf.gap = Text.withCrlf l.gap ++ ['\r'] := rfl
  rw [text, text, withCrlf_append, withCrlf_append, head_withCrlf, withCrlf_tail, htail, hgap,
    List.append_assoc, List.singleton_append]

/-- The line break in front of the last line is seen in the text. -/
theorem hasCrlf_withCrlf (l : Layout) : hasCrlf l.withCrlf.text = true := by
  rw [hasCrlf, containsText_iff]
  refine ⟨Text.withCrlf l.head ++ Text.withCrlf l.gap, l.indent ++ ['\x7d'], ?_⟩
  rw [text_withCrlf, text, withCrlf_append, withCrlf_append, withCrlf_tail, tail]
  simp

/-- The new text is rewritten as well. -/
theorem replacement_withCrlf (h : '\r' ∉ l.text) :
    l.withCrlf.replacement = Text.withCrlf l.replacement := by
  have hplain : hasCrlf l.text = false := by
    rw [Bool.eq_false_iff, Ne, hasCrlf, containsText_iff]
    intro hcrlf
    exact h (hcrlf.subset (by simp))
  have htail : '\r' ∉ l.tail := fun hmem =>
    h (List.mem_append_right _ (List.mem_append_right _ hmem))
  have hinserted : '\r' ∉ inserted false := by decide +kernel
  have hall : inserted true = toCrlf (inserted false) := by
    rw [inserted, inserted, if_pos rfl, if_neg Bool.false_ne_true]
  rw [replacement, replacement, hasCrlf_withCrlf, hplain, withCrlf_append, withCrlf_append,
    head_withCrlf, hall, toCrlf_eq_withCrlf hinserted, ending, ending, if_pos rfl,
    if_neg Bool.false_ne_true, ← toCrlf_eq_withCrlf htail]
  rfl

/-- Without the carriage returns a layout of a rewritten text is a layout. -/
theorem exists_filter {more : List Char} (hreturn : '\r' ∉ cs)
    (h : Text.withCrlf cs = l.text ++ more) :
    ∃ l' : Layout, cs = l'.text ++ more.filter (· != '\r') := by
  have hparts : Text.withCrlf cs = opening ++ (l.space ++ (l.name ++ (l.closing ++
      ('\x7d' :: (l.gap ++ (l.tail ++ more)))))) := by
    rw [h]
    simp [text, head]
  have hname : (l.name ++ (l.closing ++ ('\x7d' :: (l.gap ++ (l.tail ++ more))))).head?
      ≠ some '\n' := by
    rw [← l.quote_name]
    simp
  have hspace := filter_ne_nil_of_withCrlf_eq hreturn hparts l.space_ne hname
  have hfront : Text.withCrlf cs = (opening ++ (l.space ++ l.name)) ++ (l.closing ++
      ('\x7d' :: (l.gap ++ (l.tail ++ more)))) := by
    rw [hparts]
    simp
  have hclosing := filter_ne_nil_of_withCrlf_eq hreturn hfront l.closing_ne (by simp)
  have hblank {blanks : List Char} (h : ∀ c ∈ blanks, Blank.isBlank c = true) :
      ∀ c ∈ blanks.filter (· != '\r'), Blank.isBlank c = true :=
    fun c hc => h c (List.mem_of_mem_filter hc)
  refine ⟨⟨l.space.filter (· != '\r'), l.name, l.closing.filter (· != '\r'),
    l.gap.filter (· != '\r'), l.indent.filter (· != '\r'), hspace, hclosing, l.name_cases,
    hblank l.space_blank, hblank l.closing_blank, hblank l.gap_blank, hblank l.indent_blank,
    fun hmem => l.last_line (List.mem_of_mem_filter hmem)⟩, ?_⟩
  have hopening : '\r' ∉ opening := by decide
  rw [← filter_withCrlf hreturn, hparts]
  simp [text, head, tail, filter_of_not_mem hopening, filter_of_not_mem l.not_mem_name.2]

end Layout

/-! ## Sites -/

/-- The layouts of a rewritten text are those of the text. -/
theorem exists_layout_of_withCrlf {x : Nat} {more : List Char} (hreturn : '\r' ∉ cs)
    (h : (Text.withCrlf cs).drop x = l.text ++ more) :
    ∃ (y : Nat) (l' : Layout) (more' : List Char), cs.drop y = l'.text ++ more' ∧
      crlfPosition cs y = x := by
  have hlength := congrArg List.length h
  rw [List.length_drop, List.length_append] at hlength
  have hpos := l.length_text_pos
  have hsplit : Text.withCrlf cs = (Text.withCrlf cs).take x ++ (l.text ++ more) := by
    rw [← h, List.take_append_drop]
  have hhead : (l.text ++ more).head? ≠ some '\n' := by
    rw [l.text_eq, opening_eq]
    simp
  obtain ⟨us, vs, rfl, hus, hvs⟩ := exists_of_withCrlf_eq_append hsplit hhead
  obtain ⟨l', hl'⟩ := Layout.exists_filter (fun hmem => hreturn (List.mem_append_right us hmem)) hvs
  refine ⟨us.length, l', _, by rw [List.drop_left]; exact hl', ?_⟩
  rw [crlfPosition, List.take_left, hus, List.length_take]
  omega

/-- Two sites that begin at the same place are one. -/
theorem eq_of_first_eq (hs : s ∈ rule.sites cs skipExisting) (ht : t ∈ rule.sites cs skipExisting)
    (h : s.first = t.first) : s = t := by
  have : Std.Symm fun a b : Site => a.first ≠ b.first := ⟨fun _ _ hne => hne.symm⟩
  have hdistinct : (rule.sites cs skipExisting).Pairwise fun a b => a.first ≠ b.first :=
    (rule.sites_pairwise cs skipExisting).imp fun h => Nat.ne_of_lt h.1
  by_contra hne
  exact hdistinct.forall hs ht hne h

/-- Around a rewritten text the guard is found exactly if it was found around the text. -/
theorem guarded_withCrlf {before text after : List Char}
    (hreturn : '\r' ∉ before ++ (text ++ after)) :
    Guarded (withCrlf before) (withCrlf text) (withCrlf after) ↔ Guarded before text after := by
  have hblock : '\r' ∉ blockBefore before (text ++ after) ++ (text ++ blockAfter after) := by
    intro hmem
    refine hreturn ?_
    rcases List.mem_append.1 hmem with hmem | hmem
    · exact List.mem_append_left _ (List.mem_of_mem_drop hmem)
    rcases List.mem_append.1 hmem with hmem | hmem
    · exact List.mem_append_right _ (List.mem_append_left _ hmem)
    · exact List.mem_append_right _ (List.mem_append_right _ (List.mem_of_mem_take hmem))
  rw [Guarded, ← withCrlf_append, blockBefore_withCrlf, blockAfter_withCrlf, ← withCrlf_append,
    ← withCrlf_append, infix_withCrlf_iff (by decide +kernel) (by decide +kernel) hblock]
  rfl

/-- A site of a text is one of the rewritten text, and its layout is rewritten. -/
theorem SiteAt.withCrlf (hreturn : '\r' ∉ cs) (h : SiteAt cs skipExisting s l) :
    s.withCrlf cs ∈ rule.sites (Text.withCrlf cs) skipExisting ∧
      SiteAt (Text.withCrlf cs) skipExisting (s.withCrlf cs) l.withCrlf := by
  have hstands : (Text.withCrlf cs).drop (crlfPosition cs s.first)
      = l.withCrlf.text ++ Text.withCrlf (cs.drop s.last) := by
    rw [drop_withCrlf, h.drop_first, withCrlf_append, l.text_withCrlf]
  obtain ⟨t, ht, hfirst, htl⟩ := exists_siteAt_of_layout skipExisting hstands
  have hlast : t.last = crlfPosition cs s.last := by
    rw [htl.last, hfirst, ← crlfPosition_add_slice cs (Nat.le_of_lt h.first_lt_last),
      l.text_withCrlf, ← h.text]
    rfl
  have hskipped : t.skipped = s.skipped := by
    have hsource : cs.take s.first ++ (l.text ++ cs.drop s.last) = cs := by
      rw [← h.drop_first, List.take_append_drop]
    rw [Bool.eq_iff_iff, htl.skipped_iff, h.skipped_iff, hfirst, hlast, take_withCrlf,
      drop_withCrlf, l.text_withCrlf, guarded_withCrlf (by rwa [hsource])]
  -- The site that stands there has the parts of the rewritten site.
  have hhead : t.head = Text.withCrlf s.head := by rw [htl.head, h.head, l.head_withCrlf]
  have htail : t.tail = s.tail := htl.tail.trans h.tail.symm
  have hsame : t = s.withCrlf cs := by
    rw [Site.withCrlf, ← hfirst, ← hlast, ← hhead, ← htail, ← hskipped]
  rw [← hsame]
  exact ⟨ht, htl⟩

/-- In a rewritten text the rule finds the sites of the text. -/
theorem sites_withCrlf (hreturn : '\r' ∉ cs) (skipExisting : Bool) :
    rule.sites (withCrlf cs) skipExisting
      = (rule.sites cs skipExisting).map (Site.withCrlf cs) := by
  -- Both lists are in the strict order of their positions, so their members decide.
  have : Std.Irrefl fun a b : Site => a.first < b.first := ⟨fun a => Nat.lt_irrefl a.first⟩
  have : Std.Antisymm fun a b : Site => a.first < b.first :=
    ⟨fun _ _ hab hba => absurd hba (Nat.lt_asymm hab)⟩
  have hsorted (cs : List Char) :
      (rule.sites cs skipExisting).Pairwise fun a b => a.first < b.first :=
    (rule.sites_pairwise cs skipExisting).imp And.left
  have himages : ((rule.sites cs skipExisting).map (Site.withCrlf cs)).Pairwise
      fun a b => a.first < b.first := by
    rw [List.pairwise_map]
    refine (hsorted cs).imp_of_mem fun {a b} _ hb hab => ?_
    obtain ⟨l, hl⟩ := exists_siteAt hb
    exact crlfPosition_lt cs hab (Nat.le_trans (Nat.le_of_lt hl.first_lt_last) hl.last_le_length)
  refine (hsorted _).eq_of_mem_iff himages fun t => ?_
  rw [List.mem_map]
  constructor
  · intro ht
    obtain ⟨l, hl⟩ := exists_siteAt ht
    obtain ⟨y, l', more, hdrop, hy⟩ := exists_layout_of_withCrlf hreturn hl.drop_first
    obtain ⟨s, hs, rfl, hsl⟩ := exists_siteAt_of_layout skipExisting hdrop
    exact ⟨s, hs, eq_of_first_eq (hsl.withCrlf hreturn).1 ht hy⟩
  · rintro ⟨s, hs, rfl⟩
    obtain ⟨l, hl⟩ := exists_siteAt hs
    exact (hl.withCrlf hreturn).1

/-! ## New texts -/

/-- What is woven from the rewritten text is the rewritten new text. -/
theorem weave_withCrlf (hreturn : '\r' ∉ cs) {pos : Nat}
    (hsites : ∀ s ∈ ss, ∃ l, SiteAt cs skipExisting s l) (hsorted : ss.Pairwise Site.Precedes)
    (hpos : ∀ s ∈ ss, pos ≤ s.first) :
    rule.weave (withCrlf cs) (crlfPosition cs pos) (ss.map (Site.withCrlf cs))
      = withCrlf (rule.weave cs pos ss) := by
  induction ss generalizing pos with
  | nil => exact drop_withCrlf cs pos
  | cons s ss ih =>
    obtain ⟨⟨l, hl⟩, hsites⟩ := List.forall_mem_cons.1 hsites
    obtain ⟨hfirst, hsorted⟩ := List.pairwise_cons.1 hsorted
    have hgap := (List.forall_mem_cons.1 hpos).1
    have hpiece : piece (s.withCrlf cs) l.withCrlf = withCrlf (piece s l) := by
      have htext : '\r' ∉ l.text := by
        rw [← hl.text]
        exact fun hmem => hreturn (List.mem_of_mem_drop (List.mem_of_mem_take hmem))
      unfold piece
      cases hskipped : s.skipped with
      | true =>
        rw [Site.withCrlf, hskipped, if_pos rfl, if_pos rfl, l.text_withCrlf]
      | false =>
        rw [Site.withCrlf, hskipped, if_neg Bool.false_ne_true, if_neg Bool.false_ne_true,
          Layout.replacement_withCrlf htext]
    have hgapText : slice (withCrlf cs) (crlfPosition cs pos) (s.withCrlf cs).first
        = withCrlf (slice cs pos s.first) := slice_withCrlf cs hgap
    have hrest : rule.weave (withCrlf cs) (s.withCrlf cs).last (ss.map (Site.withCrlf cs))
        = withCrlf (rule.weave cs s.last ss) := ih hsites hsorted fun t ht => (hfirst t ht).2
    rw [List.map_cons, weave_cons (hl.withCrlf hreturn).2, weave_cons hl, withCrlf_append,
      withCrlf_append, hpiece, hgapText, hrest]

/-- A string with a carriage return put in front of each newline. -/
def crlf (source : String) : String := String.ofList (withCrlf source.toList)

/-- For a source without carriage returns it does not matter whether they are put in front of its
newlines before the rule is applied or in the new text. There are as many matches, on the same
lines, and the same ones are skipped. -/
theorem apply_crlf {source : String} (hreturn : '\r' ∉ source.toList) (skipExisting : Bool) :
    ((rule.apply (crlf source) skipExisting).hits.map fun m => (m.line, m.skipped))
        = ((rule.apply source skipExisting).hits.map fun m => (m.line, m.skipped)) ∧
      (rule.apply (crlf source) skipExisting).content
        = crlf (rule.apply source skipExisting).content := by
  have hsource : (crlf source).toList = withCrlf source.toList := String.toList_ofList
  have hsites := sites_withCrlf hreturn skipExisting
  constructor
  · rw [InsertionRule.hits_apply, InsertionRule.hits_apply, hsource, hsites, List.map_map,
      List.map_map, List.map_map]
    refine List.map_congr_left fun s _ => ?_
    have hline : lineNumber (withCrlf source.toList) (crlfPosition source.toList s.first)
        = lineNumber source.toList s.first := by
      rw [lineNumber, take_withCrlf, count_newline_withCrlf]
      rfl
    exact congrArg (·, s.skipped) hline
  · have hweave := weave_withCrlf hreturn (fun _ => exists_siteAt)
      (rule.sites_pairwise source.toList skipExisting) fun s _ => Nat.zero_le s.first
    have hcontent : (rule.apply (crlf source) skipExisting).content.toList
        = withCrlf (rule.apply source skipExisting).content.toList := by
      rw [content_toList, content_toList, hsource, hsites, ← hweave]
      rfl
    exact String.ofList_toList.symm.trans (congrArg String.ofList hcontent)

/-- A method whose lines end with carriage returns and newlines gets the new method with such lines
as well. -/
theorem apply_crlf_mock :
    '\r' ∉ "fn backend_name(&self) -> &str \x7b\n\"mock\"\n\x7d\n\x7d\n".toList ∧
      (rule.apply "fn backend_name(&self) -> &str \x7b\r\n\"mock\"\r\n\x7d\r\n\x7d\r\n"
          true).content
        = crlf ("fn backend_name(&self) -> &str \x7b\n\"mock\"\n\x7d\n\n" ++ method
          ++ "\n\x7d\n") := by
  have hreturn : '\r' ∉ "fn backend_name(&self) -> &str \x7b\n\"mock\"\n\x7d\n\x7d\n".toList := by
    decide +kernel
  refine ⟨hreturn, (apply_crlf hreturn true).2.trans (congrArg crlf ?_)⟩
  rw [rule_eq]
  decide +kernel

end QuantityStep

end SourcePatch
