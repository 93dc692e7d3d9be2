import SourcePatch.Proofs.QuantityStep.Sites

/-!
# What the built-in rule finds

The places that the built-in rule is for, described by what stands there and without its program: a
method that names a mock backend, then blanks with a line break among them, and the brace that
closes the block.

* `Occurrence` is such a place in a source, with the parts that are reported of it.
* `hits_iff_occurrence`: the rule reports the occurrences of a source, each of them once and from
  left to right, and nothing else.
-/

namespace SourcePatch.QuantityStep

open SourcePatch.Text

/-! ## Last lines -/

/-- What stands behind the last newline of a text. -/
def lastLine (text : List Char) : List Char := (text.reverse.takeWhile (· != '\n')).reverse

theorem lastLine_append {xs ys : List Char} (h : '\n' ∉ ys) : lastLine (xs ++ '\n' :: ys) = ys := by
  have hys : ∀ c ∈ ys.reverse, (c != '\n') = true := by
    intro c hc
    rw [bne_iff_ne]
    rintro rfl
    exact h (List.mem_reverse.1 hc)
  rw [lastLine, List.reverse_append, List.reverse_cons, List.append_assoc, List.singleton_append,
    List.takeWhile_append_of_pos hys, List.takeWhile_cons_of_neg (by simp), List.append_nil,
    List.reverse_reverse]

/-- A text with a newline is what comes before its last newline, that newline, and its last line. -/
theorem exists_eq_append_lastLine {text : List Char} (h : '\n' ∈ text) :
    ∃ front, text = front ++ '\n' :: lastLine text ∧ '\n' ∉ lastLine text := by
  obtain ⟨ys, xs, hsplit, hys⟩ := List.eq_append_cons_of_mem (List.mem_reverse.2 h)
  have htext : text = xs.reverse ++ '\n' :: ys.reverse := by
    rw [← List.reverse_reverse text, hsplit]
    simp
  have hlast : '\n' ∉ ys.reverse := fun hmem => hys (List.mem_reverse.1 hmem)
  refine ⟨xs.reverse, ?_, ?_⟩
  · rw [htext, lastLine_append hlast]
  · rw [htext, lastLine_append hlast]
    exact hlast

/-! ## Occurrences -/

/-- A place in a source where a method that names a mock backend ends its block. The run of blanks
between the two closing braces is all that stands between them, and it has a line break. -/
structure Occurrence (source : List Char) where
  before : List Char
  space : List Char
  name : List Char
  closing : List Char
  run : List Char
  after : List Char
  source_eq : source =
    before ++ (opening ++ space ++ name ++ closing ++ ['\x7d'] ++ run ++ ['\x7d'] ++ after)
  space_ne : space ≠ []
  space_blank : ∀ c ∈ space, Blank.isBlank c = true
  name_cases : name = shortName ∨ name = longName
  closing_ne : closing ≠ []
  closing_blank : ∀ c ∈ closing, Blank.isBlank c = true
  run_blank : ∀ c ∈ run, Blank.isBlank c = true
  newline_mem : '\n' ∈ run

namespace Occurrence

variable {source : List Char} (o : Occurrence source)

/-- The method, up to and with its closing brace. -/
def head : List Char := opening ++ o.space ++ o.name ++ o.closing ++ ['\x7d']

/-- The last newline before the closing brace of the block, and what follows it up to that brace. -/
def tail : List Char := '\n' :: (lastLine o.run ++ ['\x7d'])

theorem take_before : source.take o.before.length = o.before := by
  have htake := congrArg (List.take o.before.length) o.source_eq
  rwa [List.take_left] at htake

/-- The offset of the first octet. -/
def byteStart : Nat := Utf8.size o.before

/-- The offset behind the last octet. -/
def byteEnd : Nat := Utf8.size (o.before ++ (o.head ++ o.run ++ ['\x7d']))

end Occurrence

variable {cs : List Char} {skipExisting : Bool} {s : Site} {l : Layout}

/-- The layout at an occurrence. -/
theorem Occurrence.exists_layout (o : Occurrence cs) :
    ∃ l : Layout, l.head = o.head ∧ l.tail = o.tail ∧ l.text = o.head ++ o.run ++ ['\x7d'] ∧
      cs.drop o.before.length = l.text ++ o.after := by
  obtain ⟨gap, hrun, hindent⟩ := exists_eq_append_lastLine o.newline_mem
  have hblank : (∀ c ∈ gap, Blank.isBlank c = true) ∧
      ∀ c ∈ lastLine o.run, Blank.isBlank c = true := by
    have hall := o.run_blank
    rw [hrun] at hall
    refine ⟨fun c hc => hall c (List.mem_append_left _ hc), fun c hc => ?_⟩
    exact hall c (List.mem_append_right _ (List.mem_cons_of_mem _ hc))
  obtain ⟨l, hl⟩ : ∃ l : Layout, l =
      ⟨o.space, o.name, o.closing, gap, lastLine o.run, o.space_ne, o.closing_ne, o.name_cases,
        o.space_blank, o.closing_blank, hblank.1, hblank.2, hindent⟩ := ⟨_, rfl⟩
  have hhead : l.head = o.head := by
    rw [hl]
    simp [Layout.head, Occurrence.head]
  have htail : l.tail = o.tail := by
    rw [hl]
    rfl
  have htext : l.text = o.head ++ o.run ++ ['\x7d'] := by
    have hgap : l.gap = gap := by rw [hl]
    rw [Layout.text, hhead, htail, hgap, tail]
    conv => rhs; rw [hrun]
    simp
  refine ⟨l, hhead, htail, htext, ?_⟩
  have hdrop := congrArg (List.drop o.before.length) o.source_eq
  rw [List.drop_left] at hdrop
  rw [hdrop, htext, Occurrence.head]

/-- The occurrence at a site. -/
theorem SiteAt.exists_occurrence (h : SiteAt cs skipExisting s l) :
    ∃ o : Occurrence cs, o.before = cs.take s.first ∧ o.head = l.head ∧ o.tail = l.tail ∧
      o.head ++ o.run ++ ['\x7d'] = l.text := by
  obtain ⟨more, hmore⟩ := h.stands
  have hnewline : '\n' ∈ l.gap ++ '\n' :: l.indent := by simp
  have hblank : ∀ c ∈ l.gap ++ '\n' :: l.indent, Blank.isBlank c = true := by
    intro c hc
    rcases List.mem_append.1 hc with hc | hc
    · exact l.gap_blank c hc
    rcases List.mem_cons.1 hc with rfl | hc
    · exact Blank.isBlank_newline
    · exact l.indent_blank c hc
  have hsource : cs = cs.take s.first ++ (opening ++ l.space ++ l.name ++ l.closing ++ ['\x7d']
      ++ (l.gap ++ '\n' :: l.indent) ++ ['\x7d'] ++ more) := by
    conv => lhs; rw [← List.take_append_drop s.first cs, hmore]
    simp [Layout.text, Layout.head, Layout.tail]
  refine ⟨⟨cs.take s.first, l.space, l.name, l.closing, l.gap ++ '\n' :: l.indent, more, hsource,
    l.space_ne, l.space_blank, l.name_cases, l.closing_ne, l.closing_blank, hblank, hnewline⟩,
    rfl, ?_, ?_, ?_⟩
  · simp [Occurrence.head, Layout.head]
  · rw [Occurrence.tail, lastLine_append l.last_line, Layout.tail]
  · simp [Occurrence.head, Layout.text, Layout.head, Layout.tail]

/-- The rule reports the occurrences of a source and nothing else, from left to right and each of
them once; no two overlap. -/
theorem hits_iff_occurrence (source : String) (skipExisting : Bool) :
    (rule.apply source skipExisting).hits.Pairwise
      (fun a b => a.byteStart < b.byteStart ∧ a.byteEnd ≤ b.byteStart) ∧
    ∀ first last head tail,
      (∃ hit ∈ (rule.apply source skipExisting).hits,
        hit.byteStart = first ∧ hit.byteEnd = last ∧ hit.head = head ∧ hit.tail = tail) ↔
      ∃ o : Occurrence source.toList, o.byteStart = first ∧ o.byteEnd = last ∧
        String.ofList o.head = head ∧ String.ofList o.tail = tail := by
  refine ⟨rule.hits_pairwise skipExisting source, ?_⟩
  intro first last head tail
  constructor
  · rintro ⟨hit, hhit, rfl, rfl, rfl, rfl⟩
    obtain ⟨s, hs, rfl⟩ := List.mem_map.1 hhit
    obtain ⟨l, hl⟩ := exists_siteAt hs
    obtain ⟨o, hbefore, hhead, htail, htext⟩ := hl.exists_occurrence
    refine ⟨o, ?_, ?_, ?_, ?_⟩
    · rw [Occurrence.byteStart, hbefore]
      rfl
    · rw [Occurrence.byteEnd, hbefore, htext, ← hl.take_last]
      rfl
    · rw [hhead, ← hl.head]
      rfl
    · rw [htail, ← hl.tail]
      rfl
  · rintro ⟨o, rfl, rfl, rfl, rfl⟩
    obtain ⟨l, hhead, htail, htext, hdrop⟩ := o.exists_layout
    obtain ⟨s, hs, hfirst, hl⟩ := exists_siteAt_of_layout skipExisting hdrop
    refine ⟨s.span source.toList, List.mem_map_of_mem hs, ?_, ?_, ?_, ?_⟩
    · rw [Site.span, hfirst, o.take_before]
      rfl
    · rw [Site.span, hl.take_last, hfirst, o.take_before, htext]
      rfl
    · rw [← hhead, ← hl.head]
      rfl
    · rw [← htail, ← hl.tail]
      rfl

end SourcePatch.QuantityStep
