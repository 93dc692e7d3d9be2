import SourcePatch.Proofs.QuantityStep.Recognition

/-!
# Layouts

What the built-in rule matches: a signature, blanks, one of two names, blanks, a brace, blanks, and
a last line with another brace.

* `matchAt_eq_some_iff`: the rule matches at a position exactly if a layout stands there, and what
  the match records are the parts of the layout.
* `Layout.head_append_inj`: the head of a layout is found in a text in one way only.
-/

namespace SourcePatch.QuantityStep

open SourcePatch.Pattern SourcePatch.Text

/-- A text that the rule matches, in its parts. The head ends with the first brace, and the tail is
the last line with the newline before it. -/
structure Layout where
  space : List Char
  name : List Char
  closing : List Char
  gap : List Char
  indent : List Char
  space_ne : space ≠ []
  closing_ne : closing ≠ []
  name_cases : name = shortName ∨ name = longName
  space_blank : ∀ c ∈ space, Blank.isBlank c = true
  closing_blank : ∀ c ∈ closing, Blank.isBlank c = true
  gap_blank : ∀ c ∈ gap, Blank.isBlank c = true
  indent_blank : ∀ c ∈ indent, Blank.isBlank c = true
  last_line : '\n' ∉ indent

namespace Layout

def head (l : Layout) : List Char :=
  opening ++ (l.space ++ (l.name ++ (l.closing ++ ['\x7d'])))

def tail (l : Layout) : List Char := '\n' :: (l.indent ++ ['\x7d'])

def text (l : Layout) : List Char := l.head ++ (l.gap ++ l.tail)

/-- What a match at a position records of the layout that stands there. -/
def slots (l : Layout) (pos : Nat) : Slots :=
  [none, none, some pos, some (pos + l.head.length), some (pos + l.head.length + l.gap.length),
    some (pos + l.text.length)]

theorem one_le_length_name (l : Layout) : 1 ≤ l.name.length := by
  rcases l.name_cases with h | h <;> rw [h] <;> decide

theorem quote_name (l : Layout) : '"' :: l.name.tail = l.name := by
  rcases l.name_cases with h | h <;> rw [h] <;> rfl

/-- Where a run has come to behind the head. -/
theorem position_head (l : Layout) (pos : Nat) :
    pos + opening.length + l.space.length + 1 + l.name.length - 1 + l.closing.length + 1
      = pos + l.head.length := by
  have := l.one_le_length_name
  simp only [head, List.length_append, List.length_cons, List.length_nil]
  omega

/-- Where a run has come to behind the tail. -/
theorem position_text (l : Layout) (pos : Nat) :
    pos + l.head.length + l.gap.length + 1 + l.indent.length + 1 = pos + l.text.length := by
  simp only [text, tail, List.length_append, List.length_cons, List.length_nil]
  omega

end Layout

/-- Blanks and the visible character behind them are found in a text in one way only. -/
theorem blanks_append_inj {xs xs' ys ys' : List Char} {c c' : Char}
    (hxs : ∀ d ∈ xs, Blank.isBlank d = true) (hxs' : ∀ d ∈ xs', Blank.isBlank d = true)
    (hc : Blank.isBlank c = false) (hc' : Blank.isBlank c' = false)
    (h : xs ++ c :: ys = xs' ++ c' :: ys') : xs = xs' ∧ c = c' ∧ ys = ys' := by
  induction xs generalizing xs' with
  | nil =>
    cases xs' with
    | nil => exact ⟨rfl, List.cons.inj h⟩
    | cons d ds =>
      obtain ⟨rfl, -⟩ := List.cons.inj h
      rw [(List.forall_mem_cons.1 hxs').1] at hc
      cases hc
  | cons d ds ih =>
    cases xs' with
    | nil =>
      obtain ⟨rfl, -⟩ := List.cons.inj h
      rw [(List.forall_mem_cons.1 hxs).1] at hc'
      cases hc'
    | cons e es =>
      obtain ⟨rfl, htail⟩ := List.cons.inj h
      obtain ⟨rfl, hrest⟩ := ih (List.forall_mem_cons.1 hxs).2 (List.forall_mem_cons.1 hxs').2 htail
      exact ⟨rfl, hrest⟩

/-- The head of a layout is found in a text in one way only. -/
theorem Layout.head_append_inj {l l' : Layout} {xs ys : List Char}
    (h : l.head ++ xs = l'.head ++ ys) : l.head = l'.head ∧ xs = ys := by
  have hparts (l : Layout) (xs : List Char) : l.head ++ xs =
      opening ++ (l.space ++ '"' :: (l.name.tail ++ (l.closing ++ '\x7d' :: xs))) := by
    rw [← List.cons_append (a := '"'), l.quote_name]
    simp [head]
  rw [hparts, hparts] at h
  obtain ⟨hspace, -, hname⟩ := blanks_append_inj l.space_blank l'.space_blank isBlank_quote
    isBlank_quote (List.append_cancel_left h)
  -- The names differ in their first letters.
  have hsame : l.name = l'.name := by
    rcases l.name_cases with hl | hl <;> rcases l'.name_cases with hl' | hl'
    · rw [hl, hl']
    · rw [hl, hl'] at hname
      exact absurd (List.cons.inj hname).1 (by decide)
    · rw [hl, hl'] at hname
      exact absurd (List.cons.inj hname).1 (by decide)
    · rw [hl, hl']
  rw [hsame] at hname
  obtain ⟨hclosing, -, hrest⟩ := blanks_append_inj l.closing_blank l'.closing_blank isBlank_brace
    isBlank_brace (List.append_cancel_left hname)
  exact ⟨by rw [head, head, hspace, hsame, hclosing], hrest⟩

/-- The rule matches at a position exactly if a layout stands there. -/
theorem matchAt_eq_some_iff {before : Option Char} {rest : List Char} {pos stop : Nat}
    {slots : Slots} :
    rule.program.matchAt before rest pos = some (stop, slots) ↔
      ∃ (l : Layout) (more : List Char), rest = l.text ++ more ∧ stop = pos + l.text.length ∧
        slots = l.slots pos := by
  rw [rule_program, Program.matchAt, start_program, run_opening]
  constructor
  · -- Each part of the run gives a part of the layout.
    rintro ⟨rest, rfl, hrun⟩
    obtain ⟨space, rest, hspace, rfl, hspaceBlank, hrun⟩ := readsBlanks_name.run_first.1 hrun
    obtain ⟨name, rest, hname, hquote, hrun⟩ := run_name.1 hrun
    obtain ⟨closing, rest, hclosing, rfl, hclosingBlank, hrun⟩ :=
      readsBlanks_close.run_first.1 hrun
    obtain ⟨gap, rest, rfl, hgap, indent, more, rfl, hindentBlank, hindent, hr⟩ :=
      run_beforeTail.1 hrun
    obtain ⟨l, rfl, rfl, rfl, rfl, rfl⟩ : ∃ l : Layout, l.space = space ∧ l.name = name ∧
        l.closing = closing ∧ l.gap = gap ∧ l.indent = indent :=
      ⟨⟨space, name, closing, gap, indent, hspace, hclosing, hname, hspaceBlank, hclosingBlank,
        hgap, hindentBlank, hindent⟩, rfl, rfl, rfl, rfl, rfl⟩
    rw [l.position_head, l.position_text] at hr
    obtain ⟨rfl, rfl⟩ := Prod.mk.inj hr
    refine ⟨l, more, ?_, rfl, rfl⟩
    rw [hquote]
    simp [Layout.text, Layout.head, Layout.tail]
  · -- The parts of the layout drive the run, from the tail back to the signature.
    rintro ⟨l, more, rfl, rfl, rfl⟩
    have htail : Breaks (l.gap ++ (l.tail ++ more)) (pos + l.head.length)
        [none, none, some pos, some (pos + l.head.length), none, none]
        (pos + l.text.length, l.slots pos) := by
      refine ⟨l.gap, l.indent ++ '\x7d' :: more, by simp [Layout.tail], l.gap_blank, l.indent,
        more, rfl, l.indent_blank, l.last_line, ?_⟩
      rw [l.position_text]
      rfl
    refine ⟨l.space ++ (l.name ++ (l.closing ++ '\x7d' :: (l.gap ++ (l.tail ++ more)))), ?_, ?_⟩
    · simp [Layout.text, Layout.head]
    refine readsBlanks_name.run_first.2 ⟨l.space, l.name.tail ++ (l.closing ++ '\x7d' ::
      (l.gap ++ (l.tail ++ more))), l.space_ne, ?_, l.space_blank, ?_⟩
    · rw [← List.cons_append (a := '"'), l.quote_name]
    refine run_name.2 ⟨l.name, l.closing ++ '\x7d' :: (l.gap ++ (l.tail ++ more)), l.name_cases,
      ?_, ?_⟩
    · rw [← List.cons_append, l.quote_name]
    refine readsBlanks_close.run_first.2 ⟨l.closing, l.gap ++ (l.tail ++ more), l.closing_ne, rfl,
      l.closing_blank, ?_⟩
    rw [l.position_head]
    exact run_beforeTail.2 htail

end SourcePatch.QuantityStep
