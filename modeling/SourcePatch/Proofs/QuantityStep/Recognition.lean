import SourcePatch.Proofs.Pattern.Runs
import SourcePatch.Rule.QuantityStep

/-!
# What the built-in rule matches

The program of the built-in rule, and what its threads read: a signature, blanks, one of two names,
blanks, a brace, blanks, and a last line with another brace.

* `rule_eq`: what the rule is compiled to.
* `run_opening`, `readsBlanks_name`, `run_name`, `readsBlanks_close` and `run_beforeTail`: the parts
  of the pattern, one after another. Each says which text leads from the threads at its beginning
  to those at its end.
-/

namespace SourcePatch.QuantityStep

open SourcePatch.Pattern SourcePatch.Pattern.Program SourcePatch.Text

/-! ## The program -/

/-- What a method that names the backend begins with. -/
def opening : List Char := "fn backend_name(&self) -> &str \x7b".toList

def shortName : List Char := "\"mock\"".toList

def longName : List Char := "\"MockBackend\"".toList

/-- The instructions of the rule: the signature, blanks, one of the two names, blanks, and the two
closing braces. -/
def instructions : List Instr :=
  Instr.save 2 1 :: literal 1 opening 33
    ++ [Instr.jump 34, Instr.read Blank.blanks 35, Instr.split 34 36, Instr.split 37 43]
    ++ literal 37 shortName 56 ++ literal 43 longName 56
    ++ [Instr.jump 57, Instr.read Blank.blanks 58, Instr.split 57 59,
      Instr.read (.singleton '\x7d') 60, Instr.save 3 61,
      Instr.split 62 64, Instr.read Blank.blanks 63, Instr.split 62 64,
      Instr.save 4 65, Instr.read (.singleton '\n') 66,
      Instr.split 67 69, Instr.read Blank.blanks 68, Instr.split 67 69,
      Instr.read (.singleton '\x7d') 70, Instr.save 5 71, Instr.accept]

def program : Program := ⟨instructions.toArray, 2⟩

/-- What the rule is compiled to. -/
theorem rule_eq : rule = { program, insertion := method, guard := some guard } := by
  -- Compiling is a computation on the pattern; what comes of it is compared field by field.
  have h : rule.program.instrs = instructions.toArray ∧ rule.program.groups = 2 ∧
      rule.insertion = method ∧ rule.separator = "\n\n" := by
    decide +kernel
  have hguard : rule.guard = some guard := rfl
  generalize rule = r at h hguard ⊢
  obtain ⟨⟨instrs, groups⟩, insertion, separator, g⟩ := r
  obtain ⟨rfl, rfl, rfl, rfl⟩ := h
  obtain rfl : g = some guard := hguard
  rfl

theorem rule_program : rule.program = program := by rw [rule_eq]

theorem rule_insertion : rule.insertion = method := by rw [rule_eq]

theorem rule_separator : rule.separator = "\n\n" := by rw [rule_eq]

/-! ## The parts of the pattern -/

section Parts

variable {rest : List Char} {pos : Nat} {slots : Slots} {r : Nat × Slots} {c : Char}
  {s : Surroundings}

theorem ne_of_blank {d : Char} (hc : Blank.isBlank c = true) (hd : Blank.isBlank d = false) :
    c ≠ d := by
  rintro rfl
  rw [hc] at hd
  cases hd

theorem isBlank_quote : Blank.isBlank '"' = false := by decide

theorem isBlank_brace : Blank.isBlank '\x7d' = false := by decide

theorem fuel_program : program.fuel = 73 := rfl

/-- The instructions that read the blanks before a name and its first two characters. -/
theorem instrs_name :
    program.instrs[34]? = some (.read Blank.blanks 35) ∧
    program.instrs[35]? = some (.split 34 36) ∧
    program.instrs[36]? = some (.split 37 43) ∧
    program.instrs[37]? = some (.read (.singleton '"') 38) ∧
    program.instrs[43]? = some (.read (.singleton '"') 44) ∧
    program.instrs[38]? = some (.read (.singleton 'm') 39) ∧
    program.instrs[44]? = some (.read (.singleton 'M') 45) := by
  decide +kernel

/-- The instructions that read the blanks behind a name and the brace. -/
theorem instrs_close :
    program.instrs[57]? = some (.read Blank.blanks 58) ∧
    program.instrs[58]? = some (.split 57 59) ∧
    program.instrs[59]? = some (.read (.singleton '\x7d') 60) ∧
    program.instrs[60]? = some (.save 3 61) ∧
    program.instrs[61]? = some (.split 62 64) := by
  decide +kernel

/-- The instructions that read the blanks behind the brace, and the tail. -/
theorem instrs_tail :
    program.instrs[62]? = some (.read Blank.blanks 63) ∧
    program.instrs[63]? = some (.split 62 64) ∧
    program.instrs[64]? = some (.save 4 65) ∧
    program.instrs[65]? = some (.read (.singleton '\n') 66) ∧
    program.instrs[66]? = some (.split 67 69) ∧
    program.instrs[67]? = some (.read Blank.blanks 68) ∧
    program.instrs[68]? = some (.split 67 69) ∧
    program.instrs[69]? = some (.read (.singleton '\x7d') 70) ∧
    program.instrs[70]? = some (.save 5 71) ∧
    program.instrs[71]? = some .accept := by
  decide +kernel

theorem start_program (before : Option Char) (rest : List Char) (pos : Nat) :
    program.start before rest pos = [⟨1, [none, none, some pos, none, none, none]⟩] := rfl

/-- The signature, up to its brace. -/
theorem run_opening :
    program.run rest pos [⟨1, slots⟩] none = some r ↔
      ∃ more, rest = opening ++ more ∧
        program.run more (pos + opening.length) [⟨34, slots⟩] none = some r := by
  have hp : ∀ i, i < opening.length →
      program.instrs[1 + i]? = (literal 1 opening 33)[i]? := by decide +kernel
  exact run_literal (by decide) hp fun s pos => rfl

/-- Behind a blank: another one, or either name. -/
theorem follow_name : (program.follow s pos program.fuel 35 slots {}).reversed
    = [⟨43, slots⟩, ⟨37, slots⟩, ⟨34, slots⟩] := by
  obtain ⟨at34, at35, at36, at37, at43, -⟩ := instrs_name
  simp +decide only [fuel_program, follow_succ, at34, at35, at36, at37, at43, if_false]

/-- Behind a quotation mark: the rest of either name. -/
theorem follow_names :
    (program.follow s pos program.fuel 44 slots
      (program.follow s pos program.fuel 38 slots {})).reversed = [⟨44, slots⟩, ⟨38, slots⟩] := by
  obtain ⟨-, -, -, -, -, at38, at44⟩ := instrs_name
  simp +decide only [fuel_program, follow_succ, at38, at44, if_false]

/-- Blanks before a name, up to the quotation mark that begins it. -/
theorem readsBlanks_name :
    ReadsBlanks program [⟨34, slots⟩] [⟨34, slots⟩, ⟨37, slots⟩, ⟨43, slots⟩] '"'
      fun _ => [⟨38, slots⟩, ⟨44, slots⟩] := by
  obtain ⟨at34, -, -, at37, at43, -⟩ := instrs_name
  refine ⟨?_, by simp, by simp, isBlank_quote, ?_, ?_, ?_⟩
  · intro t ht
    simp only [List.cons_append, List.nil_append, List.mem_cons, List.not_mem_nil, or_false] at ht
    rcases ht with rfl | rfl | rfl | rfl <;> rfl
  · intro c s pos hc
    have hne := ne_of_blank hc isBlank_quote
    simp only [Program.advance, List.foldl_cons, List.foldl_nil, step_blank at34, step_char at37,
      step_char at43, hc, hne, if_true, if_false, follow_name]
    exact ⟨rfl, rfl⟩
  · intro s pos
    simp only [Program.advance, List.foldl_cons, List.foldl_nil, step_blank at34, step_char at37,
      step_char at43, isBlank_quote, if_true, if_false, Bool.false_eq_true, follow_names]
    exact ⟨rfl, rfl⟩
  · intro c s pos hc hstop
    simp only [Program.advance, List.foldl_cons, List.foldl_nil, step_blank at34, step_char at37,
      step_char at43, hc, hstop, if_false, Bool.false_eq_true]
    exact ⟨rfl, rfl⟩

/-- The threads behind the quotation mark read one name each. -/
theorem run_names :
    program.run rest pos [⟨38, slots⟩, ⟨44, slots⟩] none = some r ↔
      program.run rest pos [⟨38, slots⟩] none = some r ∨
        program.run rest pos [⟨44, slots⟩] none = some r := by
  obtain ⟨-, -, -, -, -, at38, at44⟩ := instrs_name
  have hshort : ∀ t ∈ [(⟨38, slots⟩ : Thread)], program.isAccepting t = false := by
    intro t ht
    rw [List.mem_singleton.1 ht]
    rfl
  have hlong : ∀ t ∈ [(⟨44, slots⟩ : Thread)], program.isAccepting t = false := by
    intro t ht
    rw [List.mem_singleton.1 ht]
    rfl
  have hboth : ∀ t ∈ [(⟨38, slots⟩ : Thread), ⟨44, slots⟩], program.isAccepting t = false := by
    intro t ht
    rcases List.mem_cons.1 ht with rfl | ht
    · rfl
    · exact hlong t ht
  cases rest with
  | nil => simp [run_end hboth, run_end hshort, run_end hlong]
  | cons c cs =>
    rw [run_cons hboth (by simp), run_cons hshort (by simp), run_cons hlong (by simp)]
    simp only [Program.advance, List.foldl_cons, List.foldl_nil, step_char at38, step_char at44]
    -- no character begins both names
    by_cases hm : c = 'm'
    · have hM : c ≠ 'M' := by
        rw [hm]
        decide
      simp only [hm, if_true, if_neg (by decide : ¬ 'm' = 'M'), List.reverse_nil, run_nil,
        reduceCtorEq, or_false]
    · simp only [hm, if_false, List.reverse_nil, run_nil, reduceCtorEq, false_or]

/-- The rest of either name, up to the brace that follows it. -/
theorem run_name :
    program.run rest pos [⟨38, slots⟩, ⟨44, slots⟩] none = some r ↔
      ∃ name more, (name = shortName ∨ name = longName) ∧ '"' :: rest = name ++ more ∧
        program.run more (pos + name.length - 1) [⟨57, slots⟩] none = some r := by
  have hshort : ∀ i, i < shortName.tail.length →
      program.instrs[38 + i]? = (literal 38 shortName.tail 56)[i]? := by decide +kernel
  have hlong : ∀ i, i < longName.tail.length →
      program.instrs[44 + i]? = (literal 44 longName.tail 56)[i]? := by decide +kernel
  rw [run_names, run_literal (by decide) hshort (fun s pos => rfl),
    run_literal (by decide) hlong (fun s pos => rfl)]
  constructor
  · rintro (⟨more, rfl, hmore⟩ | ⟨more, rfl, hmore⟩)
    · exact ⟨shortName, more, Or.inl rfl, rfl, hmore⟩
    · exact ⟨longName, more, Or.inr rfl, rfl, hmore⟩
  · rintro ⟨name, more, rfl | rfl, hrest, hmore⟩
    · exact Or.inl ⟨more, (List.cons.inj hrest).2, hmore⟩
    · exact Or.inr ⟨more, (List.cons.inj hrest).2, hmore⟩

/-- Behind a blank: another one, or the brace. -/
theorem follow_close : (program.follow s pos program.fuel 58 slots {}).reversed
    = [⟨59, slots⟩, ⟨57, slots⟩] := by
  obtain ⟨at57, at58, at59, -⟩ := instrs_close
  simp +decide only [fuel_program, follow_succ, at57, at58, at59, if_false]

/-- Behind the first brace: blanks, or the newline that begins the tail. -/
theorem follow_brace : (program.follow s pos program.fuel 60 slots {}).reversed
    = [⟨65, (slots.set 3 (some pos)).set 4 (some pos)⟩, ⟨62, slots.set 3 (some pos)⟩] := by
  obtain ⟨-, -, -, at60, at61⟩ := instrs_close
  obtain ⟨at62, -, at64, at65, -⟩ := instrs_tail
  simp +decide only [fuel_program, follow_succ, at60, at61, at62, at64, at65, if_false]

/-- Threads behind the first brace. -/
def beforeTail (pos : Nat) (slots : Slots) : List Thread :=
  [⟨62, slots⟩, ⟨65, slots.set 4 (some pos)⟩]

/-- Blanks before the first brace. -/
theorem readsBlanks_close :
    ReadsBlanks program [⟨57, slots⟩] [⟨57, slots⟩, ⟨59, slots⟩] '\x7d'
      fun pos => beforeTail pos (slots.set 3 (some pos)) := by
  obtain ⟨at57, -, at59, -⟩ := instrs_close
  refine ⟨?_, by simp, by simp, isBlank_brace, ?_, ?_, ?_⟩
  · intro t ht
    simp only [List.cons_append, List.nil_append, List.mem_cons, List.not_mem_nil, or_false] at ht
    rcases ht with rfl | rfl | rfl <;> rfl
  · intro c s pos hc
    have hne := ne_of_blank hc isBlank_brace
    simp only [Program.advance, List.foldl_cons, List.foldl_nil, step_blank at57, step_char at59,
      hc, hne, if_true, if_false, follow_close]
    exact ⟨rfl, rfl⟩
  · intro s pos
    simp only [Program.advance, List.foldl_cons, List.foldl_nil, step_blank at57, step_char at59,
      isBlank_brace, if_true, if_false, Bool.false_eq_true, follow_brace]
    exact ⟨rfl, rfl⟩
  · intro c s pos hc hstop
    simp only [Program.advance, List.foldl_cons, List.foldl_nil, step_blank at57, step_char at59,
      hc, hstop, if_false, Bool.false_eq_true]
    exact ⟨rfl, rfl⟩

/-- Threads behind a newline at position `b` that may begin the tail. -/
def inTail (pos b : Nat) (slots : Slots) : List Thread :=
  beforeTail pos slots ++ [⟨67, slots.set 4 (some b)⟩, ⟨69, slots.set 4 (some b)⟩]

/-- Behind a blank: another one, or the newline that begins the tail. -/
theorem follow_gap : program.follow s pos program.fuel 63 slots {}
    = ⟨1 <<< 62 + 1 <<< 63 + 1 <<< 64 + 1 <<< 65, (beforeTail pos slots).reverse⟩ := by
  obtain ⟨at62, at63, at64, at65, -⟩ := instrs_tail
  simp +decide only [fuel_program, follow_succ, at62, at63, at64, at65, if_false]
  rfl

/-- Behind a newline: more blanks on the last line, or its brace. -/
theorem follow_newline {b : Nat} :
    program.follow s pos program.fuel 66 (slots.set 4 (some b))
        (program.follow s pos program.fuel 63 slots {})
      = ⟨1 <<< 62 + 1 <<< 63 + 1 <<< 64 + 1 <<< 65 + 1 <<< 66 + 1 <<< 67 + 1 <<< 69,
        (inTail pos b slots).reverse⟩ := by
  obtain ⟨-, -, -, -, at66, at67, -, at69, -⟩ := instrs_tail
  rw [follow_gap]
  simp +decide only [fuel_program, follow_succ, at66, at67, at69, if_false]
  rfl

/-- Behind a blank on the last line. -/
theorem follow_indent {b : Nat} :
    (program.follow s pos program.fuel 68 (slots.set 4 (some b))
        (program.follow s pos program.fuel 63 slots {})).reversed
      = (inTail pos b slots).reverse := by
  obtain ⟨-, -, -, -, -, at67, at68, at69, -⟩ := instrs_tail
  rw [follow_gap]
  simp +decide only [fuel_program, follow_succ, at67, at68, at69, if_false]
  rfl

/-- A newline takes the place of the one before it. -/
theorem follow_last_newline {a b : Nat} :
    (program.follow s pos program.fuel 68 (slots.set 4 (some a))
      (program.follow s pos program.fuel 66 (slots.set 4 (some b))
        (program.follow s pos program.fuel 63 slots {}))).reversed
      = (inTail pos b slots).reverse := by
  obtain ⟨-, -, -, -, -, at67, at68, at69, -⟩ := instrs_tail
  rw [follow_newline]
  simp +decide only [fuel_program, follow_succ, at67, at68, at69, if_true, if_false]

theorem follow_end : (program.follow s pos program.fuel 70 slots {}).reversed
    = [⟨71, slots.set 5 (some pos)⟩] := by
  obtain ⟨-, -, -, -, -, -, -, -, at70, at71⟩ := instrs_tail
  simp +decide only [fuel_program, follow_succ, at70, at71, if_false]

theorem advance_beforeTail {b : Nat} :
    program.advance c s pos (beforeTail b slots) =
      if c = '\n' then inTail pos b slots
      else if Blank.isBlank c then beforeTail pos slots else [] := by
  obtain ⟨at62, -, -, at65, -⟩ := instrs_tail
  simp only [beforeTail, Program.advance, List.foldl_cons, List.foldl_nil, step_blank at62,
    step_char at65]
  by_cases hnewline : c = '\n'
  · simp only [hnewline, Blank.isBlank_newline, if_true, follow_newline, List.reverse_reverse]
  · by_cases hblank : Blank.isBlank c = true
    · simp only [hnewline, hblank, if_true, if_false, follow_gap, List.reverse_reverse]
      rfl
    · simp only [hnewline, hblank, if_false, Bool.false_eq_true, List.reverse_nil]

/-- Threads that may have begun the tail end with a brace, and begin it again with a newline. -/
theorem advance_inTail {a b : Nat} :
    program.advance c s pos (inTail a b slots) =
      if c = '\x7d' then [⟨71, (slots.set 4 (some b)).set 5 (some pos)⟩]
      else if c = '\n' then inTail pos a slots
      else if Blank.isBlank c then inTail pos b slots else [] := by
  obtain ⟨at62, -, -, at65, -, at67, -, at69, -⟩ := instrs_tail
  simp only [inTail, beforeTail, Program.advance, List.cons_append, List.nil_append,
    List.foldl_cons, List.foldl_nil, step_blank at62, step_char at65, step_blank at67,
    step_char at69]
  by_cases hbrace : c = '\x7d'
  · have hnewline : ¬ '\x7d' = '\n' := by decide
    simp only [hbrace, isBlank_brace, hnewline, if_true, if_false, Bool.false_eq_true, follow_end]
    rfl
  · by_cases hnewline : c = '\n'
    · have hbrace : ¬ '\n' = '\x7d' := by decide
      simp only [hnewline, hbrace, Blank.isBlank_newline, if_true, if_false, follow_last_newline,
        List.reverse_reverse]
      rfl
    · by_cases hblank : Blank.isBlank c = true
      · simp only [hbrace, hnewline, hblank, if_true, if_false, follow_indent,
          List.reverse_reverse]
        rfl
      · simp only [hbrace, hnewline, hblank, if_false, Bool.false_eq_true, List.reverse_nil]

/-- The rest of the last line: blanks and the brace, behind a newline at position `b`. -/
def Closes (rest : List Char) (pos b : Nat) (slots : Slots) (r : Nat × Slots) : Prop :=
  ∃ indent more, rest = indent ++ '\x7d' :: more ∧ (∀ c ∈ indent, Blank.isBlank c = true) ∧
    '\n' ∉ indent ∧ r = (pos + indent.length + 1,
      (slots.set 4 (some b)).set 5 (some (pos + indent.length + 1)))

/-- Blanks up to a newline behind which a last line stands. -/
def Breaks (rest : List Char) (pos : Nat) (slots : Slots) (r : Nat × Slots) : Prop :=
  ∃ gap more, rest = gap ++ '\n' :: more ∧ (∀ c ∈ gap, Blank.isBlank c = true) ∧
    Closes more (pos + gap.length + 1) (pos + gap.length) slots r

theorem closes_cons {cs : List Char} {b : Nat} :
    Closes (c :: cs) pos b slots r ↔
      (c = '\x7d' ∧ r = (pos + 1, (slots.set 4 (some b)).set 5 (some (pos + 1)))) ∨
        (Blank.isBlank c = true ∧ c ≠ '\n' ∧ Closes cs (pos + 1) b slots r) := by
  have hshift (n : Nat) : pos + (n + 1) + 1 = pos + 1 + n + 1 := by omega
  constructor
  · rintro ⟨indent, more, heq, hblank, hnewline, hr⟩
    cases indent with
    | nil => exact Or.inl ⟨(List.cons.inj heq).1, hr⟩
    | cons d indent =>
      obtain ⟨rfl, rfl⟩ := List.cons.inj heq
      obtain ⟨hd, hblank⟩ := List.forall_mem_cons.1 hblank
      rw [List.length_cons, hshift] at hr
      refine Or.inr ⟨hd, ?_, indent, more, rfl, hblank, ?_, hr⟩
      · rintro rfl
        exact hnewline List.mem_cons_self
      · intro hmem
        exact hnewline (List.mem_cons_of_mem c hmem)
  · rintro (⟨rfl, hr⟩ | ⟨hc, hne, indent, more, rfl, hblank, hnewline, hr⟩)
    · exact ⟨[], cs, rfl, by simp, by simp, hr⟩
    · refine ⟨c :: indent, more, rfl, List.forall_mem_cons.2 ⟨hc, hblank⟩, ?_, ?_⟩
      · intro hmem
        rcases List.mem_cons.1 hmem with heq | hmem
        · exact hne heq.symm
        · exact hnewline hmem
      · rw [List.length_cons, hshift]
        exact hr

theorem breaks_cons {cs : List Char} :
    Breaks (c :: cs) pos slots r ↔
      (c = '\n' ∧ Closes cs (pos + 1) pos slots r) ∨
        (Blank.isBlank c = true ∧ Breaks cs (pos + 1) slots r) := by
  have hshift (n : Nat) : pos + (n + 1) = pos + 1 + n := by omega
  constructor
  · rintro ⟨gap, more, heq, hblank, hcloses⟩
    cases gap with
    | nil =>
      obtain ⟨rfl, rfl⟩ := List.cons.inj heq
      exact Or.inl ⟨rfl, hcloses⟩
    | cons d gap =>
      obtain ⟨rfl, rfl⟩ := List.cons.inj heq
      obtain ⟨hd, hblank⟩ := List.forall_mem_cons.1 hblank
      rw [List.length_cons, hshift] at hcloses
      exact Or.inr ⟨hd, gap, more, rfl, hblank, hcloses⟩
  · rintro (⟨rfl, hcloses⟩ | ⟨hc, gap, more, rfl, hblank, hcloses⟩)
    · exact ⟨[], cs, rfl, by simp, hcloses⟩
    · refine ⟨c :: gap, more, rfl, List.forall_mem_cons.2 ⟨hc, hblank⟩, ?_⟩
      rw [List.length_cons, hshift]
      exact hcloses

theorem run_inTail {b : Nat} :
    program.run rest pos (inTail pos b slots) none = some r ↔
      Closes rest pos b slots r ∨ Breaks rest pos slots r := by
  have haccepting (pos b : Nat) : ∀ t ∈ inTail pos b slots, program.isAccepting t = false := by
    intro t ht
    simp only [inTail, beforeTail, List.cons_append, List.nil_append, List.mem_cons,
      List.not_mem_nil, or_false] at ht
    rcases ht with rfl | rfl | rfl | rfl <;> rfl
  -- A newline moves the beginning of the tail, so the position is general in the induction.
  induction rest generalizing pos b with
  | nil =>
    rw [run_end (haccepting pos b)]
    simp [Closes, Breaks]
  | cons c cs ih =>
    rw [run_cons (haccepting pos b) (by simp [inTail]), advance_inTail, closes_cons, breaks_cons]
    by_cases hbrace : c = '\x7d'
    · subst hbrace
      rw [if_pos rfl, run_accept rfl]
      simp [isBlank_brace, eq_comm]
    · rw [if_neg hbrace]
      by_cases hnewline : c = '\n'
      · subst hnewline
        rw [if_pos rfl]
        refine ih.trans ?_
        simp [Blank.isBlank_newline]
      · rw [if_neg hnewline]
        by_cases hblank : Blank.isBlank c = true
        · rw [if_pos hblank]
          refine ih.trans ?_
          simp [hbrace, hnewline, hblank]
        · rw [if_neg hblank, run_nil]
          simp [hbrace, hnewline, hblank]

/-- The last newline before the brace begins the tail, and all blanks before it are the gap. -/
theorem run_beforeTail :
    program.run rest pos (beforeTail pos slots) none = some r ↔ Breaks rest pos slots r := by
  have haccepting (pos : Nat) : ∀ t ∈ beforeTail pos slots, program.isAccepting t = false := by
    intro t ht
    simp only [beforeTail, List.mem_cons, List.not_mem_nil, or_false] at ht
    rcases ht with rfl | rfl <;> rfl
  induction rest generalizing pos with
  | nil =>
    rw [run_end (haccepting pos)]
    simp [Breaks]
  | cons c cs ih =>
    rw [run_cons (haccepting pos) (by simp [beforeTail]), advance_beforeTail, breaks_cons]
    by_cases hnewline : c = '\n'
    · subst hnewline
      rw [if_pos rfl, run_inTail]
      simp [Blank.isBlank_newline]
    · rw [if_neg hnewline]
      by_cases hblank : Blank.isBlank c = true
      · rw [if_pos hblank]
        refine ih.trans ?_
        simp [hnewline, hblank]
      · rw [if_neg hblank, run_nil]
        simp [hnewline, hblank]

end Parts

end SourcePatch.QuantityStep
