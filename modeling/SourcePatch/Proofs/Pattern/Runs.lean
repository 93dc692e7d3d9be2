import SourcePatch.Pattern.Matching
import SourcePatch.Text.Blank

/-!
# Runs of programs

Lemmas to follow a run of a program from one set of threads to the next. Each says which text leads
from the threads at the beginning of a part of the program to those at its end.

* `Program.run_cons` and `Program.follow_succ` are single steps.
* `Program.run_literal`: a thread that reads a text character by character.
* `Program.ReadsBlanks`: threads that read blanks up to another character.
-/

namespace SourcePatch.Pattern

theorem contains_singleton {c d : Char} : (CharSet.singleton c).contains d = true ↔ d = c := by
  unfold CharSet.singleton CharSet.range
  rw [if_pos (Nat.le_refl _)]
  simp only [CharSet.contains, CharSet.containsPoint, List.any_cons, List.any_nil, Bool.or_false,
    Bool.and_eq_true, decide_eq_true_eq]
  constructor
  · rintro ⟨h1, h2⟩
    exact Char.toNat_inj.1 (Nat.le_antisymm h2 h1)
  · rintro rfl
    exact ⟨Nat.le_refl _, Nat.le_refl _⟩

/-- Instructions that read a text, from address `base` on, and then go on at `next`. -/
def literal : (base : Nat) → List Char → (next : Nat) → List Instr
  | _, [], _ => []
  | _, [c], next => [.read (.singleton c) next]
  | base, c :: cs, next => .read (.singleton c) (base + 1) :: literal (base + 1) cs next

namespace Program

variable {p : Program} {rest : List Char} {pos : Nat} {c : Char} {s : Surroundings}
  {threads : List Thread} {slots : Slots} {best : Option (Nat × Slots)}

theorem run_nil (rest : List Char) (pos : Nat) : p.run rest pos [] best = best := by
  cases rest <;> rfl

theorem find?_isAccepting (h : ∀ t ∈ threads, p.isAccepting t = false) :
    threads.find? p.isAccepting = none := by
  rw [List.find?_eq_none]
  intro t ht
  rw [h t ht]
  decide

/-- A run that has no accepting thread ends with the text. -/
theorem run_end (h : ∀ t ∈ threads, p.isAccepting t = false) :
    p.run [] pos threads best = best := by
  rw [Program.run, find?_isAccepting h]
  simp

/-- A run that has no accepting thread reads the next character. -/
theorem run_cons (h : ∀ t ∈ threads, p.isAccepting t = false) (hne : threads ≠ []) :
    p.run (c :: rest) pos threads best =
      p.run rest (pos + 1) (p.advance c ⟨some c, rest.head?⟩ (pos + 1) threads) best := by
  -- What is cut off stands behind an accepting thread, and there is none.
  have hlive : threads.takeWhile (fun t => !p.isAccepting t) = threads := by
    have hpos : ∀ t ∈ threads, (!p.isAccepting t) = true := by
      intro t ht
      rw [h t ht]
      rfl
    have htake : (threads ++ []).takeWhile (fun t => !p.isAccepting t)
        = threads ++ [].takeWhile fun t => !p.isAccepting t := List.takeWhile_append_of_pos hpos
    rwa [List.takeWhile_nil, List.append_nil] at htake
  rw [Program.run, find?_isAccepting h, hlive, if_neg (by simpa using hne)]

theorem step_read {ts : Threads} {t : Thread} {set : CharSet} {next : Nat}
    (h : p.instrs[t.address]? = some (.read set next)) :
    Program.advance.step p c s pos ts t =
      if set.contains c then p.follow s pos p.fuel next t.slots ts else ts := by
  rw [Program.advance.step, h]

theorem step_blank {ts : Threads} {a next : Nat}
    (h : p.instrs[a]? = some (.read Blank.blanks next)) :
    Program.advance.step p c s pos ts ⟨a, slots⟩ =
      if Blank.isBlank c then p.follow s pos p.fuel next slots ts else ts :=
  step_read h

theorem step_char {ts : Threads} {a next : Nat} {d : Char}
    (h : p.instrs[a]? = some (.read (.singleton d) next)) :
    Program.advance.step p c s pos ts ⟨a, slots⟩ =
      if c = d then p.follow s pos p.fuel next slots ts else ts := by
  rw [step_read h]
  by_cases hc : c = d
  · rw [if_pos hc, if_pos (contains_singleton.2 hc)]
  · rw [if_neg hc, if_neg fun h => hc (contains_singleton.1 h)]

/-- One step of following ways, with the visited addresses spelled out. -/
theorem follow_succ {fuel a visited : Nat} {ts : List Thread} :
    p.follow s pos (fuel + 1) a slots ⟨visited, ts⟩ =
      if visited.testBit a then ⟨visited, ts⟩ else
        match p.instrs[a]? with
        | none => ⟨visited ||| 1 <<< a, ts⟩
        | some (.read _ _) => ⟨visited ||| 1 <<< a, ⟨a, slots⟩ :: ts⟩
        | some .accept => ⟨visited ||| 1 <<< a, ⟨a, slots⟩ :: ts⟩
        | some (.jump next) => p.follow s pos fuel next slots ⟨visited ||| 1 <<< a, ts⟩
        | some (.split first second) =>
          p.follow s pos fuel second slots
            (p.follow s pos fuel first slots ⟨visited ||| 1 <<< a, ts⟩)
        | some (.save slot next) =>
          p.follow s pos fuel next (slots.set slot (some pos)) ⟨visited ||| 1 <<< a, ts⟩
        | some (.look l next) =>
          if l.holds s then p.follow s pos fuel next slots ⟨visited ||| 1 <<< a, ts⟩
          else ⟨visited ||| 1 <<< a, ts⟩ := rfl

/-- A thread that reads a character goes on behind it or dies. -/
theorem advance_singleton {a next : Nat} {set : CharSet}
    (h : p.instrs[a]? = some (.read set next)) :
    p.advance c s pos [⟨a, slots⟩] =
      if set.contains c then (p.follow s pos p.fuel next slots {}).reversed.reverse else [] := by
  rw [Program.advance, List.foldl_cons, List.foldl_nil, step_read h]
  split <;> rfl

theorem follow_read {a next : Nat} {set : CharSet}
    (h : p.instrs[a]? = some (.read set next)) :
    (p.follow s pos p.fuel a slots {}).reversed.reverse = [⟨a, slots⟩] := by
  rw [Program.fuel, Program.follow, if_neg (by simp), h]
  rfl

/-- A thread that reads one character, and the threads that it goes on as. -/
theorem run_char {a next : Nat} {r : Nat × Slots} {after : Nat → List Thread}
    (hread : p.instrs[a]? = some (.read (.singleton c) next))
    (hnext : ∀ s pos, (p.follow s pos p.fuel next slots {}).reversed.reverse = after pos) :
    p.run rest pos [⟨a, slots⟩] none = some r ↔
      ∃ more, rest = c :: more ∧ p.run more (pos + 1) (after (pos + 1)) none = some r := by
  have haccepting : ∀ t ∈ [(⟨a, slots⟩ : Thread)], p.isAccepting t = false := by
    intro t ht
    rw [List.mem_singleton.1 ht, Program.isAccepting, hread]
    rfl
  cases rest with
  | nil =>
    rw [run_end haccepting]
    simp
  | cons d ds =>
    rw [run_cons haccepting (by simp), advance_singleton hread]
    by_cases hd : d = c
    · subst hd
      rw [if_pos (contains_singleton.2 rfl), hnext]
      simp
    · rw [if_neg (fun h => hd (contains_singleton.1 h)), run_nil]
      simp [hd]

/-- A thread that reads a text character by character. -/
theorem run_literal {text : List Char} {base next : Nat} {r : Nat × Slots}
    {after : List Thread} (hne : text ≠ [])
    (hp : ∀ i, i < text.length → p.instrs[base + i]? = (literal base text next)[i]?)
    (hnext : ∀ s pos, (p.follow s pos p.fuel next slots {}).reversed.reverse = after) :
    p.run rest pos [⟨base, slots⟩] none = some r ↔
      ∃ more, rest = text ++ more ∧ p.run more (pos + text.length) after none = some r := by
  induction text generalizing base pos rest with
  | nil => exact absurd rfl hne
  | cons c cs ih =>
    have hfirst := hp 0 (by simp)
    cases cs with
    | nil =>
      have hread : p.instrs[base]? = some (.read (.singleton c) next) := hfirst
      rw [run_char hread hnext]
      simp
    | cons d ds =>
      have hread : p.instrs[base]? = some (.read (.singleton c) (base + 1)) := hfirst
      have hrest : ∀ i, i < (d :: ds).length →
          p.instrs[base + 1 + i]? = (literal (base + 1) (d :: ds) next)[i]? := by
        intro i hi
        rw [Nat.add_assoc, Nat.add_comm 1 i]
        exact hp (i + 1) (Nat.succ_lt_succ hi)
      -- The thread goes on at the next address, which reads as well.
      obtain ⟨mid, hmid⟩ : ∃ mid, p.instrs[base + 1]? = some (.read (.singleton d) mid) := by
        have hsecond := hrest 0 (by simp)
        cases ds with
        | nil => exact ⟨next, hsecond⟩
        | cons e es => exact ⟨base + 1 + 1, hsecond⟩
      have hafter : ∀ s pos, (p.follow s pos p.fuel (base + 1) slots {}).reversed.reverse =
          (fun _ => [(⟨base + 1, slots⟩ : Thread)]) pos := fun s pos => follow_read hmid
      rw [run_char hread hafter]
      constructor
      · rintro ⟨more, rfl, hmore⟩
        obtain ⟨more', rfl, hmore'⟩ := (ih (by simp) hrest).1 hmore
        refine ⟨more', rfl, ?_⟩
        rwa [List.length_cons, Nat.add_comm _ 1, ← Nat.add_assoc]
      · rintro ⟨more, rfl, hmore⟩
        refine ⟨d :: ds ++ more, rfl, (ih (by simp) hrest).2 ⟨more, rfl, ?_⟩⟩
        rwa [List.length_cons, Nat.add_comm _ 1, ← Nat.add_assoc] at hmore

/-- A run whose only thread accepts. -/
theorem run_accept {a : Nat} (h : p.instrs[a]? = some .accept) :
    p.run rest pos [⟨a, slots⟩] none = some (pos, slots) := by
  have haccepting : p.isAccepting ⟨a, slots⟩ = true := by
    rw [Program.isAccepting, h]
    rfl
  unfold Program.run
  simp [haccepting]

/-- Threads that read blanks up to another character: `first` before the first blank, `loop`
behind it, and `after` behind the character. -/
structure ReadsBlanks (p : Program) (first loop : List Thread) (stop : Char)
    (after : Nat → List Thread) : Prop where
  notAccepting : ∀ t ∈ first ++ loop, p.isAccepting t = false
  first_ne : first ≠ []
  loop_ne : loop ≠ []
  stop_visible : Blank.isBlank stop = false
  blank : ∀ c s pos, Blank.isBlank c = true →
    p.advance c s pos first = loop ∧ p.advance c s pos loop = loop
  stopped : ∀ s pos, p.advance stop s pos first = [] ∧ p.advance stop s pos loop = after pos
  other : ∀ c s pos, Blank.isBlank c = false → c ≠ stop →
    p.advance c s pos first = [] ∧ p.advance c s pos loop = []

variable {first loop : List Thread} {stop : Char} {after : Nat → List Thread} {r : Nat × Slots}

theorem ReadsBlanks.run_loop (h : ReadsBlanks p first loop stop after) :
    p.run rest pos loop none = some r ↔
      ∃ space more, rest = space ++ stop :: more ∧ (∀ c ∈ space, Blank.isBlank c = true) ∧
        p.run more (pos + space.length + 1) (after (pos + space.length + 1)) none = some r := by
  have haccepting : ∀ t ∈ loop, p.isAccepting t = false :=
    fun t ht => h.notAccepting t (List.mem_append_right first ht)
  induction rest generalizing pos with
  | nil =>
    rw [run_end haccepting]
    simp
  | cons c cs ih =>
    rw [run_cons haccepting h.loop_ne]
    -- Another blank, the character that ends them, or a dead end.
    by_cases hblank : Blank.isBlank c = true
    · have hshift (n : Nat) : pos + (n + 1) + 1 = pos + 1 + n + 1 := by omega
      rw [(h.blank _ _ _ hblank).2]
      refine ih.trans ?_
      constructor
      · rintro ⟨space, more, rfl, hspace, hmore⟩
        refine ⟨c :: space, more, rfl, List.forall_mem_cons.2 ⟨hblank, hspace⟩, ?_⟩
        rwa [List.length_cons, hshift]
      · rintro ⟨space, more, heq, hspace, hmore⟩
        cases space with
        | nil =>
          obtain ⟨rfl, -⟩ := List.cons.inj heq
          rw [h.stop_visible] at hblank
          cases hblank
        | cons d space =>
          obtain ⟨rfl, rfl⟩ := List.cons.inj heq
          refine ⟨space, more, rfl, (List.forall_mem_cons.1 hspace).2, ?_⟩
          rwa [List.length_cons, hshift] at hmore
    · have hvisible : Blank.isBlank c = false := by simpa using hblank
      by_cases hstop : c = stop
      · subst hstop
        rw [(h.stopped _ _).2]
        constructor
        · intro hmore
          exact ⟨[], cs, rfl, by simp, hmore⟩
        · rintro ⟨space, more, heq, hspace, hmore⟩
          cases space with
          | nil =>
            obtain ⟨-, rfl⟩ := List.cons.inj heq
            exact hmore
          | cons d space =>
            obtain ⟨rfl, -⟩ := List.cons.inj heq
            exact absurd ((List.forall_mem_cons.1 hspace).1) hblank
      · rw [(h.other _ _ _ hvisible hstop).2, run_nil]
        simp only [reduceCtorEq, false_iff]
        rintro ⟨space, more, heq, hspace, -⟩
        cases space with
        | nil => exact hstop (List.cons.inj heq).1
        | cons d space =>
          obtain ⟨rfl, -⟩ := List.cons.inj heq
          exact hblank (List.forall_mem_cons.1 hspace).1

/-- Blanks, one of them at least, and the character that ends them. -/
theorem ReadsBlanks.run_first (h : ReadsBlanks p first loop stop after) :
    p.run rest pos first none = some r ↔
      ∃ space more, space ≠ [] ∧ rest = space ++ stop :: more ∧
        (∀ c ∈ space, Blank.isBlank c = true) ∧
        p.run more (pos + space.length + 1) (after (pos + space.length + 1)) none = some r := by
  have haccepting : ∀ t ∈ first, p.isAccepting t = false :=
    fun t ht => h.notAccepting t (List.mem_append_left loop ht)
  cases rest with
  | nil =>
    rw [run_end haccepting]
    simp
  | cons c cs =>
    rw [run_cons haccepting h.first_ne]
    by_cases hblank : Blank.isBlank c = true
    · have hshift (n : Nat) : pos + (n + 1) + 1 = pos + 1 + n + 1 := by omega
      rw [(h.blank _ _ _ hblank).1, h.run_loop]
      constructor
      · rintro ⟨space, more, rfl, hspace, hmore⟩
        refine ⟨c :: space, more, by simp, rfl, List.forall_mem_cons.2 ⟨hblank, hspace⟩, ?_⟩
        rwa [List.length_cons, hshift]
      · rintro ⟨space, more, hne, heq, hspace, hmore⟩
        cases space with
        | nil => exact absurd rfl hne
        | cons d space =>
          obtain ⟨rfl, rfl⟩ := List.cons.inj heq
          refine ⟨space, more, rfl, (List.forall_mem_cons.1 hspace).2, ?_⟩
          rwa [List.length_cons, hshift] at hmore
    · -- Without a blank the threads have nothing to read.
      have hdead (s : Surroundings) (pos : Nat) : p.advance c s pos first = [] := by
        by_cases hstop : c = stop
        · subst hstop
          exact (h.stopped _ _).1
        · exact (h.other _ _ _ (by simpa using hblank) hstop).1
      rw [hdead, run_nil]
      simp only [reduceCtorEq, false_iff]
      rintro ⟨space, more, hne, heq, hspace, -⟩
      cases space with
      | nil => exact hne rfl
      | cons d space =>
        obtain ⟨rfl, -⟩ := List.cons.inj heq
        exact hblank (List.forall_mem_cons.1 hspace).1

end Program

end SourcePatch.Pattern
