import SourcePatch.Pattern.Matching

/-!
# The matches of a text

Whatever the program, `Program.findAll` lists what `Program.matchAt` finds.

* `Program.findAll_inOrder`: the matches lie in the text, each behind the one before. It begins
  later, and not before the other has ended.
* `Program.matchAt_of_mem_findAll`: each of them is the match at its position.
* `Program.exists_mem_findAll`: where a match begins that is not empty, one is listed, unless the
  position lies inside a match that is listed.
-/

namespace SourcePatch.Pattern

/-- Does a match begin later than another, and not before its end? -/
def Found.Precedes (m n : Found) : Prop := m.first < n.first ∧ m.last ≤ n.first

/-- Matches between the positions `lo` and `hi`, each of which precedes those after it. -/
def InOrder (lo hi : Nat) (ms : List Found) : Prop :=
  (∀ m ∈ ms, lo ≤ m.first ∧ m.first ≤ m.last ∧ m.last ≤ hi) ∧ ms.Pairwise Found.Precedes

namespace InOrder

variable {lo lo' hi : Nat} {m : Found} {ms : List Found}

theorem nil : InOrder lo hi [] := ⟨by simp, List.Pairwise.nil⟩

theorem mono (h : InOrder lo' hi ms) (hlo : lo ≤ lo') : InOrder lo hi ms := by
  refine ⟨fun n hn => ?_, h.2⟩
  have := h.1 n hn
  omega

theorem cons (h : InOrder lo' hi ms) (hlo : lo ≤ m.first) (hm : m.first ≤ m.last)
    (hhi : m.last ≤ hi) (hfirst : m.first < lo') (hlast : m.last ≤ lo') :
    InOrder lo hi (m :: ms) := by
  constructor
  · intro n hn
    rcases List.mem_cons.1 hn with rfl | hn
    · exact ⟨hlo, hm, hhi⟩
    · have := h.1 n hn
      omega
  · refine List.pairwise_cons.2 ⟨fun n hn => ?_, h.2⟩
    have := h.1 n hn
    exact ⟨by omega, by omega⟩

end InOrder

namespace Program

variable {p : Program}

/-- A run accepts at one of the positions that it comes to, or keeps what it had. -/
theorem run_bounds {rest : List Char} {pos stop : Nat} {threads : List Thread} {slots : Slots}
    {best : Option (Nat × Slots)} (h : p.run rest pos threads best = some (stop, slots)) :
    best = some (stop, slots) ∨ pos ≤ stop ∧ stop ≤ pos + rest.length := by
  -- A thread that accepts here gives this position, and threads that go on give a later one.
  induction rest generalizing pos threads best with
  | nil =>
    unfold run at h
    cases hfind : threads.find? p.isAccepting with
    | none => simp only [hfind, ite_self] at h; exact Or.inl h
    | some t =>
      simp only [hfind, ite_self, Option.some.injEq, Prod.mk.injEq] at h
      exact Or.inr (by simp; omega)
  | cons c cs ih =>
    unfold run at h
    cases hfind : threads.find? p.isAccepting with
    | none =>
      simp only [hfind] at h
      split at h
      · exact Or.inl h
      · rcases ih h with hbest | hstop
        · exact Or.inl hbest
        · exact Or.inr (by rw [List.length_cons]; omega)
    | some t =>
      simp only [hfind] at h
      split at h
      · simp only [Option.some.injEq, Prod.mk.injEq] at h
        exact Or.inr (by rw [List.length_cons]; omega)
      · rcases ih h with hbest | hstop
        · simp only [Option.some.injEq, Prod.mk.injEq] at hbest
          exact Or.inr (by rw [List.length_cons]; omega)
        · exact Or.inr (by rw [List.length_cons]; omega)

theorem matchAt_bounds {before : Option Char} {rest : List Char} {pos stop : Nat} {slots : Slots}
    (h : p.matchAt before rest pos = some (stop, slots)) :
    pos ≤ stop ∧ stop ≤ pos + rest.length := by
  rcases run_bounds h with hbest | hstop
  · cases hbest
  · exact hstop

theorem scan_inOrder (before : Option Char) (pos skip : Nat) (lastEnd : Option Nat)
    (rest : List Char) :
    InOrder (pos + skip) (pos + rest.length) (p.scan before pos skip lastEnd rest) := by
  induction rest generalizing before pos skip lastEnd with
  | nil =>
    cases skip with
    | succ skip => exact InOrder.nil
    | zero =>
      unfold scan
      split
      · rename_i stop slots hmatch
        have hstop := matchAt_bounds hmatch
        split
        · exact InOrder.nil
        · have hnil : InOrder (stop + 1) (pos + ([] : List Char).length) [] := InOrder.nil
          exact hnil.cons (by simp) hstop.1 hstop.2 (by simp; omega) (by simp)
      · exact InOrder.nil
  | cons c cs ih =>
    rw [List.length_cons, show pos + (cs.length + 1) = pos + 1 + cs.length by omega]
    cases skip with
    | succ skip =>
      have hrest := ih (some c) (pos + 1) skip lastEnd
      rw [show pos + 1 + skip = pos + (skip + 1) by omega] at hrest
      exact hrest
    | zero =>
      unfold scan
      split
      · rename_i stop slots hmatch
        have hstop := matchAt_bounds hmatch
        rw [List.length_cons] at hstop
        split
        · exact (ih (some c) (pos + 1) 0 lastEnd).mono (by omega)
        · -- the scan goes on at the end of the match, but behind its first character
          exact (ih (some c) (pos + 1) (stop - pos - 1) (some stop)).cons (by simp) hstop.1
            (by simp; omega) (by simp; omega) (by simp; omega)
      · exact (ih (some c) (pos + 1) 0 lastEnd).mono (by omega)

/-- The matches of a text lie in it, each behind the one before. -/
theorem findAll_inOrder (p : Program) (text : List Char) :
    InOrder 0 text.length (p.findAll text) := by
  have h := scan_inOrder (p := p) none 0 0 none text
  rwa [Nat.add_zero, Nat.zero_add] at h

theorem matchAt_of_mem_scan {m : Found} {before : Option Char} {pos skip : Nat}
    {lastEnd : Option Nat} {rest : List Char} (h : m ∈ p.scan before pos skip lastEnd rest) :
    pos ≤ m.first ∧ ∃ before, p.matchAt before (rest.drop (m.first - pos)) m.first
      = some (m.last, m.slots) := by
  induction rest generalizing before pos skip lastEnd with
  | nil =>
    cases skip with
    | succ skip => cases h
    | zero =>
      unfold scan at h
      split at h
      · rename_i stop slots hmatch
        split at h
        · cases h
        · obtain rfl := List.mem_singleton.1 h
          exact ⟨Nat.le_refl _, before, by simpa using hmatch⟩
      · cases h
  | cons c cs ih =>
    -- A match that is found further on is found in the rest of the text.
    have hlater {skip : Nat} {lastEnd : Option Nat}
        (h : m ∈ p.scan (some c) (pos + 1) skip lastEnd cs) : pos ≤ m.first ∧
          ∃ before, p.matchAt before ((c :: cs).drop (m.first - pos)) m.first
            = some (m.last, m.slots) := by
      obtain ⟨hle, before, hmatch⟩ := ih h
      refine ⟨by omega, before, ?_⟩
      rw [show m.first - pos = (m.first - (pos + 1)) + 1 by omega, List.drop_succ_cons]
      exact hmatch
    cases skip with
    | succ skip => exact hlater h
    | zero =>
      unfold scan at h
      split at h
      · rename_i stop slots hmatch
        split at h
        · exact hlater h
        · rcases List.mem_cons.1 h with rfl | h
          · exact ⟨Nat.le_refl _, before, by simpa using hmatch⟩
          · exact hlater h
      · exact hlater h

/-- A listed match is the match at its position. -/
theorem matchAt_of_mem_findAll {m : Found} {text : List Char} (h : m ∈ p.findAll text) :
    ∃ before, p.matchAt before (text.drop m.first) m.first = some (m.last, m.slots) :=
  (matchAt_of_mem_scan h).2

theorem exists_mem_scan {x stop : Nat} {slots : Slots} {before : Option Char} {pos skip : Nat}
    {lastEnd : Option Nat} {rest : List Char}
    (h : ∀ before, p.matchAt before (rest.drop (x - pos)) x = some (stop, slots)) (hstop : x < stop)
    (hpos : pos + skip ≤ x) (hx : x ≤ pos + rest.length) :
    ∃ m ∈ p.scan before pos skip lastEnd rest, m.first ≤ x ∧ x < m.last := by
  induction rest generalizing before pos skip lastEnd with
  | nil =>
    have hbounds := matchAt_bounds (h none)
    rw [List.length_nil] at hx
    rw [List.drop_nil, List.length_nil] at hbounds
    omega
  | cons c cs ih =>
    -- As long as the scan has not come to the position, it is found in the rest of the text.
    have hlater (skip : Nat) (lastEnd : Option Nat) (hlt : pos < x) (hskip : pos + 1 + skip ≤ x) :
        ∃ m ∈ p.scan (some c) (pos + 1) skip lastEnd cs, m.first ≤ x ∧ x < m.last := by
      refine ih ?_ hskip (by rw [List.length_cons] at hx; omega)
      intro before
      have hmatch := h before
      rwa [show x - pos = (x - (pos + 1)) + 1 by omega, List.drop_succ_cons] at hmatch
    cases skip with
    | succ skip => exact hlater _ lastEnd (by omega) (by omega)
    | zero =>
      unfold scan
      by_cases hxpos : x = pos
      · subst hxpos
        have hmatch := h before
        rw [Nat.sub_self, List.drop_zero] at hmatch
        have hne : ¬ (decide (stop = x) && decide (lastEnd = some x)) = true := by
          simp
          omega
        rw [hmatch]
        simp only [hne]
        exact ⟨_, List.mem_cons_self, Nat.le_refl _, hstop⟩
      · split
        · rename_i stop' slots' hmatch
          split
          · exact hlater _ lastEnd (by omega) (by omega)
          · -- Another match is listed: the position lies inside it, or the scan goes on behind it.
            by_cases hin : x < stop'
            · exact ⟨_, List.mem_cons_self, by omega, hin⟩
            · obtain ⟨m, hm, hfirst⟩ := hlater (stop' - pos - 1) (some stop') (by omega)
                (by omega)
              exact ⟨m, List.mem_cons_of_mem _ hm, hfirst⟩
        · exact hlater _ lastEnd (by omega) (by omega)

/-- Where a match begins that is not empty, one is listed, unless the position lies inside a match
that is listed. -/
theorem exists_mem_findAll {x stop : Nat} {slots : Slots} {text : List Char}
    (h : ∀ before, p.matchAt before (text.drop x) x = some (stop, slots)) (hstop : x < stop)
    (hx : x ≤ text.length) : ∃ m ∈ p.findAll text, m.first ≤ x ∧ x < m.last := by
  rw [findAll]
  exact exists_mem_scan h hstop (by omega) (by omega)

end Program

end SourcePatch.Pattern
