import SourcePatch.Text.Slice

/-!
# Parts and lines of texts

* `containsText_iff`: looking for a text decides whether it is a part of another one.
* `afterNewlines_append` and `mem_afterNewlines`: where lines begin in a text that is put together
  from others, and what stands there.
* `mem_lineStarts_iff` and `lineStarts_eq_append`: where lines begin, and which of them do so up to
  a position.
* `lineNumber_add_count`: the number of a line is counted on from that of an earlier position.
* `toCrlf_append`: line breaks are rewritten part by part.
-/

namespace SourcePatch.Text

/-- Looking for a text decides whether it is a part of another one. -/
theorem containsText_iff {needle cs : List Char} :
    containsText needle cs = true ↔ needle <:+: cs := by
  induction cs with
  | nil =>
    rw [containsText, List.isEmpty_iff]
    constructor
    · rintro rfl
      exact List.nil_infix
    · exact List.infix_nil.1
  | cons c cs ih =>
    rw [containsText, Bool.or_eq_true, List.isPrefixOf_iff_prefix, ih, List.infix_cons_iff]

/-- Counting from another base moves all positions. -/
theorem afterNewlines_eq_map (base : Nat) (cs : List Char) :
    afterNewlines base cs = (afterNewlines 0 cs).map (base + ·) := by
  induction cs generalizing base with
  | nil => rfl
  | cons c cs ih =>
    have hmap : (afterNewlines 1 cs).map (base + ·) = afterNewlines (base + 1) cs := by
      rw [ih 1, ih (base + 1), List.map_map]
      refine List.map_congr_left fun j _ => ?_
      simp only [Function.comp_apply]
      omega
    rw [afterNewlines, afterNewlines, Nat.zero_add]
    split
    · rw [List.map_cons, hmap]
    · rw [hmap]

theorem afterNewlines_append (xs ys : List Char) :
    afterNewlines 0 (xs ++ ys)
      = afterNewlines 0 xs ++ (afterNewlines 0 ys).map (xs.length + ·) := by
  have hbase (base : Nat) : afterNewlines base (xs ++ ys)
      = afterNewlines base xs ++ afterNewlines (base + xs.length) ys := by
    induction xs generalizing base with
    | nil => rfl
    | cons c cs ih =>
      rw [List.cons_append, afterNewlines, afterNewlines, ih (base + 1), List.length_cons,
        show base + 1 + cs.length = base + (cs.length + 1) by omega]
      split <;> rfl
  rw [hbase 0, Nat.zero_add, afterNewlines_eq_map xs.length]

/-- A position after a newline has the newline before it. -/
theorem mem_afterNewlines {cs : List Char} {j : Nat} (h : j ∈ afterNewlines 0 cs) :
    ∃ u w, cs = u ++ '\n' :: w ∧ j = u.length + 1 := by
  induction cs generalizing j with
  | nil => cases h
  | cons c cs ih =>
    have hlater (h : j ∈ afterNewlines 1 cs) :
        ∃ u w, c :: cs = u ++ '\n' :: w ∧ j = u.length + 1 := by
      rw [afterNewlines_eq_map] at h
      obtain ⟨k, hk, rfl⟩ := List.mem_map.1 h
      obtain ⟨u, w, rfl, rfl⟩ := ih hk
      exact ⟨c :: u, w, rfl, by rw [List.length_cons]; omega⟩
    rw [afterNewlines] at h
    split at h
    · rename_i hc
      rcases List.mem_cons.1 h with rfl | h
      · exact ⟨[], cs, by rw [hc]; rfl, rfl⟩
      · exact hlater h
    · exact hlater h

theorem le_of_mem_afterNewlines {cs : List Char} {j : Nat} (h : j ∈ afterNewlines 0 cs) :
    j ≤ cs.length := by
  obtain ⟨u, w, rfl, rfl⟩ := mem_afterNewlines h
  rw [List.length_append, List.length_cons]
  omega

theorem le_of_mem_lineStarts {cs : List Char} {j : Nat} (h : j ∈ lineStarts cs) :
    j ≤ cs.length := by
  rcases List.mem_cons.1 h with rfl | h
  · exact Nat.zero_le _
  · exact le_of_mem_afterNewlines h

theorem mem_lineStarts_iff {cs : List Char} {j : Nat} :
    j ∈ lineStarts cs ↔ j ≤ cs.length ∧ (cs.take j = [] ∨ (cs.take j).getLast? = some '\n') := by
  constructor
  · intro h
    refine ⟨le_of_mem_lineStarts h, ?_⟩
    rcases List.mem_cons.1 h with rfl | h
    · exact Or.inl rfl
    · obtain ⟨u, w, rfl, rfl⟩ := mem_afterNewlines h
      rw [← List.singleton_append, ← List.append_assoc, List.take_left' (by simp)]
      exact Or.inr List.getLast?_concat
  · rintro ⟨hle, hempty | hlast⟩
    · obtain rfl : j = 0 := by
        have hlength := congrArg List.length hempty
        rw [List.length_take, List.length_nil] at hlength
        omega
      exact List.mem_cons_self
    · obtain ⟨u, hu⟩ := List.getLast?_eq_some_iff.1 hlast
      have hlength := congrArg List.length hu
      rw [List.length_take_of_le hle, List.length_append, List.length_singleton] at hlength
      rw [lineStarts, ← List.take_append_drop j cs, hu, hlength, List.append_assoc,
        afterNewlines_append]
      refine List.mem_cons_of_mem _ (List.mem_append_right _ ?_)
      exact List.mem_map.2 ⟨1, List.mem_cons_self, rfl⟩

theorem lt_of_mem_afterNewlines {base j : Nat} {cs : List Char} (h : j ∈ afterNewlines base cs) :
    base < j := by
  rw [afterNewlines_eq_map] at h
  obtain ⟨k, hk, rfl⟩ := List.mem_map.1 h
  obtain ⟨u, w, -, rfl⟩ := mem_afterNewlines hk
  omega

/-- The positions after newlines come from left to right. -/
theorem pairwise_afterNewlines (base : Nat) (cs : List Char) :
    (afterNewlines base cs).Pairwise (· < ·) := by
  induction cs generalizing base with
  | nil => exact List.Pairwise.nil
  | cons c cs ih =>
    rw [afterNewlines]
    split
    · exact List.pairwise_cons.2 ⟨fun j hj => lt_of_mem_afterNewlines hj, ih (base + 1)⟩
    · exact ih (base + 1)

theorem pairwise_lineStarts (cs : List Char) : (lineStarts cs).Pairwise (· < ·) :=
  List.pairwise_cons.2 ⟨fun _ hj => lt_of_mem_afterNewlines hj, pairwise_afterNewlines 0 cs⟩

/-- The lines of a text begin up to a position, or behind it. -/
theorem lineStarts_eq_append {cs : List Char} {i : Nat} (hi : i ≤ cs.length) :
    lineStarts cs = lineStarts (cs.take i) ++ afterNewlines i (cs.drop i) := by
  have hsplit := afterNewlines_append (cs.take i) (cs.drop i)
  rw [List.take_append_drop, List.length_take_of_le hi, ← afterNewlines_eq_map] at hsplit
  rw [lineStarts, hsplit]
  rfl

theorem mem_lineStarts_take_iff {cs : List Char} {i j : Nat} (hi : i ≤ cs.length) :
    j ∈ lineStarts (cs.take i) ↔ j ∈ lineStarts cs ∧ j ≤ i := by
  rw [lineStarts_eq_append hi, List.mem_append]
  constructor
  · intro h
    have hle := le_of_mem_lineStarts h
    rw [List.length_take_of_le hi] at hle
    exact ⟨Or.inl h, hle⟩
  · rintro ⟨h | h, hle⟩
    · exact h
    · exact absurd (lt_of_mem_afterNewlines h) (Nat.not_lt.2 hle)

theorem mem_afterNewlines_drop_iff {cs : List Char} {i j : Nat} (hi : i ≤ cs.length) :
    j ∈ afterNewlines i (cs.drop i) ↔ j ∈ lineStarts cs ∧ i < j := by
  rw [lineStarts_eq_append hi, List.mem_append]
  constructor
  · intro h
    exact ⟨Or.inr h, lt_of_mem_afterNewlines h⟩
  · rintro ⟨h | h, hlt⟩
    · have hle := le_of_mem_lineStarts h
      rw [List.length_take_of_le hi] at hle
      exact absurd hlt (Nat.not_lt.2 hle)
    · exact h

theorem lineNumber_add_count (cs : List Char) {i j : Nat} (h : i ≤ j) :
    lineNumber cs i + (slice cs i j).count '\n' = lineNumber cs j := by
  rw [lineNumber, lineNumber, ← take_append_slice cs h, List.count_append, Nat.add_assoc]

/-! ## Line breaks -/

theorem mem_toCrlf {c : Char} {cs : List Char} (h : c ∈ toCrlf cs) :
    c = '\r' ∨ c = '\n' ∨ c ∈ cs := by
  fun_induction toCrlf cs with
  | case1 => cases h
  | case2 cs ih =>
    rcases List.mem_cons.1 h with rfl | h
    · exact Or.inl rfl
    · rcases List.mem_cons.1 h with rfl | h
      · exact Or.inr (Or.inl rfl)
      · rcases ih h with hc | hc | hc
        · exact Or.inl hc
        · exact Or.inr (Or.inl hc)
        · exact Or.inr (Or.inr (List.mem_cons_of_mem _ (List.mem_cons_of_mem _ hc)))
  | case3 cs hshape ih =>
    rcases List.mem_cons.1 h with rfl | h
    · exact Or.inl rfl
    · rcases List.mem_cons.1 h with rfl | h
      · exact Or.inr (Or.inl rfl)
      · exact (ih h).imp_right (Or.imp_right (List.mem_cons_of_mem _))
  | case4 d cs hshape hnewline ih =>
    rcases List.mem_cons.1 h with rfl | h
    · exact Or.inr (Or.inr List.mem_cons_self)
    · exact (ih h).imp_right (Or.imp_right (List.mem_cons_of_mem _))

theorem toCrlf_cons {c : Char} {cs : List Char} (h : c = '\r' → cs.head? ≠ some '\n') :
    toCrlf (c :: cs) = if c = '\n' then '\r' :: '\n' :: toCrlf cs else c :: toCrlf cs := by
  rw [toCrlf]
  rintro rest rfl rfl
  exact h rfl rfl

/-- Line breaks are rewritten part by part, if none of them lies on the border. -/
theorem toCrlf_append {xs ys : List Char}
    (h : xs.getLast? = some '\r' → ys.head? ≠ some '\n') :
    toCrlf (xs ++ ys) = toCrlf xs ++ toCrlf ys := by
  have hlast {c : Char} {cs : List Char} (h : cs.getLast? = some '\r') :
      (c :: cs).getLast? = some '\r' := by
    rw [List.getLast?_cons, h]
    rfl
  fun_induction toCrlf xs with
  | case1 => rfl
  | case2 cs ih =>
    rw [List.cons_append, List.cons_append, toCrlf, ih fun hcs => h (hlast (hlast hcs))]
    rfl
  | case3 cs hshape ih =>
    rw [List.cons_append, toCrlf_cons (fun heq => absurd heq (by decide)), if_pos rfl,
      ih fun hcs => h (hlast hcs)]
    rfl
  | case4 d cs hshape hnewline ih =>
    have hhead : d = '\r' → (cs ++ ys).head? ≠ some '\n' := by
      rintro rfl
      cases cs with
      | nil => exact h rfl
      | cons e es =>
        rintro heq
        exact hshape es rfl (by rw [Option.some.inj heq])
    rw [List.cons_append, toCrlf_cons hhead, if_neg hnewline, ih fun hcs => h (hlast hcs)]
    rfl

end SourcePatch.Text
