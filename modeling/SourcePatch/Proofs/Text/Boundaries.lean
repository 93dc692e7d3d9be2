import SourcePatch.Proofs.Text.Octets

/-!
# Cutting texts at offsets

A text can be cut at those offsets of its octets at which a character begins, or the text ends.

* `isBoundary_iff`: these are the offsets of the positions in the text.
* `cut_encode`: cutting at the offsets of two positions gives the text between them.
* `isBoundary_iff_isText_take`: they are also those offsets before which there is a text, so that a
  part which is a text, and not empty, begins and ends at such offsets (`isBoundary_of_slice`).
* `count_newline_encode`: line breaks are counted in the octets as well as in the text.
-/

namespace SourcePatch.Utf8

open SourcePatch.Text

/-- Does a character begin at an offset, or is it the end of the text? -/
def isBoundary (bytes : Bytes) (offset : Nat) : Bool :=
  match bytes[offset]? with
  | some b => !isContinuation b
  | none => offset == bytes.length

/-- The text between two offsets. There is none if they are out of order, or one of them lies inside
a character or behind the end. -/
def cut (bytes : Bytes) (first last : Nat) : Option (List Char) :=
  if first ≤ last ∧ isBoundary bytes first ∧ isBoundary bytes last then
    (decode (slice bytes first last)).toOption
  else none

/-! ## Octets of one character -/

/-- The octets of a character are one below `0x80`, or one from `0xC0` on and continuations. -/
theorem encodeChar_shape (c : Char) :
    c.toNat < 0x80 ∧ encodeChar c = [UInt8.ofNat c.toNat] ∨
    ∃ a rest, encodeChar c = a :: rest ∧ 0x80 ≤ c.toNat ∧ 0xC0 ≤ a.toNat ∧
      ∀ b ∈ rest, isContinuation b = true := by
  have hcode : c.toNat < 0x110000 := by
    rcases c.valid with h | h
    · exact Nat.lt_trans h (by decide)
    · exact h.2
  have hpayload (m : Nat) : isContinuation (UInt8.ofNat (0x80 + m % 64)) = true :=
    isContinuation_ofNat (Nat.mod_lt m (by decide))
  have hlead {m : Nat} (hm : 0xC0 ≤ m ∧ m < 256) : 0xC0 ≤ (UInt8.ofNat m).toNat := by
    rw [toNat_ofNat_of_lt hm.2]
    exact hm.1
  unfold encodeChar
  dsimp only
  generalize c.toNat = n at *
  split
  · rename_i h1
    exact Or.inl ⟨h1, rfl⟩
  split
  · rename_i h1 h2
    refine Or.inr ⟨_, _, rfl, by omega, hlead (by omega), ?_⟩
    simp only [List.forall_mem_cons, hpayload, List.not_mem_nil, false_implies, implies_true,
      and_self]
  split
  · rename_i h1 h2 h3
    refine Or.inr ⟨_, _, rfl, by omega, hlead (by omega), ?_⟩
    simp only [List.forall_mem_cons, hpayload, List.not_mem_nil, false_implies, implies_true,
      and_self]
  · rename_i h1 h2 h3
    refine Or.inr ⟨_, _, rfl, by omega, hlead (by omega), ?_⟩
    simp only [List.forall_mem_cons, hpayload, List.not_mem_nil, false_implies, implies_true,
      and_self]

/-- No character begins with a continuation octet, and each goes on with such octets only. -/
theorem exists_encodeChar_eq_cons (c : Char) :
    ∃ a rest, encodeChar c = a :: rest ∧ isContinuation a = false ∧
      ∀ b ∈ rest, isContinuation b = true := by
  rcases encodeChar_shape c with ⟨hc, h⟩ | ⟨a, rest, h, -, ha, hrest⟩
  · refine ⟨_, [], h, Bool.eq_false_iff.2 fun hcont => ?_, by simp⟩
    rw [isContinuation_iff, toNat_ofNat_of_lt (by omega)] at hcont
    omega
  · refine ⟨a, rest, h, Bool.eq_false_iff.2 fun hcont => ?_, hrest⟩
    rw [isContinuation_iff] at hcont
    omega

/-! ## Boundaries -/

theorem isBoundary_append (bytes rest : Bytes) (offset : Nat) :
    isBoundary (bytes ++ rest) (bytes.length + offset) = isBoundary rest offset := by
  rw [isBoundary, isBoundary, List.getElem?_append_right (Nat.le_add_right _ _),
    Nat.add_sub_cancel_left, List.length_append]
  cases rest[offset]? with
  | none => rw [Bool.eq_iff_iff, beq_iff_eq, beq_iff_eq, Nat.add_left_cancel_iff]
  | some b => rfl

/-- A character begins where a text begins that is not empty. -/
theorem isBoundary_encode_append {cs : List Char} (hcs : cs ≠ []) (rest : Bytes) :
    isBoundary (encode cs ++ rest) 0 = true := by
  cases cs with
  | nil => exact absurd rfl hcs
  | cons c cs =>
    obtain ⟨a, more, hchar, ha, -⟩ := exists_encodeChar_eq_cons c
    rw [isBoundary, encode, List.flatMap_cons, hchar, List.cons_append, List.cons_append,
      List.getElem?_cons_zero]
    exact congrArg (!·) ha

theorem isBoundary_zero (cs : List Char) : isBoundary (encode cs) 0 = true := by
  cases cs with
  | nil => rfl
  | cons c cs =>
    have hbegins := isBoundary_encode_append (List.cons_ne_nil c cs) []
    rwa [List.append_nil] at hbegins

/-- The offset of a position is a boundary. -/
theorem isBoundary_size_take (cs : List Char) (i : Nat) :
    isBoundary (encode cs) (size (cs.take i)) = true := by
  have hsplit := encode_append (cs.take i) (cs.drop i)
  rw [List.take_append_drop] at hsplit
  have happend := isBoundary_append (encode (cs.take i)) (encode (cs.drop i)) 0
  rw [Nat.add_zero, length_encode] at happend
  rw [hsplit, happend]
  exact isBoundary_zero (cs.drop i)

/-- There are no boundaries but the offsets of positions. -/
theorem isBoundary_iff {cs : List Char} {offset : Nat} :
    isBoundary (encode cs) offset = true ↔ ∃ i ≤ cs.length, size (cs.take i) = offset := by
  constructor
  · intro h
    induction cs generalizing offset with
    | nil =>
      rw [encode_nil, isBoundary, List.getElem?_nil, beq_iff_eq] at h
      exact ⟨0, Nat.le_refl 0, h.symm⟩
    | cons c cs ih =>
      -- The offset is where the first character begins, inside it, or in the rest of the text.
      rw [encode, List.flatMap_cons, ← encode] at h
      by_cases hwidth : width c ≤ offset
      · obtain ⟨k, rfl⟩ := Nat.exists_eq_add_of_le hwidth
        rw [← length_encodeChar, isBoundary_append] at h
        obtain ⟨i, hi, rfl⟩ := ih h
        exact ⟨i + 1, Nat.succ_le_succ hi, rfl⟩
      · obtain ⟨a, rest, hchar, -, hrest⟩ := exists_encodeChar_eq_cons c
        have hlength := length_encodeChar c
        rw [hchar, List.length_cons] at hlength
        cases offset with
        | zero => exact ⟨0, Nat.zero_le _, rfl⟩
        | succ k =>
          have hk : k < rest.length := by omega
          rw [isBoundary, hchar, List.cons_append, List.getElem?_cons_succ,
            List.getElem?_append_left hk, List.getElem?_eq_getElem hk] at h
          have hinside := hrest rest[k] (List.getElem_mem hk)
          simp [hinside] at h
  · rintro ⟨i, -, rfl⟩
    exact isBoundary_size_take cs i

/-- Cutting at the offsets of two positions gives the text between them. -/
theorem cut_encode (cs : List Char) {i j : Nat} (h : i ≤ j) :
    cut (encode cs) (size (cs.take i)) (size (cs.take j)) = some (slice cs i j) := by
  rw [cut, if_pos ⟨size_take_le cs h, isBoundary_size_take cs i, isBoundary_size_take cs j⟩,
    slice_encode cs h, decode_encode]
  rfl

example : cut (octets "aé") 1 2 = none := by decide +kernel

/-! ## Texts within texts -/

theorem isText_encode (cs : List Char) : isText (encode cs) = true := by
  rw [isText, decode_encode]

theorem exists_eq_encode {bytes : Bytes} (h : isText bytes = true) : ∃ cs, bytes = encode cs := by
  obtain ⟨s, rfl⟩ := isText_iff.1 h
  exact ⟨s.toList, rfl⟩

/-- A text in front makes no difference to whether octets are a text. -/
theorem isText_encode_append (cs : List Char) (rest : Bytes) :
    isText (encode cs ++ rest) = isText rest := by
  rw [Bool.eq_iff_iff]
  constructor
  · intro h
    obtain ⟨ds, hds⟩ := exists_eq_encode h
    obtain ⟨es, -, rfl⟩ := encode_append_eq_encode hds
    exact isText_encode es
  · intro h
    obtain ⟨ds, rfl⟩ := exists_eq_encode h
    rw [← encode_append]
    exact isText_encode (cs ++ ds)

/-- An offset of a text is a boundary exactly if what lies before it is a text. -/
theorem isBoundary_iff_isText_take {cs : List Char} {offset : Nat}
    (h : offset ≤ (encode cs).length) :
    isBoundary (encode cs) offset = true ↔ isText ((encode cs).take offset) = true := by
  constructor
  · intro hboundary
    obtain ⟨i, -, rfl⟩ := isBoundary_iff.1 hboundary
    rw [take_encode]
    exact isText_encode (cs.take i)
  · intro htext
    obtain ⟨xs, hxs⟩ := exists_eq_encode htext
    have hsplit := List.take_append_drop offset (encode cs)
    have hlength := List.length_take_of_le h
    rw [hxs] at hsplit hlength
    obtain ⟨ys, rfl, -⟩ := encode_append_eq_encode hsplit
    have hoffset := isBoundary_size_take (xs ++ ys) xs.length
    rwa [List.take_left, ← length_encode, hlength] at hoffset

/-- What stands in a text before another text, which is not empty, is a text. -/
theorem isText_of_isText_append {front rest : Bytes} {cs : List Char} (hcs : cs ≠ [])
    (h : isText (front ++ (encode cs ++ rest)) = true) : isText front = true := by
  obtain ⟨ds, hds⟩ := exists_eq_encode h
  have hboundary := isBoundary_append front (encode cs ++ rest) 0
  rw [isBoundary_encode_append hcs rest, hds, Nat.add_zero] at hboundary
  have hlength : front.length ≤ (encode ds).length := by
    rw [← hds, List.length_append]
    exact Nat.le_add_right _ _
  rw [isBoundary_iff_isText_take hlength, ← hds, List.take_left] at hboundary
  exact hboundary

/-- A part of a text that is a text, and not empty, begins and ends at boundaries. -/
theorem isBoundary_of_slice {cs ds : List Char} {first last : Nat} (hds : ds ≠ [])
    (hfirst : first ≤ last) (hlast : last ≤ (encode cs).length)
    (h : slice (encode cs) first last = encode ds) :
    isBoundary (encode cs) first = true ∧ isBoundary (encode cs) last = true := by
  have hfront := take_append_slice (encode cs) hfirst
  have hback := slice_append_drop (encode cs) hfirst
  rw [h] at hfront hback
  have hwhole : isText ((encode cs).take first ++ (encode ds ++ (encode cs).drop last)) = true := by
    rw [hback, List.take_append_drop]
    exact isText_encode cs
  have htext := isText_of_isText_append hds hwhole
  constructor
  · exact (isBoundary_iff_isText_take (Nat.le_trans hfirst hlast)).2 htext
  · obtain ⟨xs, hxs⟩ := exists_eq_encode htext
    rw [isBoundary_iff_isText_take hlast, ← hfront, hxs, ← encode_append]
    exact isText_encode (xs ++ ds)

/-- What lies between two boundaries of a text is a text. -/
theorem exists_slice_eq_encode {cs : List Char} {first last : Nat} (h : first ≤ last)
    (hfirst : isBoundary (encode cs) first = true) (hlast : isBoundary (encode cs) last = true) :
    ∃ ds, slice (encode cs) first last = encode ds := by
  obtain ⟨i, -, rfl⟩ := isBoundary_iff.1 hfirst
  obtain ⟨j, -, rfl⟩ := isBoundary_iff.1 hlast
  rcases Nat.le_total i j with hij | hji
  · exact ⟨slice cs i j, slice_encode cs hij⟩
  · have hsame := Nat.le_antisymm h (size_take_le cs hji)
    refine ⟨[], ?_⟩
    rw [hsame, slice, Nat.sub_self, List.take_zero]
    rfl

/-! ## Line breaks -/

theorem count_newline_encodeChar (c : Char) :
    (encodeChar c).count 0x0A = if c = '\n' then 1 else 0 := by
  rcases encodeChar_shape c with ⟨hc, h⟩ | ⟨a, rest, h, hc, ha, hrest⟩
  · rw [h, List.count_singleton]
    have hone : UInt8.ofNat c.toNat = 0x0A ↔ c = '\n' := by
      rw [← UInt8.toNat_inj, toNat_ofNat_of_lt (by omega), ← Char.toNat_inj]
      rfl
    simp only [beq_iff_eq, hone]
  · have hc : c ≠ '\n' := by
      rintro rfl
      exact absurd hc (by decide)
    rw [h, if_neg hc, List.count_eq_zero, List.mem_cons, not_or]
    constructor
    · rintro rfl
      exact absurd ha (by decide)
    · intro hmem
      exact absurd (hrest _ hmem) (by decide)

/-- A text has as many line breaks as its octets. -/
theorem count_newline_encode (cs : List Char) : (encode cs).count 0x0A = cs.count '\n' := by
  induction cs with
  | nil => rfl
  | cons c cs ih =>
    rw [encode, List.flatMap_cons, List.count_append, count_newline_encodeChar, List.count_cons,
      ← encode, ih, Nat.add_comm]
    simp only [beq_iff_eq]

end SourcePatch.Utf8
