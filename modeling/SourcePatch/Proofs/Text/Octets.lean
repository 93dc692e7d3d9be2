import SourcePatch.Text.Slice
import SourcePatch.Text.Utf8

/-!
# Octets of texts

What `Utf8.decode` accepts is what `Utf8.encode` writes, and the parts of a text are the parts of
its octets.

* `decodeString_eq_ok_iff`: octets spell a string exactly if they are its octets.
* `slice_encode`: cutting a text at two positions is cutting its octets at their offsets.
* `encode_append_eq_encode`: a text whose octets begin those of another text begins that text.
-/

namespace SourcePatch.Utf8

open SourcePatch.Text

/-! ## Exact decoding -/

theorem toNat_ofNat {n : Nat} (h : n < 0xD800 ∨ 0xDFFF < n ∧ n < 0x110000) :
    (Char.ofNat n).toNat = n := by
  have hvalid : n.isValidChar := h
  rw [Char.ofNat, dif_pos hvalid]
  rfl

theorem isContinuation_iff {b : UInt8} :
    isContinuation b = true ↔ 0x80 ≤ b.toNat ∧ b.toNat ≤ 0xBF := by
  simp [isContinuation, UInt8.le_iff_toNat_le]

/-- What may follow a leading octet is a continuation octet, and a narrower one where a wide one
would spell an overlong form, a surrogate or too large a code point. -/
theorem isSecond_bounds {a b : UInt8} (h : isSecond a b = true) :
    isContinuation b = true ∧ (a.toNat = 0xE0 → 0xA0 ≤ b.toNat) ∧
      (a.toNat = 0xED → b.toNat ≤ 0x9F) ∧ (a.toNat = 0xF0 → 0x90 ≤ b.toNat) ∧
      (a.toNat = 0xF4 → b.toNat ≤ 0x8F) := by
  simp only [isSecond, isContinuation, ← UInt8.toNat_inj, UInt8.le_iff_toNat_le,
    UInt8.reduceToNat] at h ⊢
  grind

/-- A continuation octet is made of its payload. -/
theorem exists_payload {b : UInt8} (hb : isContinuation b = true) :
    ∃ x < 64, payload b = x ∧ b.toNat = 0x80 + x ∧ UInt8.ofNat (0x80 + x) = b := by
  rw [isContinuation_iff] at hb
  refine ⟨b.toNat - 0x80, by omega, rfl, by omega, ?_⟩
  rw [show 0x80 + (b.toNat - 0x80) = b.toNat by omega, UInt8.ofNat_toNat]

/-- A leading octet is made of its mark and its payload. -/
theorem exists_lead {a : UInt8} {mark : Nat} (h : mark ≤ a.toNat) :
    ∃ k, a.toNat = mark + k ∧ a.toNat - mark = k ∧ UInt8.ofNat (mark + k) = a := by
  refine ⟨a.toNat - mark, by omega, rfl, ?_⟩
  rw [show mark + (a.toNat - mark) = a.toNat by omega, UInt8.ofNat_toNat]

theorem encodeChar_one {a : UInt8} (ha : a.toNat < 0x80) :
    encodeChar (Char.ofNat a.toNat) = [a] := by
  have hn : (Char.ofNat a.toNat).toNat = a.toNat := toNat_ofNat (by omega)
  simp only [encodeChar, hn, if_pos ha, UInt8.ofNat_toNat]

theorem encodeChar_two {a b : UInt8} (ha : 0xC2 ≤ a.toNat ∧ a.toNat ≤ 0xDF)
    (hb : isContinuation b = true) :
    encodeChar (Char.ofNat ((a.toNat - 0xC0) * 64 + payload b)) = [a, b] := by
  obtain ⟨k, hk, hk', ha'⟩ := exists_lead (show 0xC0 ≤ a.toNat by omega)
  obtain ⟨x, hx, hx', -, hb'⟩ := exists_payload hb
  rw [hk', hx']
  have hn : (Char.ofNat (k * 64 + x)).toNat = k * 64 + x := toNat_ofNat (by omega)
  simp only [encodeChar, hn]
  rw [if_neg (by omega), if_pos (by omega), show (k * 64 + x) / 64 = k by omega,
    show (k * 64 + x) % 64 = x by omega, ha', hb']

theorem encodeChar_three {a b c : UInt8} (ha : 0xE0 ≤ a.toNat ∧ a.toNat ≤ 0xEF)
    (hb : isSecond a b = true) (hc : isContinuation c = true) :
    encodeChar (Char.ofNat ((a.toNat - 0xE0) * 4096 + payload b * 64 + payload c)) = [a, b, c] := by
  obtain ⟨hb, hlow, hgap, -⟩ := isSecond_bounds hb
  obtain ⟨k, hk, hk', ha'⟩ := exists_lead (show 0xE0 ≤ a.toNat by omega)
  obtain ⟨x, hx, hx', hbx, hb'⟩ := exists_payload hb
  obtain ⟨y, hy, hy', -, hc'⟩ := exists_payload hc
  rw [hk', hx', hy']
  have hn : (Char.ofNat (k * 4096 + x * 64 + y)).toNat = k * 4096 + x * 64 + y :=
    toNat_ofNat (by omega)
  simp only [encodeChar, hn]
  rw [if_neg (by omega), if_neg (by omega), if_pos (by omega),
    show (k * 4096 + x * 64 + y) / 4096 = k by omega,
    show (k * 4096 + x * 64 + y) / 64 % 64 = x by omega,
    show (k * 4096 + x * 64 + y) % 64 = y by omega, ha', hb', hc']

theorem encodeChar_four {a b c d : UInt8} (ha : 0xF0 ≤ a.toNat ∧ a.toNat ≤ 0xF4)
    (hb : isSecond a b = true) (hc : isContinuation c = true) (hd : isContinuation d = true) :
    encodeChar (Char.ofNat
      ((a.toNat - 0xF0) * 262144 + payload b * 4096 + payload c * 64 + payload d))
      = [a, b, c, d] := by
  obtain ⟨hb, -, -, hlow, hhigh⟩ := isSecond_bounds hb
  obtain ⟨k, hk, hk', ha'⟩ := exists_lead (show 0xF0 ≤ a.toNat by omega)
  obtain ⟨x, hx, hx', hbx, hb'⟩ := exists_payload hb
  obtain ⟨y, hy, hy', -, hc'⟩ := exists_payload hc
  obtain ⟨z, hz, hz', -, hd'⟩ := exists_payload hd
  rw [hk', hx', hy', hz']
  have hn : (Char.ofNat (k * 262144 + x * 4096 + y * 64 + z)).toNat
      = k * 262144 + x * 4096 + y * 64 + z := toNat_ofNat (by omega)
  simp only [encodeChar, hn]
  rw [if_neg (by omega), if_neg (by omega), if_neg (by omega),
    show (k * 262144 + x * 4096 + y * 64 + z) / 262144 = k by omega,
    show (k * 262144 + x * 4096 + y * 64 + z) / 4096 % 64 = x by omega,
    show (k * 262144 + x * 4096 + y * 64 + z) / 64 % 64 = y by omega,
    show (k * 262144 + x * 4096 + y * 64 + z) % 64 = z by omega, ha', hb', hc', hd']

theorem exists_of_map_eq_ok {ε α β : Type} {x : Except ε α} {f : α → β} {b : β}
    (h : x.map f = .ok b) : ∃ a, x = .ok a ∧ f a = b := by
  cases x with
  | error e => cases h
  | ok a => exact ⟨a, rfl, Except.ok.inj h⟩

/-- Octets that read as a text are the octets of that text. -/
theorem eq_encode_of_decodeFrom {pos : Nat} {bytes : Bytes} {cs : List Char}
    (h : decodeFrom pos bytes = .ok cs) : bytes = encode cs := by
  -- each reading case puts one character back; in all others the octets are refused
  fun_induction decodeFrom pos bytes generalizing cs with
  | case1 =>
    obtain rfl := Except.ok.inj h
    rfl
  | case2 pos a rest ha ih =>
    obtain ⟨cs, hcs, rfl⟩ := exists_of_map_eq_ok h
    have hchar := encodeChar_one (UInt8.lt_iff_toNat_lt.1 ha)
    rw [encode, List.flatMap_cons, hchar, ih hcs]
    rfl
  | case4 pos a _ ha b rest hb ih =>
    obtain ⟨cs, hcs, rfl⟩ := exists_of_map_eq_ok h
    have hchar := encodeChar_two (by simpa [UInt8.le_iff_toNat_le] using ha) hb
    rw [encode, List.flatMap_cons, hchar, ih hcs]
    rfl
  | case8 pos a _ _ ha b hb c rest hc ih =>
    obtain ⟨cs, hcs, rfl⟩ := exists_of_map_eq_ok h
    have hchar := encodeChar_three (by simpa [UInt8.le_iff_toNat_le] using ha) hb hc
    rw [encode, List.flatMap_cons, hchar, ih hcs]
    rfl
  | case14 pos a _ _ _ ha b hb c hc d rest hd ih =>
    obtain ⟨cs, hcs, rfl⟩ := exists_of_map_eq_ok h
    have hchar := encodeChar_four (by simpa [UInt8.le_iff_toNat_le] using ha) hb hc hd
    rw [encode, List.flatMap_cons, hchar, ih hcs]
    rfl
  | _ => contradiction

theorem decode_eq_ok_iff {bytes : Bytes} {cs : List Char} :
    decode bytes = .ok cs ↔ bytes = encode cs := by
  constructor
  · exact eq_encode_of_decodeFrom
  · rintro rfl
    exact decode_encode cs

/-- Octets spell a string exactly if they are its octets. -/
theorem decodeString_eq_ok_iff {bytes : Bytes} {s : String} :
    decodeString bytes = .ok s ↔ bytes = octets s := by
  constructor
  · intro h
    obtain ⟨cs, hcs, rfl⟩ := exists_of_map_eq_ok h
    rw [octets, String.toList_ofList]
    exact decode_eq_ok_iff.1 hcs
  · rintro rfl
    exact decodeString_octets s

theorem isText_iff {bytes : Bytes} : isText bytes = true ↔ ∃ s, bytes = octets s := by
  rw [isText]
  constructor
  · intro h
    split at h
    · rename_i cs hcs
      refine ⟨String.ofList cs, ?_⟩
      rw [octets, String.toList_ofList]
      exact decode_eq_ok_iff.1 hcs
    · cases h
  · rintro ⟨s, rfl⟩
    rw [octets, decode_encode]

theorem octets_inj {s t : String} (h : octets s = octets t) : s = t := by
  have hs := decodeString_octets s
  rw [h, decodeString_octets] at hs
  exact (Except.ok.inj hs).symm

/-! ## Parts -/

@[simp] theorem encode_nil : encode [] = [] := rfl

@[simp] theorem encode_append (cs ds : List Char) : encode (cs ++ ds) = encode cs ++ encode ds :=
  List.flatMap_append

@[simp] theorem size_nil : size [] = 0 := rfl

@[simp] theorem size_append (cs ds : List Char) : size (cs ++ ds) = size cs + size ds := by
  rw [← length_encode, encode_append, List.length_append, length_encode, length_encode]

theorem width_pos (c : Char) : 0 < width c := by
  unfold width
  split
  · decide
  split
  · decide
  split <;> decide

/-- Of two texts at the front of a third, the one with no more octets is at the front of the
other. -/
theorem prefix_of_size_le {xs ys cs : List Char} (hxs : xs <+: cs) (hys : ys <+: cs)
    (h : size xs ≤ size ys) : xs <+: ys := by
  rcases List.prefix_or_prefix_of_prefix hxs hys with hprefix | ⟨zs, rfl⟩
  · exact hprefix
  · cases zs with
    | nil => exact ⟨[], by rw [List.append_nil, List.append_nil]⟩
    | cons c cs =>
      have hwidth := width_pos c
      rw [size_append, size] at h
      omega

/-- The octets up to the offset of a position. -/
theorem take_encode (cs : List Char) (i : Nat) :
    (encode cs).take (size (cs.take i)) = encode (cs.take i) := by
  have hsplit := encode_append (cs.take i) (cs.drop i)
  rw [List.take_append_drop] at hsplit
  rw [hsplit, ← length_encode, List.take_left]

/-- The octets from the offset of a position on. -/
theorem drop_encode (cs : List Char) (i : Nat) :
    (encode cs).drop (size (cs.take i)) = encode (cs.drop i) := by
  have hsplit := encode_append (cs.take i) (cs.drop i)
  rw [List.take_append_drop] at hsplit
  rw [hsplit, ← length_encode, List.drop_left]

/-- The offsets of two positions are as far apart as the text between them is long. -/
theorem size_take_add_slice (cs : List Char) {i j : Nat} (h : i ≤ j) :
    size (cs.take i) + size (slice cs i j) = size (cs.take j) := by
  rw [← size_append, take_append_slice cs h]

theorem size_take_le (cs : List Char) {i j : Nat} (h : i ≤ j) :
    size (cs.take i) ≤ size (cs.take j) := by
  rw [← size_take_add_slice cs h]
  exact Nat.le_add_right _ _

theorem size_take_le_size (cs : List Char) (i : Nat) : size (cs.take i) ≤ size cs := by
  have hsplit := size_append (cs.take i) (cs.drop i)
  rw [List.take_append_drop] at hsplit
  omega

/-- Offsets keep the order of the positions in a text. -/
theorem size_take_lt (cs : List Char) {i j : Nat} (h : i < j) (hj : j ≤ cs.length) :
    size (cs.take i) < size (cs.take j) := by
  have hi : i < cs.length := by omega
  have hstep : size (cs.take (i + 1)) = size (cs.take i) + width cs[i] := by
    rw [List.take_succ_eq_append_getElem hi, size_append, size, size_nil, Nat.add_zero]
  calc size (cs.take i) < size (cs.take (i + 1)) := by
        rw [hstep]
        exact Nat.lt_add_of_pos_right (width_pos _)
    _ ≤ size (cs.take j) := size_take_le cs h

/-- Cutting a text at two positions is cutting its octets at their offsets. -/
theorem slice_encode (cs : List Char) {i j : Nat} (h : i ≤ j) :
    slice (encode cs) (size (cs.take i)) (size (cs.take j)) = encode (slice cs i j) := by
  have hsize : size (cs.take j) - size (cs.take i) = size ((cs.drop i).take (j - i)) := by
    rw [← size_take_add_slice cs h, slice]
    exact Nat.add_sub_cancel_left _ _
  rw [slice, drop_encode, hsize, take_encode]
  rfl

theorem decodeFrom_encode_append (pos : Nat) (cs : List Char) (rest : Bytes) :
    decodeFrom pos (encode cs ++ rest) = (decodeFrom (pos + size cs) rest).map (cs ++ ·) := by
  induction cs generalizing pos with
  | nil => cases h : decodeFrom pos rest <;> simp [h, Except.map]
  | cons c cs ih =>
    rw [encode, List.flatMap_cons, List.append_assoc, decodeFrom_encodeChar]
    rw [encode] at ih
    rw [ih, size, Nat.add_assoc]
    cases decodeFrom (pos + (width c + size cs)) rest <;> rfl

/-- A text whose octets begin those of another text begins that text. -/
theorem encode_append_eq_encode {cs ds : List Char} {rest : Bytes}
    (h : encode cs ++ rest = encode ds) : ∃ es, ds = cs ++ es ∧ rest = encode es := by
  have hread := decodeFrom_encode 0 ds
  rw [← h, decodeFrom_encode_append] at hread
  obtain ⟨es, hes, rfl⟩ := exists_of_map_eq_ok hread
  exact ⟨es, rfl, eq_encode_of_decodeFrom hes⟩

/-- A text whose octets are found at the end of another text stands there. -/
theorem eq_append_of_slice_encode {xs ys zs : List Char} {last : Nat}
    (h : slice (encode (xs ++ ys)) (size xs) last = encode zs) : ∃ more, ys = zs ++ more := by
  rw [slice, encode_append, ← length_encode, List.drop_left] at h
  have hsplit := List.take_append_drop (last - (encode xs).length) (encode ys)
  rw [h] at hsplit
  obtain ⟨more, hys, -⟩ := encode_append_eq_encode hsplit
  exact ⟨more, hys⟩

end SourcePatch.Utf8
