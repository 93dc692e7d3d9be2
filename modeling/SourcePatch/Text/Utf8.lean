/-!
# UTF-8

Texts as octets. `Utf8.encode` writes characters as octets and `Utf8.decode` reads them back,
refusing overlong forms, surrogates and code points past the last one. A refusal says how many
octets were fine and how long the first bad sequence is. `decode_encode` says that a text reads back
from its octets, and `length_encode` how many these are.
-/

namespace SourcePatch

/-- The contents of a file. -/
abbrev Bytes := List UInt8

namespace Utf8

/-- Why octets are no text: up to `validUpTo` all is well, and the next `badLength` octets can
begin no character; no length is given where the octets end within a character. -/
structure DecodeError where
  validUpTo : Nat
  badLength : Option Nat
deriving DecidableEq, Repr

def DecodeError.message (e : DecodeError) : String :=
  match e.badLength with
  | some n => s!"invalid utf-8 sequence of {n} bytes from index {e.validUpTo}"
  | none => s!"incomplete utf-8 byte sequence from index {e.validUpTo}"

/-- The octets of one character. -/
def encodeChar (c : Char) : Bytes :=
  let n := c.toNat
  if n < 0x80 then [UInt8.ofNat n]
  else if n < 0x800 then [UInt8.ofNat (0xC0 + n / 64), UInt8.ofNat (0x80 + n % 64)]
  else if n < 0x10000 then
    [UInt8.ofNat (0xE0 + n / 4096), UInt8.ofNat (0x80 + n / 64 % 64), UInt8.ofNat (0x80 + n % 64)]
  else
    [UInt8.ofNat (0xF0 + n / 262144), UInt8.ofNat (0x80 + n / 4096 % 64),
      UInt8.ofNat (0x80 + n / 64 % 64), UInt8.ofNat (0x80 + n % 64)]

def encode (cs : List Char) : Bytes := cs.flatMap encodeChar

/-- How many octets a character takes. -/
def width (c : Char) : Nat :=
  if c.toNat < 0x80 then 1 else if c.toNat < 0x800 then 2 else if c.toNat < 0x10000 then 3 else 4

/-- How many octets a text takes. -/
def size : List Char → Nat
  | [] => 0
  | c :: cs => width c + size cs

def isContinuation (b : UInt8) : Bool := 0x80 ≤ b && b ≤ 0xBF

/-- May `b` follow the leading octet `a` of a character of three or four octets? -/
def isSecond (a b : UInt8) : Bool :=
  if a = 0xE0 then 0xA0 ≤ b && b ≤ 0xBF
  else if a = 0xED then 0x80 ≤ b && b ≤ 0x9F
  else if a = 0xF0 then 0x90 ≤ b && b ≤ 0xBF
  else if a = 0xF4 then 0x80 ≤ b && b ≤ 0x8F
  else isContinuation b

/-- The six payload bits of a continuation octet. -/
def payload (b : UInt8) : Nat := b.toNat - 0x80

/-- Reads the octets that stand from offset `pos` on. -/
def decodeFrom (pos : Nat) : Bytes → Except DecodeError (List Char)
  | [] => .ok []
  | a :: rest =>
    if a < 0x80 then
      (decodeFrom (pos + 1) rest).map (Char.ofNat a.toNat :: ·)
    else if 0xC2 ≤ a && a ≤ 0xDF then
      match rest with
      | [] => .error ⟨pos, none⟩
      | b :: rest =>
        if isContinuation b then
          (decodeFrom (pos + 2) rest).map (Char.ofNat ((a.toNat - 0xC0) * 64 + payload b) :: ·)
        else .error ⟨pos, some 1⟩
    else if 0xE0 ≤ a && a ≤ 0xEF then
      match rest with
      | [] => .error ⟨pos, none⟩
      | b :: rest =>
        if isSecond a b then
          match rest with
          | [] => .error ⟨pos, none⟩
          | c :: rest =>
            if isContinuation c then
              (decodeFrom (pos + 3) rest).map
                (Char.ofNat ((a.toNat - 0xE0) * 4096 + payload b * 64 + payload c) :: ·)
            else .error ⟨pos, some 2⟩
        else .error ⟨pos, some 1⟩
    else if 0xF0 ≤ a && a ≤ 0xF4 then
      match rest with
      | [] => .error ⟨pos, none⟩
      | b :: rest =>
        if isSecond a b then
          match rest with
          | [] => .error ⟨pos, none⟩
          | c :: rest =>
            if isContinuation c then
              match rest with
              | [] => .error ⟨pos, none⟩
              | d :: rest =>
                if isContinuation d then
                  (decodeFrom (pos + 4) rest).map
                    (Char.ofNat ((a.toNat - 0xF0) * 262144 + payload b * 4096 + payload c * 64
                      + payload d) :: ·)
                else .error ⟨pos, some 3⟩
            else .error ⟨pos, some 2⟩
        else .error ⟨pos, some 1⟩
    else .error ⟨pos, some 1⟩

/-- The text that the octets spell. -/
def decode (bytes : Bytes) : Except DecodeError (List Char) := decodeFrom 0 bytes

def isText (bytes : Bytes) : Bool :=
  match decode bytes with
  | .ok _ => true
  | .error _ => false

/-- Each character takes as many octets as its width says. -/
theorem length_encodeChar (c : Char) : (encodeChar c).length = width c := by
  unfold encodeChar width
  dsimp only
  split
  · rfl
  split
  · rfl
  split <;> rfl

/-- A text takes as many octets as its size says. -/
theorem length_encode (cs : List Char) : (encode cs).length = size cs := by
  induction cs with
  | nil => rfl
  | cons c cs ih => simp [encode, size, length_encodeChar, ← ih]

/-! ## Reading what is written -/

theorem toNat_ofNat_of_lt {n : Nat} (h : n < 256) : (UInt8.ofNat n).toNat = n := by
  simp [UInt8.toNat_ofNat', Nat.mod_eq_of_lt h]

theorem decodeFrom_one (pos n : Nat) (rest : Bytes) (h : n < 0x80) :
    decodeFrom pos (UInt8.ofNat n :: rest)
      = (decodeFrom (pos + 1) rest).map (Char.ofNat n :: ·) := by
  conv => lhs; unfold decodeFrom
  have ha : UInt8.ofNat n < 0x80 := by
    rw [UInt8.lt_iff_toNat_lt, toNat_ofNat_of_lt (by omega)]; exact h
  rw [if_pos ha, toNat_ofNat_of_lt (by omega)]

theorem isContinuation_ofNat {n : Nat} (h : n < 64) :
    isContinuation (UInt8.ofNat (0x80 + n)) = true := by
  simp only [isContinuation, UInt8.le_iff_toNat_le, Bool.and_eq_true, decide_eq_true_eq]
  rw [toNat_ofNat_of_lt (by omega)]
  simp only [UInt8.reduceToNat]
  omega

theorem payload_ofNat {n : Nat} (h : n < 64) : payload (UInt8.ofNat (0x80 + n)) = n := by
  unfold payload
  rw [toNat_ofNat_of_lt (show 0x80 + n < 256 by omega)]
  exact Nat.add_sub_cancel_left 0x80 n

theorem decodeFrom_two (pos : Nat) {k x : Nat} (rest : Bytes) (hk : 2 ≤ k ∧ k < 32) (hx : x < 64) :
    decodeFrom pos (UInt8.ofNat (0xC0 + k) :: UInt8.ofNat (0x80 + x) :: rest)
      = (decodeFrom (pos + 2) rest).map (Char.ofNat (k * 64 + x) :: ·) := by
  conv => lhs; unfold decodeFrom
  have ha : (UInt8.ofNat (0xC0 + k)).toNat = 0xC0 + k := toNat_ofNat_of_lt (by omega)
  have h1 : ¬ UInt8.ofNat (0xC0 + k) < 0x80 := by
    simp only [UInt8.lt_iff_toNat_lt, ha, UInt8.reduceToNat]; omega
  have h2 : 0xC2 ≤ UInt8.ofNat (0xC0 + k) ∧ UInt8.ofNat (0xC0 + k) ≤ 0xDF := by
    simp only [UInt8.le_iff_toNat_le, ha, UInt8.reduceToNat]
    omega
  simp only [h1, h2, isContinuation_ofNat hx, payload_ofNat hx, ha, decide_true, Bool.and_self,
    if_true, if_false, Nat.add_sub_cancel_left]

theorem decodeFrom_three (pos : Nat) {k x y : Nat} (rest : Bytes) (hk : k < 16) (hx : x < 64)
    (hy : y < 64) (hlow : 0x800 ≤ k * 4096 + x * 64 + y)
    (hgap : k * 4096 + x * 64 + y < 0xD800 ∨ 0xDFFF < k * 4096 + x * 64 + y) :
    decodeFrom pos (UInt8.ofNat (0xE0 + k) :: UInt8.ofNat (0x80 + x)
        :: UInt8.ofNat (0x80 + y) :: rest)
      = (decodeFrom (pos + 3) rest).map (Char.ofNat (k * 4096 + x * 64 + y) :: ·) := by
  conv => lhs; unfold decodeFrom
  have ha : (UInt8.ofNat (0xE0 + k)).toNat = 0xE0 + k := toNat_ofNat_of_lt (by omega)
  have hb : (UInt8.ofNat (0x80 + x)).toNat = 0x80 + x := toNat_ofNat_of_lt (by omega)
  have h1 : ¬ UInt8.ofNat (0xE0 + k) < 0x80 := by
    simp only [UInt8.lt_iff_toNat_lt, ha, UInt8.reduceToNat]; omega
  have h2 : ¬ UInt8.ofNat (0xE0 + k) ≤ 0xDF := by
    simp only [UInt8.le_iff_toNat_le, ha, UInt8.reduceToNat]; omega
  have h3 : 0xE0 ≤ UInt8.ofNat (0xE0 + k) ∧ UInt8.ofNat (0xE0 + k) ≤ 0xEF := by
    simp only [UInt8.le_iff_toNat_le, ha, UInt8.reduceToNat]
    omega
  have h4 : isSecond (UInt8.ofNat (0xE0 + k)) (UInt8.ofNat (0x80 + x)) = true := by
    simp only [isSecond, isContinuation, ← UInt8.toNat_inj, UInt8.le_iff_toNat_le, ha, hb,
      UInt8.reduceToNat]
    grind
  simp only [h1, h2, h3, h4, isContinuation_ofNat hy, payload_ofNat hx, payload_ofNat hy, ha,
    decide_true, decide_false, Bool.and_self, Bool.and_false, Bool.false_eq_true, if_true, if_false,
    Nat.add_sub_cancel_left]

theorem decodeFrom_four (pos : Nat) {k x y z : Nat} (rest : Bytes) (hx : x < 64)
    (hy : y < 64) (hz : z < 64) (hlow : 0x10000 ≤ k * 262144 + x * 4096 + y * 64 + z)
    (hhigh : k * 262144 + x * 4096 + y * 64 + z < 0x110000) :
    decodeFrom pos (UInt8.ofNat (0xF0 + k) :: UInt8.ofNat (0x80 + x) :: UInt8.ofNat (0x80 + y)
        :: UInt8.ofNat (0x80 + z) :: rest)
      = (decodeFrom (pos + 4) rest).map (Char.ofNat (k * 262144 + x * 4096 + y * 64 + z) :: ·) := by
  conv => lhs; unfold decodeFrom
  have ha : (UInt8.ofNat (0xF0 + k)).toNat = 0xF0 + k := toNat_ofNat_of_lt (by omega)
  have hb : (UInt8.ofNat (0x80 + x)).toNat = 0x80 + x := toNat_ofNat_of_lt (by omega)
  have h1 : ¬ UInt8.ofNat (0xF0 + k) < 0x80 := by
    simp only [UInt8.lt_iff_toNat_lt, ha, UInt8.reduceToNat]; omega
  have h2 : ¬ UInt8.ofNat (0xF0 + k) ≤ 0xDF := by
    simp only [UInt8.le_iff_toNat_le, ha, UInt8.reduceToNat]; omega
  have h2' : ¬ UInt8.ofNat (0xF0 + k) ≤ 0xEF := by
    simp only [UInt8.le_iff_toNat_le, ha, UInt8.reduceToNat]; omega
  have h3 : 0xF0 ≤ UInt8.ofNat (0xF0 + k) ∧ UInt8.ofNat (0xF0 + k) ≤ 0xF4 := by
    simp only [UInt8.le_iff_toNat_le, ha, UInt8.reduceToNat]
    omega
  have h4 : isSecond (UInt8.ofNat (0xF0 + k)) (UInt8.ofNat (0x80 + x)) = true := by
    simp only [isSecond, isContinuation, ← UInt8.toNat_inj, UInt8.le_iff_toNat_le, ha, hb,
      UInt8.reduceToNat]
    grind
  simp only [h1, h2, h2', h3, h4, isContinuation_ofNat hy, isContinuation_ofNat hz,
    payload_ofNat hx, payload_ofNat hy, payload_ofNat hz, ha,
    decide_true, decide_false, Bool.and_self, Bool.and_false, Bool.false_eq_true, if_true, if_false,
    Nat.add_sub_cancel_left]

/-- The octets of a character read as that character. -/
theorem decodeFrom_encodeChar (pos : Nat) (c : Char) (rest : Bytes) :
    decodeFrom pos (encodeChar c ++ rest) = (decodeFrom (pos + width c) rest).map (c :: ·) := by
  have hvalid : c.toNat < 0xD800 ∨ 0xDFFF < c.toNat ∧ c.toNat < 0x110000 := c.valid
  have hc : Char.ofNat c.toNat = c := Char.ofNat_toNat c
  unfold encodeChar width
  dsimp only
  generalize c.toNat = n at *
  split
  · rename_i h1
    rw [List.singleton_append, decodeFrom_one pos n rest h1, hc]
  split
  · rename_i h1 h2
    rw [List.cons_append, List.singleton_append,
      decodeFrom_two pos rest (by omega) (Nat.mod_lt n (by decide)),
      show n / 64 * 64 + n % 64 = n by omega, hc]
  split
  · rename_i h1 h2 h3
    have hn : n / 4096 * 4096 + n / 64 % 64 * 64 + n % 64 = n := by omega
    rw [List.cons_append, List.cons_append, List.singleton_append,
      decodeFrom_three pos rest (by omega) (Nat.mod_lt _ (by decide)) (Nat.mod_lt n (by decide))
        (by omega) (by omega), hn, hc]
  · rename_i h1 h2 h3
    have hn : n / 262144 * 262144 + n / 4096 % 64 * 4096 + n / 64 % 64 * 64 + n % 64 = n := by omega
    rw [List.cons_append, List.cons_append, List.cons_append, List.singleton_append,
      decodeFrom_four pos rest (Nat.mod_lt _ (by decide)) (Nat.mod_lt _ (by decide))
        (Nat.mod_lt n (by decide)) (by omega) (by omega), hn, hc]

theorem decodeFrom_encode (pos : Nat) (cs : List Char) : decodeFrom pos (encode cs) = .ok cs := by
  induction cs generalizing pos with
  | nil => simp [encode, decodeFrom]
  | cons c cs ih =>
    rw [encode, List.flatMap_cons, decodeFrom_encodeChar]
    rw [encode] at ih
    rw [ih]
    rfl

/-- A text reads back from its octets. -/
theorem decode_encode (cs : List Char) : decode (encode cs) = .ok cs :=
  decodeFrom_encode 0 cs

/-! ## Strings -/

/-- The octets of a string. -/
def octets (s : String) : Bytes := encode s.toList

/-- The string that the octets spell. -/
def decodeString (bytes : Bytes) : Except DecodeError String :=
  (decode bytes).map String.ofList

/-- A string reads back from its octets. -/
theorem decodeString_octets (s : String) : decodeString (octets s) = .ok s := by
  rw [decodeString, octets, decode_encode]
  exact congrArg Except.ok String.ofList_toList

end Utf8

end SourcePatch
