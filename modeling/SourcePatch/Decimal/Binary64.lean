/-!
# Binary floating-point numbers

Numbers of 53 significant bits, as pairs of a mantissa and a power of two. `ofDecimal?` rounds a
decimal number to the nearest one, ties to the even mantissa; `shortest` finds the fewest decimal
digits that read back as the same number, and of those the nearest. `display` writes them without
an exponent and always with a point.
-/

namespace SourcePatch.Decimal

/-- A number with a sign; a finite one is `mantissa * 2 ^ exponent`. -/
inductive Binary64 where
  | finite (negative : Bool) (mantissa : Nat) (exponent : Int)
  | infinite (negative : Bool)
  | nan
deriving DecidableEq, Repr

/-- The smallest power of two that a mantissa can stand before. -/
def minExponent : Int := -1074

/-- The least mantissa of 53 bits. -/
def leastNormal : Nat := 0x10000000000000

/-- A positive fraction. -/
structure Fraction where
  num : Nat
  den : Nat

/-- `base ^ e`, for any integer `e`, times a fraction. -/
def Fraction.scale (f : Fraction) (base : Nat) (e : Int) : Fraction :=
  if 0 ≤ e then ⟨f.num * Nat.pow base e.toNat, f.den⟩
  else ⟨f.num, f.den * Nat.pow base (-e).toNat⟩

/-- The nearest whole number; a tie goes to the even one. -/
def Fraction.round (f : Fraction) : Nat :=
  let q := f.num / f.den
  let r := f.num % f.den
  if 2 * r < f.den then q else if f.den < 2 * r then q + 1 else if q % 2 = 0 then q else q + 1

/-- Rounds `digits * 10 ^ exponent`; `none` if that is too large. -/
def ofDecimal? (negative : Bool) (digits : Nat) (exponent : Int) : Option Binary64 :=
  if digits = 0 then some (.finite negative 0 0)
  else
    let magnitude : Int := exponent + (Nat.toDigits 10 digits).length
    if 400 < magnitude then none
    else if magnitude < -400 then some (.finite negative 0 0)
    else
      let value := Fraction.scale ⟨digits, 1⟩ 10 exponent
      let bits : Int := (Nat.log2 value.num : Int) - Nat.log2 value.den
      let guess : Int := max (bits - 52) minExponent
      let e : Int :=
        if guess = minExponent || leastNormal ≤ (value.scale 2 (-guess)).num / (value.scale 2 (-guess)).den
        then guess else max (guess - 1) minExponent
      let m := (value.scale 2 (-e)).round
      let (m, e) := if m = 2 * leastNormal then (leastNormal, e + 1) else (m, e)
      if 971 < e then none else some (.finite negative m e)

/-- The first position where a decimal grid has a point that rounds to the number: the digits and
the power of ten that they stand before. -/
def shortestFrom (value low high : Fraction) (closed : Bool) (top : Int) :
    (fuel digits : Nat) → Nat × Int
  | 0, digits => ((value.scale 10 ((digits : Int) - top)).round, top - digits)
  | fuel + 1, digits =>
    let unit : Int := top - digits
    let scaled := value.scale 10 (-unit)
    let down := scaled.num / scaled.den
    let inside (n : Nat) : Bool :=
      let f := Fraction.scale ⟨n, 1⟩ 10 unit
      let above := low.num * f.den < f.num * low.den || (closed && low.num * f.den = f.num * low.den)
      let below := f.num * high.den < high.num * f.den || (closed && f.num * high.den = high.num * f.den)
      above && below
    match inside down, inside (down + 1) with
    | true, true => (scaled.round, unit)
    | true, false => (down, unit)
    | false, true => (down + 1, unit)
    | false, false => shortestFrom value low high closed top fuel (digits + 1)

/-- The fewest digits that read back as `mantissa * 2 ^ exponent`, and the power of ten that they
stand before. -/
def shortest (mantissa : Nat) (exponent : Int) : Nat × Int :=
  let value := Fraction.scale ⟨mantissa, 1⟩ 2 exponent
  let narrow := mantissa = leastNormal && minExponent < exponent
  let low := if narrow then Fraction.scale ⟨4 * mantissa - 1, 1⟩ 2 (exponent - 2)
    else Fraction.scale ⟨2 * mantissa - 1, 1⟩ 2 (exponent - 1)
  let high := Fraction.scale ⟨2 * mantissa + 1, 1⟩ 2 (exponent - 1)
  let whole := value.num / value.den
  let top : Int := if 0 < whole then (Nat.toDigits 10 whole).length
    else 1 - ((Nat.toDigits 10 (value.den / value.num)).length : Int)
  shortestFrom value low high (mantissa % 2 = 0) (top + 1) 18 1

/-- Writes digits that stand before a power of ten, with a point and no exponent. -/
def positional (digits : Nat) (exponent : Int) : String :=
  let text := Nat.toDigits 10 digits
  if 0 ≤ exponent then
    String.ofList (text ++ List.replicate exponent.toNat '0') ++ ".0"
  else
    let places := (-exponent).toNat
    let padded := List.replicate (places + 1 - text.length) '0' ++ text
    let whole := padded.take (padded.length - places)
    String.ofList whole ++ "." ++ String.ofList (padded.drop (padded.length - places))

/-- Removes zeros at the end of digits. -/
def trimZeros : (fuel : Nat) → Nat × Int → Nat × Int
  | 0, p => p
  | fuel + 1, (digits, exponent) =>
    if digits % 10 = 0 && digits != 0 then trimZeros fuel (digits / 10, exponent + 1)
    else (digits, exponent)

namespace Binary64

/-- The number with the fewest digits that read back as it. -/
def display : Binary64 → String
  | .nan => "NaN"
  | .infinite negative => if negative then "-inf" else "inf"
  | .finite negative mantissa exponent =>
    let sign := if negative then "-" else ""
    if mantissa = 0 then sign ++ "0.0"
    else
      let (digits, unit) := trimZeros 20 (shortest mantissa exponent)
      sign ++ positional digits unit

end Binary64

end SourcePatch.Decimal
