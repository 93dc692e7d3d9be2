import SourcePatch.Unicode.Property

/-!
# Quoted text

How a text is shown between double quotes: quotes, backslashes and the common control characters
get a backslash escape; other characters that cannot be seen on their own, and marks that extend
the character before them, are written as their code point in hexadecimal between braces.
-/

namespace SourcePatch.Quoted

/-- Characters that have no visible form: controls, formats, private use, unassigned code points
and every separator except the blank. -/
def invisible : CharSet :=
  (CharSet.unions [Unicode.categories ["cc", "cf", "co", "zl", "zp", "zs"], Unicode.surrogates,
    Unicode.unassigned]).diff (CharSet.range 0x20 0x20)

/-- Characters that are shown by their code point. -/
def byCodePoint : CharSet := invisible.union (Unicode.property "graphemeextend")

def hexText (n : Nat) : List Char := Nat.toDigits 16 n

def encodeChar (c : Char) : List Char :=
  match c with
  | '\x00' => ['\\', '0']
  | '\t' => ['\\', 't']
  | '\r' => ['\\', 'r']
  | '\n' => ['\\', 'n']
  | '"' => ['\\', '"']
  | '\\' => ['\\', '\\']
  | c =>
    if byCodePoint.contains c then
      ['\\', 'u', '\x7b'] ++ hexText c.toNat ++ ['\x7d']
    else [c]

/-- The text between double quotes. -/
def encode (s : String) : String :=
  String.ofList ('"' :: s.toList.flatMap encodeChar ++ ['"'])

end SourcePatch.Quoted
