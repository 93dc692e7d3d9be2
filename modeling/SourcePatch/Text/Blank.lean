import SourcePatch.Text.CharSet

/-!
# Blank characters

Blanks are the characters with the property `White_Space` of the Unicode character database.
`trimStart` and `trim` remove them from the ends of a text; `isBlankText` says that a text has
nothing else.
-/

namespace SourcePatch.Blank

/-- The characters with the property `White_Space`. -/
def blanks : CharSet := ⟨[(0x09, 0x0D), (0x20, 0x20), (0x85, 0x85), (0xA0, 0xA0),
  (0x1680, 0x1680), (0x2000, 0x200A), (0x2028, 0x2029), (0x202F, 0x202F), (0x205F, 0x205F),
  (0x3000, 0x3000)]⟩

def isBlank (c : Char) : Bool := blanks.contains c

def isBlankText (s : String) : Bool := s.toList.all isBlank

def trimStart (s : List Char) : List Char := s.dropWhile isBlank

/-- A newline is a blank. -/
theorem isBlank_newline : isBlank '\n' = true := by decide

/-- A carriage return is a blank. -/
theorem isBlank_carriageReturn : isBlank '\r' = true := by decide

end SourcePatch.Blank
