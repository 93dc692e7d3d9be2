import SourcePatch.Text.Blank
import SourcePatch.Text.Slice

/-!
# Impl blocks

A block is bounded by the lines that open an `impl`. The block around a match runs from the
nearest opening line at or before its beginning to the next opening line after its end; where
there is none, from the beginning or to the end of the source. Lines are told by their text alone.
-/

namespace SourcePatch.ImplBlock

open SourcePatch.Text

/-- Does the line at the front of the text open an `impl`? -/
def isOpener (rest : List Char) : Bool :=
  let line := Blank.trimStart (rest.takeWhile (· != '\n'))
  "impl ".toList.isPrefixOf line || "impl<".toList.isPrefixOf line

/-- Where the block around a match that begins at `first` begins. -/
def startOf (source : List Char) (first : Nat) : Nat :=
  ((lineStarts (source.take first)).reverse.find? fun pos => isOpener (source.drop pos)).getD 0

/-- Where the block around a match that ends at `last` ends. -/
def endOf (source : List Char) (last : Nat) : Nat :=
  ((afterNewlines last (source.drop last)).find? fun pos => isOpener (source.drop pos)).getD
    source.length

/-- The block around a match. -/
def around (source : List Char) (first last : Nat) : List Char :=
  slice source (startOf source first) (endOf source last)

/-- Does the block around a match contain a text? -/
def containsGuard (source : List Char) (first last : Nat) (guard : String) : Bool :=
  containsText guard.toList (around source first last)

end SourcePatch.ImplBlock
