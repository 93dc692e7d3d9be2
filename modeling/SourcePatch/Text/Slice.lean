/-!
# Parts of texts

Texts are cut and searched by character positions. `slice` is the part between two positions,
`containsText` looks for a text inside another, and `lineStarts` lists where lines begin.
-/

namespace SourcePatch.Text

/-- The part of a list from position `first` up to `last`, which is not included. -/
def slice {α : Type} (xs : List α) (first last : Nat) : List α := (xs.drop first).take (last - first)

/-- Does `needle` occur in the text? -/
def containsText (needle : List Char) : List Char → Bool
  | [] => needle.isEmpty
  | c :: cs => needle.isPrefixOf (c :: cs) || containsText needle cs

/-- The positions directly after the newlines of a text that begins at `base`. -/
def afterNewlines (base : Nat) : List Char → List Nat
  | [] => []
  | c :: cs => if c = '\n' then (base + 1) :: afterNewlines (base + 1) cs else afterNewlines (base + 1) cs

/-- Where the lines of a text begin. -/
def lineStarts (cs : List Char) : List Nat := 0 :: afterNewlines 0 cs

/-- The number of the line that position `pos` lies on; the first line is `1`. -/
def lineNumber (cs : List Char) (pos : Nat) : Nat := 1 + (cs.take pos).count '\n'

/-- The text with every line break written as carriage return and newline. -/
def toCrlf : List Char → List Char
  | [] => []
  | '\r' :: '\n' :: cs => '\r' :: '\n' :: toCrlf cs
  | c :: cs => if c = '\n' then '\r' :: '\n' :: toCrlf cs else c :: toCrlf cs

/-- Does the text have a line break of carriage return and newline? -/
def hasCrlf (cs : List Char) : Bool := containsText ['\r', '\n'] cs

theorem slice_append_slice {α : Type} (xs : List α) {a b c : Nat} (hab : a ≤ b) (hbc : b ≤ c) :
    slice xs a b ++ slice xs b c = slice xs a c := by
  have h1 : xs.drop b = (xs.drop a).drop (b - a) := by rw [List.drop_drop]; congr 1; omega
  have h2 : c - a = (b - a) + (c - b) := by omega
  rw [slice, slice, slice, h1, h2, List.take_add]

theorem take_append_slice {α : Type} (xs : List α) {a b : Nat} (h : a ≤ b) :
    xs.take a ++ slice xs a b = xs.take b := slice_append_slice xs (Nat.zero_le a) h

theorem slice_append_drop {α : Type} (xs : List α) {a b : Nat} (h : a ≤ b) :
    slice xs a b ++ xs.drop b = xs.drop a := by
  have hsplit := List.take_append_drop (b - a) (xs.drop a)
  rwa [List.drop_drop, show a + (b - a) = b by omega] at hsplit

theorem toCrlf_nil : toCrlf [] = [] := by simp [toCrlf]

end SourcePatch.Text
