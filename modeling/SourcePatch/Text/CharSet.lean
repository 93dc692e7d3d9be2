/-!
# Sets of characters

A `CharSet` is a finite union of ranges of code points. The ranges are kept in increasing order
and never touch, so two sets built by the operations below hold the same code points exactly when
they are equal.

* `CharSet.contains` decides membership.
* `union`, `inter`, `diff`, `symmDiff` and `compl` are the set operations.
* `CharSet.ofRuns` reads the compact text in which the character tables are written.
-/

namespace SourcePatch

/-- A set of code points, as inclusive ranges in increasing order, no two of them touching. -/
structure CharSet where
  ranges : List (Nat × Nat)
deriving DecidableEq, Repr, Inhabited

namespace CharSet

/-- The largest code point. -/
def maxPoint : Nat := 0x10FFFF

def empty : CharSet := ⟨[]⟩

/-- Every code point. -/
def full : CharSet := ⟨[(0, maxPoint)]⟩

def containsPoint (s : CharSet) (n : Nat) : Bool :=
  s.ranges.any fun r => r.1 ≤ n && n ≤ r.2

def contains (s : CharSet) (c : Char) : Bool :=
  s.containsPoint c.toNat

/-- Puts one range into a list of ranges, joining it with those that it meets or touches. -/
def insertRange (lo hi : Nat) : List (Nat × Nat) → List (Nat × Nat)
  | [] => [(lo, hi)]
  | (a, b) :: rest =>
    if hi + 1 < a then (lo, hi) :: (a, b) :: rest
    else if b + 1 < lo then (a, b) :: insertRange lo hi rest
    else insertRange (min lo a) (max hi b) rest

/-- The code points from `lo` to `hi`; none if `hi < lo`. -/
def range (lo hi : Nat) : CharSet :=
  if lo ≤ hi then ⟨[(lo, hi)]⟩ else empty

def singleton (c : Char) : CharSet := range c.toNat c.toNat

def union (s t : CharSet) : CharSet :=
  ⟨s.ranges.foldl (fun acc r => insertRange r.1 r.2 acc) t.ranges⟩

def unions (sets : List CharSet) : CharSet :=
  sets.foldl union empty

/-- The gaps of a list of ranges from `start` on. -/
def gaps (start : Nat) : List (Nat × Nat) → List (Nat × Nat)
  | [] => if start ≤ maxPoint then [(start, maxPoint)] else []
  | (a, b) :: rest => if start < a then (start, a - 1) :: gaps (b + 1) rest else gaps (b + 1) rest

def compl (s : CharSet) : CharSet := ⟨gaps 0 s.ranges⟩

def inter (s t : CharSet) : CharSet := (s.compl.union t.compl).compl

def diff (s t : CharSet) : CharSet := s.inter t.compl

def symmDiff (s t : CharSet) : CharSet := (s.diff t).union (t.diff s)

/-- Does every member have a code point below 128? -/
def isAscii (s : CharSet) : Bool := s.ranges.all fun r => r.2 < 128

/-- The only member, where there is exactly one. -/
def single? (s : CharSet) : Option Char :=
  match s.ranges with
  | [(a, b)] => if a = b then some (Char.ofNat a) else none
  | _ => none

/-! ## Compact tables -/

/-- The value of a digit in base 36. -/
def digitValue (c : Char) : Nat :=
  if c.isDigit then c.toNat - '0'.toNat else c.toNat - 'a'.toNat + 10

def readNumber (s : List Char) : Nat :=
  s.foldl (fun n c => n * 36 + digitValue c) 0

/-- Pairs up distances and extents into ranges, counting from `start`. -/
def rangesOfRuns (start : Nat) : List Nat → List (Nat × Nat)
  | gap :: extent :: rest =>
    (start + gap, start + gap + extent) :: rangesOfRuns (start + gap + extent + 1) rest
  | _ => []

/-- The words of some lines, which are separated by single blanks. -/
def words (lines : List String) : List (List Char) :=
  lines.flatMap fun line => line.toList.splitOn ' '

/-- Reads ranges written as base 36 numbers with blanks between them: for each range its distance
from the end of the range before, then how far its last member is from its first. -/
def ofRuns (lines : List String) : CharSet :=
  ⟨rangesOfRuns 0 ((words lines).map readNumber)⟩

end CharSet

end SourcePatch
