import SourcePatch.Diff.Script

/-!
# Differences of texts

`lineDiff` compares two texts line by line. Common lines at both ends are kept; what is left is
split where two searches for a shortest script meet, one from the front and one from the back, and
both parts are treated alike. `splitLines` cuts a text after each newline and each carriage return
that no newline follows.
-/

namespace SourcePatch.Diff

/-- The lines of a text with their line breaks; `current` is the line so far, backwards. -/
def splitLinesFrom (current : Line) : List Char → List Line
  | [] => if current.isEmpty then [] else [current.reverse]
  | '\r' :: '\n' :: cs => ('\n' :: '\r' :: current).reverse :: splitLinesFrom [] cs
  | c :: cs =>
    if c = '\n' || c = '\r' then (c :: current).reverse :: splitLinesFrom [] cs
    else splitLinesFrom (c :: current) cs

def splitLines (text : List Char) : List Line := splitLinesFrom [] text

theorem flatten_splitLinesFrom (current : Line) (text : List Char) :
    (splitLinesFrom current text).flatten = current.reverse ++ text := by
  fun_induction splitLinesFrom current text with
  | case1 current h => simp [List.isEmpty_iff.1 h]
  | case2 current h => simp
  | case3 current cs ih => simp [ih]
  | case4 current c cs h hc ih => simp [ih]
  | case5 current c cs h hc ih => simp [ih]

/-- The lines of a text hold it whole. -/
theorem flatten_splitLines (text : List Char) : (splitLines text).flatten = text :=
  flatten_splitLinesFrom [] text

/-- How many elements two lists share at the front. -/
def commonPrefix : List Line → List Line → Nat
  | a :: as, b :: bs => if a = b then commonPrefix as bs + 1 else 0
  | _, _ => 0

/-! ## The middle of a shortest script -/

/-- The furthest points of a search, one for each diagonal; diagonals run from `-offset` on. -/
structure Frontier where
  offset : Nat
  points : Array Nat

namespace Frontier

def get (f : Frontier) (k : Int) : Nat := f.points.getD (k + f.offset).toNat 0

def set (f : Frontier) (k : Int) (x : Nat) : Frontier :=
  { f with points := f.points.setIfInBounds (k + f.offset).toNat x }

def ofSize (size : Nat) : Frontier := ⟨size, Array.replicate (2 * size + 1) 0⟩

/-- Where the search begins on diagonal `k` in its round `d`. -/
def entry (f : Frontier) (d k : Int) : Nat :=
  if k = -d || (k != d && f.get (k - 1) < f.get (k + 1)) then f.get (k + 1) else f.get (k - 1) + 1

end Frontier

/-- How far two arrays run alike from two positions on. -/
def runLength (old new : Array Line) : (fuel x y : Nat) → Nat
  | 0, _, _ => 0
  | fuel + 1, x, y =>
    match old[x]?, new[y]? with
    | some a, some b => if a = b then runLength old new fuel (x + 1) (y + 1) + 1 else 0
    | _, _ => 0

/-- A search is under way or has met the other one. -/
inductive Search where
  | open (frontier : Frontier)
  | met (x y : Nat)

/-- The diagonals of round `d`, from `d` down to `-d` in steps of two. -/
def diagonals (d : Nat) : List Int := (List.range (d + 1)).map fun (i : Nat) => (d : Int) - 2 * i

/-- Extends a search on one diagonal. `other` are the points of the search from the other side
that this one may meet; they are looked at on diagonals at most `reach` away from the end. The
place where both meet is told by `meeting`, from the beginning and the end of the run. -/
def extend (old new : Array Line) (other : Frontier) (meets : Bool) (d : Nat) (reach delta : Int)
    (meeting : Nat → Nat → Nat → Nat → Nat × Nat) (s : Search) (k : Int) : Search :=
  match s with
  | .met x y => .met x y
  | .open frontier =>
    let x0 := frontier.entry d k
    let y0 := ((x0 : Int) - k).toNat
    let run := if x0 < old.size && y0 < new.size then runLength old new old.size x0 y0 else 0
    let x := x0 + run
    let frontier := frontier.set k x
    if meets && (k - delta).natAbs ≤ reach && old.size ≤ x + other.get (-(k - delta)) then
      let (mx, my) := meeting x0 y0 x (y0 + run)
      .met mx my
    else .open frontier

/-- Rounds `d`, `d + 1`, … of both searches, until they meet. -/
def rounds (old new oldBack newBack : Array Line) :
    (fuel d : Nat) → (forward backward : Frontier) → Option (Nat × Nat)
  | 0, _, _, _ => none
  | fuel + 1, d, forward, backward =>
    let delta : Int := (old.size : Int) - new.size
    let odd := delta % 2 != 0
    let first := (diagonals d).foldl
      (extend old new backward odd d ((d : Int) - 1) delta fun x0 y0 _ _ => (x0, y0))
      (.open forward)
    match first with
    | .met x y => some (x, y)
    | .open forward =>
      let second := (diagonals d).foldl
        (extend oldBack newBack forward (!odd) d d delta fun _ _ x y => (old.size - x, new.size - y))
        (.open backward)
      match second with
      | .met x y => some (x, y)
      | .open backward => rounds old new oldBack newBack fuel (d + 1) forward backward

/-- A point that a shortest script passes, as lengths of the parts of both lists before it. -/
def middle (old new : List Line) : Option (Nat × Nat) :=
  let most := (old.length + new.length + 1) / 2 + 1
  let frontier := Frontier.ofSize (most + 1)
  rounds old.toArray new.toArray old.reverse.toArray new.reverse.toArray most 0 frontier frontier

/-! ## Scripts -/

def keepStep (lines : List Line) : Script := if lines.isEmpty then [] else [.keep lines]

/-- A script between two lists of lines. -/
def scriptWith : (fuel : Nat) → (old new : List Line) → Script
  | 0, old, new => [.remove old, .add new]
  | fuel + 1, old, new =>
    let front := commonPrefix old new
    let head := keepStep (old.take front)
    let old := old.drop front
    let new := new.drop front
    let back := commonPrefix old.reverse new.reverse
    let tail := keepStep (old.drop (old.length - back))
    let old := old.take (old.length - back)
    let new := new.take (new.length - back)
    let inner :=
      if old.isEmpty && new.isEmpty then []
      else if new.isEmpty then [.remove old]
      else if old.isEmpty then [.add new]
      else match middle old new with
        | some (x, y) =>
          scriptWith fuel (old.take x) (new.take y) ++ scriptWith fuel (old.drop x) (new.drop y)
        | none => [.remove old, .add new]
    head ++ inner ++ tail

def script (old new : List Line) : Script := scriptWith (old.length + new.length + 1) old new

/-- The lines of two texts with their marks. -/
def lineDiff (old new : List Char) : List DiffEntry :=
  entries (compact (script (splitLines old) (splitLines new)))

end SourcePatch.Diff
