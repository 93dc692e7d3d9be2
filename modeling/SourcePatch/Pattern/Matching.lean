import SourcePatch.Pattern.Parser
import SourcePatch.Pattern.Program

/-!
# Matching

A program is run on a text by following all its threads at once, in order of preference: of two
threads that reach one instruction at one position only the preferred one lives on, and a thread
that accepts ends all threads after it. Positions count characters.

* `Program.matchAt` is the preferred match that begins at a position.
* `Program.findAll` lists the matches of a text from left to right. No two of them overlap, and an
  empty match is never reported directly at the end of the match before it.
* `compile` reads a pattern into a program.
-/

namespace SourcePatch.Pattern

/-- What the threads of a match can see around their position. -/
structure Surroundings where
  before : Option Char
  after : Option Char

namespace Look

def isWord (unicode : Bool) : Option Char → Bool
  | some c => if unicode then Unicode.wordChars.contains c else Flags.asciiWords.contains c
  | none => false

/-- Does the assertion hold between two neighbouring characters? -/
def holds (s : Surroundings) : Look → Bool
  | .textStart => s.before.isNone
  | .textEnd => s.after.isNone
  | .lineStart => s.before.isNone || s.before = some '\n'
  | .lineEnd => s.after.isNone || s.after = some '\n'
  | .lineStartCrlf =>
    s.before.isNone || s.before = some '\n' || (s.before = some '\r' && s.after != some '\n')
  | .lineEndCrlf =>
    s.after.isNone || s.after = some '\r' || (s.after = some '\n' && s.before != some '\r')
  | .wordBoundary u => isWord u s.before != isWord u s.after
  | .notWordBoundary u => isWord u s.before == isWord u s.after
  | .wordStart u => !isWord u s.before && isWord u s.after
  | .wordEnd u => isWord u s.before && !isWord u s.after
  | .wordStartHalf u => !isWord u s.before
  | .wordEndHalf u => !isWord u s.after

end Look

/-- Recorded positions: entry `2 * g` is where group `g` began and `2 * g + 1` where it ended. -/
abbrev Slots := List (Option Nat)

/-- A thread waits at an instruction that reads a character or accepts. -/
structure Thread where
  address : Nat
  slots : Slots
deriving DecidableEq, Repr

/-- Threads in order of preference, latest first while they are collected, and the addresses
visited at this position as the bits of a number. -/
structure Threads where
  visited : Nat := 0
  reversed : List Thread := []

namespace Program

/-- Follows every way from an address that reads no character. -/
def follow (p : Program) (s : Surroundings) (pos : Nat) :
    (fuel address : Nat) → Slots → Threads → Threads
  | 0, _, _, ts => ts
  | fuel + 1, address, slots, ts =>
    if ts.visited.testBit address then ts
    else
      let ts := { ts with visited := ts.visited ||| 1 <<< address }
      match p.instrs[address]? with
      | none => ts
      | some (.read _ _) => { ts with reversed := ⟨address, slots⟩ :: ts.reversed }
      | some .accept => { ts with reversed := ⟨address, slots⟩ :: ts.reversed }
      | some (.jump next) => p.follow s pos fuel next slots ts
      | some (.split first second) =>
        p.follow s pos fuel second slots (p.follow s pos fuel first slots ts)
      | some (.save slot next) => p.follow s pos fuel next (slots.set slot (some pos)) ts
      | some (.look l next) => if l.holds s then p.follow s pos fuel next slots ts else ts

/-- Ways through instructions that read nothing have at most as many steps as there are
instructions. -/
def fuel (p : Program) : Nat := p.instrs.size + 1

def isAccepting (p : Program) (t : Thread) : Bool := p.instrs[t.address]? = some .accept

/-- Threads after reading `c`, which stood before the position `pos` with surroundings `s`. -/
def advance (p : Program) (c : Char) (s : Surroundings) (pos : Nat) (threads : List Thread) :
    List Thread :=
  (threads.foldl (step p c s pos) {}).reversed.reverse
where
  /-- Adds to the threads after `c` those that one thread goes on as. -/
  step (p : Program) (c : Char) (s : Surroundings) (pos : Nat) (ts : Threads) (t : Thread) :
      Threads :=
    match p.instrs[t.address]? with
    | some (.read set next) => if set.contains c then p.follow s pos p.fuel next t.slots ts else ts
    | _ => ts

/-- Runs threads on the rest of a text. `best` is the match accepted last: its end and what it
recorded. -/
def run (p : Program) : (rest : List Char) → (pos : Nat) → List Thread →
    (best : Option (Nat × Slots)) → Option (Nat × Slots)
  | rest, pos, threads, best =>
    let live := threads.takeWhile fun t => !p.isAccepting t
    let best := match threads.find? p.isAccepting with
      | some t => some (pos, t.slots)
      | none => best
    if live.isEmpty then best
    else match rest with
      | [] => best
      | c :: cs => p.run cs (pos + 1) (p.advance c ⟨some c, cs.head?⟩ (pos + 1) live) best

/-- Threads at the beginning of a match. -/
def start (p : Program) (before : Option Char) (rest : List Char) (pos : Nat) : List Thread :=
  (p.follow ⟨before, rest.head?⟩ pos p.fuel 0 (List.replicate (2 * (p.groups + 1)) none)
    {}).reversed.reverse

/-- The preferred match that begins at `pos`: its end and what it recorded. -/
def matchAt (p : Program) (before : Option Char) (rest : List Char) (pos : Nat) :
    Option (Nat × Slots) :=
  p.run rest pos (p.start before rest pos) none

end Program

/-- A match: where it begins and ends, and the spans of its groups. -/
structure Found where
  first : Nat
  last : Nat
  slots : Slots
deriving DecidableEq, Repr

/-- The span of a group that took part in the match. -/
def Found.group? (m : Found) (g : Nat) : Option (Nat × Nat) :=
  match m.slots[2 * g]?, m.slots[2 * g + 1]? with
  | some (some a), some (some b) => some (a, b)
  | _, _ => none

namespace Program

/-- The matches from position `pos` on. The first `skip` positions lie inside the match before,
which ended at `lastEnd`. -/
def scan (p : Program) : (before : Option Char) → (pos skip : Nat) → (lastEnd : Option Nat) →
    (rest : List Char) → List Found
  | _, pos, skip + 1, lastEnd, c :: cs => p.scan (some c) (pos + 1) skip lastEnd cs
  | _, _, _ + 1, _, [] => []
  | before, pos, 0, lastEnd, rest =>
    match p.matchAt before rest pos with
    | some (stop, slots) =>
      if stop = pos && lastEnd = some pos then
        match rest with
        | [] => []
        | c :: cs => p.scan (some c) (pos + 1) 0 lastEnd cs
      else
        ⟨pos, stop, slots⟩ ::
          match rest with
          | [] => []
          | c :: cs => p.scan (some c) (pos + 1) (stop - pos - 1) (some stop) cs
    | none =>
      match rest with
      | [] => []
      | c :: cs => p.scan (some c) (pos + 1) 0 lastEnd cs

/-- The matches of a text, from left to right. -/
def findAll (p : Program) (text : List Char) : List Found := p.scan none 0 0 none text

end Program

/-- Reads a pattern into a program. -/
def compile (pattern : String) : Except PatternError Program := do
  Program.ofNode (← Node.ofExpr (← parse pattern.toList))

end SourcePatch.Pattern
