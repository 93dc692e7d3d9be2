/-!
# Edit scripts

A script turns one list of lines into another: it keeps, removes and adds runs of lines.

* `before` and `after` are the two lists that a script connects.
* `compact` slides additions as far as they go, so that neighbouring ones meet and become one.
* `entries` are the lines of a script with their marks, removals before additions.
-/

namespace SourcePatch.Diff

abbrev Line := List Char

/-- A run of lines. -/
inductive Step where
  | keep (lines : List Line)
  | remove (lines : List Line)
  | add (lines : List Line)
deriving DecidableEq, Repr

abbrev Script := List Step

namespace Step

/-- The lines that a step takes from the first list. -/
def before : Step → List Line
  | .keep ls => ls
  | .remove ls => ls
  | .add _ => []

/-- The lines that a step gives to the second list. -/
def after : Step → List Line
  | .keep ls => ls
  | .remove _ => []
  | .add ls => ls

end Step

def before (s : Script) : List Line := s.flatMap Step.before

def after (s : Script) : List Line := s.flatMap Step.after

@[simp] theorem before_append (s t : Script) : before (s ++ t) = before s ++ before t :=
  List.flatMap_append

@[simp] theorem after_append (s t : Script) : after (s ++ t) = after s ++ after t :=
  List.flatMap_append

/-! ## Sliding -/

/-- Takes lines from the end of a kept run, given backwards, as long as they equal the last line
of an addition, also backwards; the addition rotates, so that the text stays the same. `moved` are
the lines that are now kept after the addition. -/
def slideUp : (kept added moved : List Line) → List Line × List Line × List Line
  | a :: kept, b :: added, moved =>
    if a = b then slideUp kept (added ++ [a]) (a :: moved) else (a :: kept, b :: added, moved)
  | kept, added, moved => (kept, added, moved)

/-- Takes lines from the beginning of a kept run as long as they equal the first line of an
addition. `moved` are the lines that are now kept before the addition, backwards. -/
def slideDown : (kept added moved : List Line) → List Line × List Line × List Line
  | a :: kept, b :: added, moved =>
    if a = b then slideDown kept (added ++ [a]) (a :: moved) else (a :: kept, b :: added, moved)
  | kept, added, moved => (kept, added, moved)

/-- Puts kept lines in front of a script. -/
def keepFirst (lines : List Line) (s : Script) : Script :=
  if lines.isEmpty then s
  else match s with
    | .keep ls :: s => .keep (lines ++ ls) :: s
    | s => .keep lines :: s

/-- Puts kept lines behind a script that is given backwards. -/
def keepLast (lines : List Line) (s : Script) : Script :=
  if lines.isEmpty then s
  else match s with
    | .keep ls :: s => .keep (ls ++ lines) :: s
    | s => .keep lines :: s

/-- A place in a script: the steps before it, latest first, a run of lines, and what follows. -/
structure Focus where
  earlier : Script
  lines : List Line
  later : Script

/-- Moves an addition up: along kept lines, past removals, and into other additions. -/
def raiseAddition : (earlier : Script) → (lines : List Line) → (later : Script) → Focus
  | [], lines, later => ⟨[], lines, later⟩
  | .keep ls :: earlier, lines, later =>
    let (kept, added, moved) := slideUp ls.reverse lines.reverse []
    if kept.isEmpty then raiseAddition earlier added.reverse (keepFirst moved later)
    else ⟨.keep kept.reverse :: earlier, added.reverse, keepFirst moved later⟩
  | .remove ls :: earlier, lines, later => raiseAddition earlier lines (.remove ls :: later)
  | .add ls :: earlier, lines, later => raiseAddition earlier (ls ++ lines) later

/-- Moves an addition down. -/
def lowerAddition : (later : Script) → (earlier : Script) → (lines : List Line) → Focus
  | [], earlier, lines => ⟨earlier, lines, []⟩
  | .keep ls :: later, earlier, lines =>
    let (kept, added, moved) := slideDown ls lines []
    let earlier := keepLast moved.reverse earlier
    if kept.isEmpty then lowerAddition later earlier added
    else ⟨earlier, added, .keep kept :: later⟩
  | .remove ls :: later, earlier, lines => lowerAddition later (.remove ls :: earlier) lines
  | .add ls :: later, earlier, lines => lowerAddition later earlier (lines ++ ls)

/-- Moves a removal up, past additions and into other removals. -/
def raiseRemoval : (earlier : Script) → (lines : List Line) → (later : Script) → Focus
  | .add ls :: earlier, lines, later => raiseRemoval earlier lines (.add ls :: later)
  | .remove ls :: earlier, lines, later => raiseRemoval earlier (ls ++ lines) later
  | .keep [] :: earlier, lines, later => raiseRemoval earlier lines later
  | earlier, lines, later => ⟨earlier, lines, later⟩

/-- Moves a removal down, past additions and into other removals. -/
def lowerRemoval : (later : Script) → (earlier : Script) → (lines : List Line) → Focus
  | .add ls :: later, earlier, lines => lowerRemoval later (.add ls :: earlier) lines
  | .remove ls :: later, earlier, lines => lowerRemoval later earlier (lines ++ ls)
  | .keep [] :: later, earlier, lines => lowerRemoval later earlier lines
  | later, earlier, lines => ⟨earlier, lines, later⟩

/-- Moves every removal up and down once, from the front of the script. -/
def compactRemovals : (fuel : Nat) → (earlier later : Script) → Script
  | fuel + 1, earlier, .remove ls :: later =>
    let up := raiseRemoval earlier ls later
    let down := lowerRemoval up.later up.earlier up.lines
    compactRemovals fuel (.remove down.lines :: down.earlier) down.later
  | fuel + 1, earlier, step :: later => compactRemovals fuel (step :: earlier) later
  | _, earlier, later => earlier.reverse ++ later

/-- Moves every addition up and down once, from the front of the script. -/
def compactAdditions : (fuel : Nat) → (earlier later : Script) → Script
  | fuel + 1, earlier, .add ls :: later =>
    let up := raiseAddition earlier ls later
    let down := lowerAddition up.later up.earlier up.lines
    compactAdditions fuel (.add down.lines :: down.earlier) down.later
  | fuel + 1, earlier, step :: later => compactAdditions fuel (step :: earlier) later
  | _, earlier, later => earlier.reverse ++ later

/-- Slides removals, then additions. -/
def compact (s : Script) : Script :=
  let fuel := 4 * (s.length + (before s).length + (after s).length + 1)
  let s := compactRemovals fuel [] s
  compactAdditions fuel [] s

/-! ## Entries -/

inductive Mark where
  | same
  | removed
  | added
deriving DecidableEq, Repr

/-- A line of a diff. -/
structure DiffEntry where
  mark : Mark
  line : Line
deriving DecidableEq, Repr

/-- The entries of changes that were not written yet. -/
def flush (removed added : List Line) : List DiffEntry :=
  removed.map (⟨.removed, ·⟩) ++ added.map (⟨.added, ·⟩)

/-- The lines of a script with their marks. Of changes that stand together, removals come first. -/
def entriesFrom : (removed added : List Line) → Script → List DiffEntry
  | removed, added, [] => flush removed added
  | removed, added, .keep ls :: s =>
    flush removed added ++ ls.map (⟨.same, ·⟩) ++ entriesFrom [] [] s
  | removed, added, .remove ls :: s => entriesFrom (removed ++ ls) added s
  | removed, added, .add ls :: s => entriesFrom removed (added ++ ls) s

def entries (s : Script) : List DiffEntry := entriesFrom [] [] s

end SourcePatch.Diff
