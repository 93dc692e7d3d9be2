import SourcePatch.Proofs.Edit.Writing

/-!
# What an unprivileged user may write

`Policy.unprivileged` refuses by permission alone. To move a file into a place takes a directory
that is not locked, and nothing of the file that is there; an atomic write asks for both.

* `World.accepts_of_unprivileged`: a file that its owner may write, in a directory that is not
  locked, can be written.
* `World.atomicWrite_unprivileged`: every other write is denied, and leaves the world as it was.
-/

namespace SourcePatch

variable {locked : Location → Bool}

namespace Policy

theorem stamps_unprivileged : (unprivileged locked).Stamps := fun _ _ _ => rfl

end Policy

namespace World

variable {w w' : World} {path : String} {loc : Location} {old : FileData} {content : Bytes}

section Unprivileged

variable (hpolicy : w.policy = .unprivileged locked) (hfile : w.tree.file? w.cwd path = .ok old)
include hpolicy hfile

/-- A file that its owner may not write is left as it is, though its directory would let one replace
it. -/
theorem atomicWrite_of_protected (hprotected : Policy.ownerWrites old.mode = false)
    (content : Bytes) : (atomicWrite (m := StateM World) path content).run w
      = pure (.error Policy.permissionDenied, w) := by
  have hopen : w.policy w.tree w.cwd (.openForWriting path) = some Policy.permissionDenied := by
    rw [hpolicy]
    simp [Policy.unprivileged, hfile, hprotected]
  have hrun : (Host.openForWriting (m := StateM World) path).run w
      = pure (.error Policy.permissionDenied, w) := attempt_of_refused hopen
  rw [atomicWrite, StateT.run_bind, checkWritable, StateT.run_bind, hrun]
  rfl

variable (hloc : w.tree.locate w.cwd path = .ok loc)
include hloc

theorem accepts_of_unprivileged (hwrites : Policy.ownerWrites old.mode = true)
    (hunlocked : locked loc.dropLast = false) : w.Accepts path where
  stamps := by
    intro t
    rw [hpolicy]
    rfl
  writes := by
    intro t request hmidway hserves
    -- A temporary file leaves the answers what they are.
    have hextends := hmidway.extends
    rw [hpolicy]
    cases hserves with
    | openForWriting =>
      simp only [Policy.unprivileged, hextends.file? hfile]
      exact if_pos hwrites
    | makeTemporary =>
      obtain ⟨-, -, dir, hresolve, -, rfl⟩ := Tree.locate_eq_ok_iff.1 hloc
      rw [List.dropLast_concat] at hunlocked
      simp [Policy.unprivileged, Policy.checkLock, hextends.resolve hresolve, hunlocked]
    | persist =>
      simp [Policy.unprivileged, Policy.checkLock, hextends.locate hloc, Except.map, hunlocked]
    | fill content => rfl
    | sync => rfl
    | setPermissions mode => rfl

/-- A write to a path that leads to a file succeeds exactly if the owner of the file may write it
and the directory of the entry that the path names is not locked. -/
theorem atomicWrite_unprivileged (content : Bytes) :
    (atomicWrite (m := StateM World) path content).run w =
      if Policy.ownerWrites old.mode && !locked loc.dropLast then
        pure (.ok (), w.withFile loc ⟨content, old.mode, w.tree.clock⟩)
      else pure (.error Policy.permissionDenied, w) := by
  cases hwrites : Policy.ownerWrites old.mode with
  | false => exact atomicWrite_of_protected hpolicy hfile hwrites content
  | true =>
    cases hlocked : locked loc.dropLast with
    | false =>
      have haccepts := accepts_of_unprivileged hpolicy hfile hloc hwrites hlocked
      rcases atomicWrite_cases hfile hloc content with ⟨cause, hrefuses, -⟩ | hrun
      · exact absurd hrefuses (haccepts.not_refuses cause)
      · exact hrun
    | true =>
      -- Opening is granted, and making a temporary file is not.
      have hopen : w.policy w.tree w.cwd (.openForWriting path) = none := by
        rw [hpolicy]
        simp [Policy.unprivileged, hfile, hwrites]
      have hmake : w.policy w.tree w.cwd (.makeTemporary (Path.parentOf path))
          = some Policy.permissionDenied := by
        obtain ⟨-, -, dir, hresolve, -, rfl⟩ := Tree.locate_eq_ok_iff.1 hloc
        rw [List.dropLast_concat] at hlocked
        rw [hpolicy]
        simp [Policy.unprivileged, Policy.checkLock, hresolve, hlocked]
      have hrunOpen : (Host.openForWriting (m := StateM World) path).run w = pure (.ok (), w) :=
        attempt_of_granted hopen (by rw [hfile]; rfl)
      have hrunMake : (Host.makeTemporary (m := StateM World) (Path.parentOf path)).run w
          = pure (.error Policy.permissionDenied, w) := attempt_of_refused hmake
      rw [atomicWrite, StateT.run_bind, checkWritable, StateT.run_bind, hrunOpen]
      simp only [pure_bind, StateT.run_pure, StateT.run_bind]
      rw [hrunMake]
      rfl

end Unprivileged

end World

end SourcePatch
