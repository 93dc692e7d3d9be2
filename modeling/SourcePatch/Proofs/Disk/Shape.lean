import SourcePatch.Proofs.Disk.Replacing

/-!
# Trees of one shape

Where a path leads depends on the directories, the links and the names in a tree, not on what its
files hold. Two trees have the same shape if they differ in nothing else.

* `Tree.SameShape.resolve`: in trees of one shape every path leads to the same location.
* `Tree.sameShape_of_replaced`: a file in the place of a file keeps the shape.
-/

namespace SourcePatch.Tree

/-- The trees have the same directories and links, and files at the same locations. -/
def SameShape (t t' : Tree) : Prop :=
  ∀ loc, t'.entryAt? loc = t.entryAt? loc ∨
    ∃ old new, t.entryAt? loc = some (.file old) ∧ t'.entryAt? loc = some (.file new)

variable {t t' : Tree} {cwd loc : Location} {path : String}

namespace SameShape

theorem refl (t : Tree) : SameShape t t := fun _ => Or.inl rfl

theorem symm (h : SameShape t t') : SameShape t' t := by
  intro loc
  rcases h loc with heq | ⟨old, new, hold, hnew⟩
  · exact Or.inl heq.symm
  · exact Or.inr ⟨new, old, hnew, hold⟩

theorem trans {t'' : Tree} (h : SameShape t t') (h' : SameShape t' t'') : SameShape t t'' := by
  intro loc
  rcases h' loc with heq | ⟨mid, new, hmid, hnew⟩
  · rw [heq]
    exact h loc
  · rcases h loc with heq | ⟨old, -, hold, -⟩
    · exact Or.inr ⟨mid, new, heq ▸ hmid, hnew⟩
    · exact Or.inr ⟨old, new, hold, hnew⟩

theorem directory_iff (h : SameShape t t') :
    t'.entryAt? loc = some .directory ↔ t.entryAt? loc = some .directory := by
  rcases h loc with heq | ⟨old, new, hold, hnew⟩
  · rw [heq]
  · rw [hold, hnew]
    simp

theorem exists_file (h : SameShape t t') {new : FileData}
    (hnew : t'.entryAt? loc = some (.file new)) : ∃ old, t.entryAt? loc = some (.file old) := by
  rcases h loc with heq | ⟨old, -, hold, -⟩
  · exact ⟨new, heq ▸ hnew⟩
  · exact ⟨old, hold⟩

/-- A name leads to the same place. -/
theorem hop (h : SameShape t t') (here : Location) (name : String) :
    t'.hop here name = t.hop here name := by
  have hbne : (t'.entryAt? here != some .directory) = (t.entryAt? here != some .directory) := by
    rw [Bool.eq_iff_iff, bne_iff_ne, bne_iff_ne, ne_eq, ne_eq, h.directory_iff]
  rcases h (here ++ [name]) with heq | ⟨old, new, hold, hnew⟩
  · simp only [Tree.hop, hbne, h.directory_iff, heq]
  · simp only [Tree.hop, hbne, h.directory_iff, hold, hnew]

/-- A walk ends at the same location, or fails in the same way. -/
theorem walk (h : SameShape t t') (n : Nat) (here : Location) (names : List String) :
    t'.walk n here names = t.walk n here names := by
  induction n using Nat.strongRecOn generalizing here names with
  | ind n ihlinks =>
    induction names generalizing here with
    | nil => rw [walk_nil, walk_nil]
    | cons name names ih =>
      rw [walk_cons, walk_cons, h.hop]
      cases t.hop here name with
      | error e => rfl
      | ok hp =>
        cases hp with
        | place loc => exact ih loc
        | link target =>
          cases n with
          | zero => rfl
          | succ n => exact ihlinks n (Nat.lt_succ_self n) _ _

/-- A path leads to the same location, or fails in the same way. -/
theorem resolve (h : SameShape t t') (cwd : Location) (path : String) :
    t'.resolve cwd path = t.resolve cwd path := by
  unfold Tree.resolve
  rw [h.walk]

end SameShape

/-- A tree in which one file took the place of another has the same shape. -/
theorem sameShape_of_replaced {old new : FileData} (hold : t.entryAt? loc = some (.file old))
    (hnew : t'.entryAt? loc = some (.file new))
    (hother : ∀ l, l ≠ loc → t'.entryAt? l = t.entryAt? l) : SameShape t t' := by
  intro l
  by_cases hl : l = loc
  · subst hl
    exact Or.inr ⟨old, new, hold, hnew⟩
  · exact Or.inl (hother l hl)

end SourcePatch.Tree
