import SourcePatch.Diff.Lines

/-!
# What a script connects

However a script is found and moved about, it connects the lists that it was made for.

* `Connects` and `Alike`: a script connects two lists; two scripts connect the same ones.
* `alike_slideUp`, `alike_slideDown`: an addition slides along kept lines by rotating.
* `alike_raiseAddition` and its siblings: a step moves through a script.
* `alike_compact`: so compacting keeps what is connected.
* `connects_script`: the script between two lists connects them, wherever it is split.
-/

namespace SourcePatch.Diff

/-- A script turns one list of lines into another one. -/
structure Connects (s : Script) (old new : List Line) : Prop where
  before_eq : before s = old
  after_eq : after s = new

/-- Two scripts connect the same lists. -/
def Alike (s t : Script) : Prop := Connects s (before t) (after t)

section Connecting

variable {s t u : Script} {old old' new new' : List Line}

attribute [simp] Step.before Step.after

@[simp] theorem before_nil : before [] = [] := rfl

@[simp] theorem after_nil : after [] = [] := rfl

@[simp] theorem before_cons (step : Step) (s : Script) :
    before (step :: s) = step.before ++ before s := rfl

@[simp] theorem after_cons (step : Step) (s : Script) :
    after (step :: s) = step.after ++ after s := rfl

theorem Connects.append (hs : Connects s old new) (ht : Connects t old' new') :
    Connects (s ++ t) (old ++ old') (new ++ new') where
  before_eq := by rw [before_append, hs.before_eq, ht.before_eq]
  after_eq := by rw [after_append, hs.after_eq, ht.after_eq]

theorem Connects.of_alike (h : Alike s t) (ht : Connects t old new) : Connects s old new where
  before_eq := h.before_eq.trans ht.before_eq
  after_eq := h.after_eq.trans ht.after_eq

theorem Alike.refl (s : Script) : Alike s s := ⟨rfl, rfl⟩

theorem Alike.trans (h : Alike s t) (h' : Alike t u) : Alike s u := Connects.of_alike h h'

theorem Alike.symm (h : Alike s t) : Alike t s := ⟨h.before_eq.symm, h.after_eq.symm⟩

theorem Alike.append {s' t' : Script} (h : Alike s t) (h' : Alike s' t') :
    Alike (s ++ s') (t ++ t') where
  before_eq := by rw [before_append, before_append, h.before_eq, h'.before_eq]
  after_eq := by rw [after_append, after_append, h.after_eq, h'.after_eq]

theorem Alike.behind (h : Alike s t) (front : Script) : Alike (front ++ s) (front ++ t) :=
  (Alike.refl front).append h

theorem alike_keep_nil (s : Script) : Alike s (.keep [] :: s) := ⟨rfl, rfl⟩

/-- An addition and a removal may change places. -/
theorem alike_add_remove (ls ms : List Line) (s : Script) :
    Alike (.add ls :: .remove ms :: s) (.remove ms :: .add ls :: s) :=
  ⟨rfl, rfl⟩

theorem alike_add_add (ls ms : List Line) (s : Script) :
    Alike (.add (ls ++ ms) :: s) (.add ls :: .add ms :: s) :=
  ⟨rfl, List.append_assoc ls ms _⟩

theorem alike_remove_remove (ls ms : List Line) (s : Script) :
    Alike (.remove (ls ++ ms) :: s) (.remove ls :: .remove ms :: s) :=
  ⟨List.append_assoc ls ms _, rfl⟩

end Connecting

/-! ## Sliding -/

section Sliding

variable {kept added moved k a m : List Line}

/-- An addition that slides up takes the lines it passes with it at the other end. -/
theorem alike_slideUp (h : slideUp kept added moved = (k, a, m)) :
    Alike [.keep k.reverse, .add a.reverse, .keep m]
      [.keep kept.reverse, .add added.reverse, .keep moved] := by
  fun_induction slideUp kept added moved with
  | case1 moved line kept added ih =>
    refine (ih h).trans ?_
    constructor <;> simp
  | case2 => cases h; exact .refl _
  | case3 => cases h; exact .refl _

/-- An addition that slides down does so too. -/
theorem alike_slideDown (h : slideDown kept added moved = (k, a, m)) :
    Alike [.keep m.reverse, .add a, .keep k] [.keep moved.reverse, .add added, .keep kept] := by
  fun_induction slideDown kept added moved with
  | case1 moved line kept added ih =>
    refine (ih h).trans ?_
    constructor <;> simp
  | case2 => cases h; exact .refl _
  | case3 => cases h; exact .refl _

theorem alike_keepFirst (lines : List Line) (s : Script) :
    Alike (keepFirst lines s) (.keep lines :: s) := by
  fun_cases keepFirst lines s with
  | case1 s h =>
    rw [List.isEmpty_iff.1 h]
    exact ⟨rfl, rfl⟩
  | case2 h ls s => constructor <;> simp
  | case3 s h => exact .refl _

theorem alike_keepLast (lines : List Line) (s : Script) :
    Alike (keepLast lines s).reverse (s.reverse ++ [.keep lines]) := by
  fun_cases keepLast lines s with
  | case1 s h =>
    rw [List.isEmpty_iff.1 h]
    constructor <;> simp
  | case2 h ls s => constructor <;> simp
  | case3 s h =>
    rw [List.reverse_cons]
    exact .refl _

end Sliding

/-! ## Moving steps -/

/-- The script around a place, with a step there. -/
def Focus.script (f : Focus) (step : List Line → Step) : Script :=
  f.earlier.reverse ++ step f.lines :: f.later

section Moving

variable {kept added moved ls lines : List Line}

/-- An addition that meets kept lines above. -/
theorem alike_of_slideUp (h : slideUp ls.reverse lines.reverse [] = (kept, added, moved))
    (earlier later : Script) :
    Alike (earlier.reverse ++ .keep kept.reverse :: .add added.reverse :: keepFirst moved later)
      (earlier.reverse ++ .keep ls :: .add lines :: later) := by
  have hslide := alike_slideUp h
  rw [List.reverse_reverse, List.reverse_reverse] at hslide
  have hkeep : Alike (.keep kept.reverse :: .add added.reverse :: keepFirst moved later)
      ([.keep kept.reverse, .add added.reverse, .keep moved] ++ later) :=
    (Alike.refl [.keep kept.reverse, .add added.reverse]).append (alike_keepFirst moved later)
  have hnothing : Alike ([.keep ls, .add lines, .keep []] ++ later)
      (.keep ls :: .add lines :: later) := ⟨rfl, rfl⟩
  exact (Alike.refl _).append (hkeep.trans ((hslide.append (.refl later)).trans hnothing))

/-- An addition that meets kept lines below. -/
theorem alike_of_slideDown (h : slideDown ls lines [] = (kept, added, moved))
    (earlier later : Script) :
    Alike ((keepLast moved.reverse earlier).reverse ++ .add added :: .keep kept :: later)
      (earlier.reverse ++ .add lines :: .keep ls :: later) := by
  have hkeep : Alike ((keepLast moved.reverse earlier).reverse ++ .add added :: .keep kept :: later)
      (earlier.reverse ++ [.keep moved.reverse] ++ .add added :: .keep kept :: later) :=
    (alike_keepLast moved.reverse earlier).append (.refl _)
  rw [List.append_assoc] at hkeep
  have hslide := (alike_slideDown h).append (.refl later)
  exact hkeep.trans ((Alike.refl _).append hslide)

theorem alike_raiseAddition (earlier : Script) (lines : List Line) (later : Script) :
    Alike ((raiseAddition earlier lines later).script .add)
      (earlier.reverse ++ .add lines :: later) := by
  fun_induction raiseAddition earlier lines later with
  | case1 => exact .refl _
  | case2 ls earlier lines later kept added moved hslide hempty ih =>
    -- All kept lines were passed, so the addition goes on upwards.
    have hmoved := alike_of_slideUp hslide earlier later
    rw [List.isEmpty_iff.1 hempty] at hmoved
    rw [List.reverse_cons, List.append_assoc]
    exact (ih.trans ((alike_keep_nil _).behind _)).trans hmoved
  | case3 ls earlier lines later kept added moved hslide hempty =>
    rw [Focus.script, List.reverse_cons, List.reverse_cons, List.append_assoc, List.append_assoc]
    exact alike_of_slideUp hslide earlier later
  | case4 ls earlier lines later ih =>
    rw [List.reverse_cons, List.append_assoc]
    exact ih.trans ((alike_add_remove lines ls later).behind _)
  | case5 ls earlier lines later ih =>
    rw [List.reverse_cons, List.append_assoc]
    exact ih.trans ((alike_add_add ls lines later).behind _)

theorem alike_lowerAddition (later earlier : Script) (lines : List Line) :
    Alike ((lowerAddition later earlier lines).script .add)
      (earlier.reverse ++ .add lines :: later) := by
  fun_induction lowerAddition later earlier lines with
  | case1 => exact .refl _
  | case2 ls later earlier lines kept added moved hslide earlier' hempty ih =>
    have hmoved := alike_of_slideDown hslide earlier later
    rw [List.isEmpty_iff.1 hempty] at hmoved
    have hkeep := (alike_keep_nil later).behind [.add added]
    exact (ih.trans (hkeep.behind _)).trans hmoved
  | case3 ls later earlier lines kept added moved hslide earlier' hempty =>
    exact alike_of_slideDown hslide earlier later
  | case4 ls later earlier lines ih =>
    rw [List.reverse_cons, List.append_assoc] at ih
    exact ih.trans ((alike_add_remove lines ls later).symm.behind _)
  | case5 ls later earlier lines ih =>
    exact ih.trans ((alike_add_add lines ls later).behind _)

theorem alike_raiseRemoval (earlier : Script) (lines : List Line) (later : Script) :
    Alike ((raiseRemoval earlier lines later).script .remove)
      (earlier.reverse ++ .remove lines :: later) := by
  fun_induction raiseRemoval earlier lines later with
  | case1 ls earlier lines later ih =>
    rw [List.reverse_cons, List.append_assoc]
    exact ih.trans ((alike_add_remove ls lines later).symm.behind _)
  | case2 ls earlier lines later ih =>
    rw [List.reverse_cons, List.append_assoc]
    exact ih.trans ((alike_remove_remove ls lines later).behind _)
  | case3 earlier lines later ih =>
    rw [List.reverse_cons, List.append_assoc]
    exact ih.trans ((alike_keep_nil _).behind _)
  | case4 => exact .refl _

theorem alike_lowerRemoval (later earlier : Script) (lines : List Line) :
    Alike ((lowerRemoval later earlier lines).script .remove)
      (earlier.reverse ++ .remove lines :: later) := by
  fun_induction lowerRemoval later earlier lines with
  | case1 ls later earlier lines ih =>
    rw [List.reverse_cons, List.append_assoc] at ih
    exact ih.trans ((alike_add_remove ls lines later).behind _)
  | case2 ls later earlier lines ih =>
    exact ih.trans ((alike_remove_remove lines ls later).behind _)
  | case3 later earlier lines ih =>
    have hkeep := (alike_keep_nil later).behind [.remove lines]
    exact ih.trans (hkeep.behind _)
  | case4 => exact .refl _

end Moving

/-! ## Compacting -/

theorem alike_compactRemovals (fuel : Nat) (earlier later : Script) :
    Alike (compactRemovals fuel earlier later) (earlier.reverse ++ later) := by
  fun_induction compactRemovals fuel earlier later with
  | case1 fuel earlier ls later up down ih =>
    have hup : Alike (up.script .remove) (earlier.reverse ++ .remove ls :: later) :=
      alike_raiseRemoval earlier ls later
    have hdown : Alike (down.script .remove) (up.script .remove) :=
      alike_lowerRemoval up.later up.earlier up.lines
    rw [List.reverse_cons, List.append_assoc] at ih
    exact ih.trans (hdown.trans hup)
  | case2 fuel earlier step later h ih =>
    rw [List.reverse_cons, List.append_assoc] at ih
    exact ih
  | case3 => exact .refl _

theorem alike_compactAdditions (fuel : Nat) (earlier later : Script) :
    Alike (compactAdditions fuel earlier later) (earlier.reverse ++ later) := by
  fun_induction compactAdditions fuel earlier later with
  | case1 fuel earlier ls later up down ih =>
    have hup : Alike (up.script .add) (earlier.reverse ++ .add ls :: later) :=
      alike_raiseAddition earlier ls later
    have hdown : Alike (down.script .add) (up.script .add) :=
      alike_lowerAddition up.later up.earlier up.lines
    rw [List.reverse_cons, List.append_assoc] at ih
    exact ih.trans (hdown.trans hup)
  | case2 fuel earlier step later h ih =>
    rw [List.reverse_cons, List.append_assoc] at ih
    exact ih
  | case3 => exact .refl _

/-- Compacting moves steps about and keeps what is connected. -/
theorem alike_compact (s : Script) : Alike (compact s) s := by
  unfold compact
  exact (alike_compactAdditions _ [] _).trans (alike_compactRemovals _ [] s)

/-! ## Finding a script -/

/-- The common lines at the front are those of both lists. -/
theorem take_commonPrefix (old new : List Line) :
    old.take (commonPrefix old new) = new.take (commonPrefix old new) := by
  fun_induction commonPrefix old new with
  | case1 old line new ih => rw [List.take_succ_cons, List.take_succ_cons, ih]
  | case2 => rfl
  | case3 => rfl

/-- So are those at the end. -/
theorem drop_commonSuffix (old new : List Line) :
    old.drop (old.length - commonPrefix old.reverse new.reverse)
      = new.drop (new.length - commonPrefix old.reverse new.reverse) := by
  have h := take_commonPrefix old.reverse new.reverse
  rw [List.take_reverse, List.take_reverse] at h
  exact List.reverse_inj.1 h

theorem connects_keepStep (lines : List Line) : Connects (keepStep lines) lines lines := by
  unfold keepStep
  split
  · rename_i hempty
    rw [List.isEmpty_iff.1 hempty]
    exact ⟨rfl, rfl⟩
  · exact ⟨List.append_nil lines, List.append_nil lines⟩

theorem connects_removeAdd (old new : List Line) : Connects [.remove old, .add new] old new :=
  ⟨List.append_nil old, List.append_nil new⟩

/-- The script of any depth connects the lists, wherever they are split. -/
theorem connects_scriptWith (fuel : Nat) (old new : List Line) :
    Connects (scriptWith fuel old new) old new := by
  fun_induction scriptWith fuel old new with
  | case1 old new => exact connects_removeAdd old new
  | case2 fuel whole whole' front head rest rest' back tail old new inner hfront hback =>
    -- Between the common ends the lists are split anywhere, or not at all.
    have hinner : Connects inner old new := by
      dsimp only [inner]
      split
      · rename_i hempty
        rw [Bool.and_eq_true, List.isEmpty_iff, List.isEmpty_iff] at hempty
        rw [hempty.1, hempty.2]
        exact ⟨rfl, rfl⟩
      split
      · rename_i hempty
        rw [List.isEmpty_iff.1 hempty]
        exact ⟨List.append_nil old, rfl⟩
      split
      · rename_i hempty
        rw [List.isEmpty_iff.1 hempty]
        exact ⟨rfl, List.append_nil new⟩
      cases middle old new with
      | none => exact connects_removeAdd old new
      | some point =>
        have h := (hfront point.1 point.2).append (hback point.1 point.2)
        rw [List.take_append_drop, List.take_append_drop] at h
        exact h
    have h := ((connects_keepStep (whole.take front)).append hinner).append
      (connects_keepStep (rest.drop (rest.length - back)))
    have hold : whole.take front ++ old ++ rest.drop (rest.length - back) = whole := by
      rw [List.append_assoc, List.take_append_drop, List.take_append_drop]
    have hnew : whole.take front ++ new ++ rest.drop (rest.length - back) = whole' := by
      rw [take_commonPrefix, drop_commonSuffix, List.append_assoc, List.take_append_drop,
        List.take_append_drop]
    rw [hold, hnew] at h
    exact h

theorem connects_script (old new : List Line) : Connects (script old new) old new :=
  connects_scriptWith _ old new

end SourcePatch.Diff
