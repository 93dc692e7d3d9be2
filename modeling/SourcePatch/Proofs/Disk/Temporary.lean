import SourcePatch.Proofs.Disk.Replacing

/-!
# Temporary files

While a file is being replaced, the tree has a temporary file besides. It stands where nothing was,
and so paths lead where they led before (`Tree.Extends`).

* `Tree.makeTemporary_of_locate`: it is made in the directory of the entry that is to be replaced.
* `Tree.persist_put`: when it takes the place of this entry, that is all that has changed.
* `Tree.stamp_put`: its time is set when it is there.
-/

namespace SourcePatch.Tree

variable {t t' : Tree} {cwd here loc temp : Location} {path name : String} {data old : FileData}

/-! ## Trees with more entries -/

/-- All entries of the first tree are in the second one as well. -/
def Extends (t t' : Tree) : Prop := ∀ l e, t.entryAt? l = some e → t'.entryAt? l = some e

theorem Extends.refl (t : Tree) : t.Extends t := fun _ _ h => h

theorem ne_nil_of_entryAt? (h : t.entryAt? temp = none) : temp ≠ [] := by
  rintro rfl
  cases h

theorem extends_put (h : t.entryAt? temp = none) (e : Entry) : t.Extends (t.put temp e) := by
  intro l e' hl
  rw [entryAt?_put t (ne_nil_of_entryAt? h), if_neg, hl]
  rintro rfl
  rw [h] at hl
  cases hl

namespace Extends

variable (h : t.Extends t')
include h

/-- A name that leads somewhere leads there in a larger tree. -/
theorem hop {hp : Hop} (hhop : t.hop here name = .ok hp) : t'.hop here name = .ok hp := by
  have hdir := directory_of_hop hhop
  have hdir' := h _ _ hdir
  rw [Tree.hop, if_neg (by simp [hdir])] at hhop
  rw [Tree.hop, if_neg (by simp [hdir'])]
  split
  · rename_i hdot
    rwa [if_pos hdot] at hhop
  rename_i hdot
  rw [if_neg hdot] at hhop
  split
  · rename_i hdots
    rw [if_pos hdots] at hhop
    split at hhop
    · rename_i hparent
      rwa [if_pos (h _ _ hparent)]
    · cases hhop
  rename_i hdots
  rw [if_neg hdots] at hhop
  split at hhop
  · cases hhop
  rename_i hlong
  rw [if_neg hlong]
  cases hentry : t.entryAt? (here ++ [name]) with
  | none =>
    rw [hentry] at hhop
    cases hhop
  | some e =>
    rw [hentry] at hhop
    rw [h _ _ hentry]
    exact hhop

theorem walk {n : Nat} {names : List String} (hwalk : t.walk n here names = .ok loc) :
    t'.walk n here names = .ok loc := by
  induction n using Nat.strongRecOn generalizing here names with
  | ind n ihlinks =>
    induction names generalizing here with
    | nil => rwa [walk_nil] at hwalk ⊢
    | cons name names ih =>
      rw [walk_cons] at hwalk ⊢
      cases hhop : t.hop here name with
      | error e =>
        rw [hhop] at hwalk
        cases hwalk
      | ok hp =>
        rw [hhop] at hwalk
        rw [h.hop hhop]
        cases hp with
        | place loc => exact ih hwalk
        | link target =>
          cases n with
          | zero => cases hwalk
          | succ n => exact ihlinks n (Nat.lt_succ_self n) hwalk

theorem resolve (hresolve : t.resolve cwd path = .ok loc) : t'.resolve cwd path = .ok loc := by
  obtain ⟨hnul, hne⟩ := of_resolve_ok hresolve
  rw [resolve_eq_walk hnul hne] at hresolve ⊢
  exact h.walk hresolve

theorem file? (hfile : t.file? cwd path = .ok data) : t'.file? cwd path = .ok data := by
  obtain ⟨place, hresolve, hentry⟩ := exists_resolve_of_file? hfile
  exact file?_of_resolve (h.resolve hresolve) (h _ _ hentry)

end Extends

/-- A path that names an entry leads to the directory of it without its last name. -/
theorem locate_eq_ok_iff : t.locate cwd path = .ok loc ↔
    '\x00' ∉ path.toList ∧ path ≠ "" ∧ ∃ dir, t.resolve cwd (Path.parentOf path) = .ok dir ∧
      t.entryAt? dir = some .directory ∧ loc = dir ++ [(Path.splitLast path).2] := by
  by_cases hnul : '\x00' ∈ path.toList
  · rw [locate, if_pos (by simpa using hnul)]
    simp [hnul]
  by_cases hne : path = ""
  · subst hne
    simp [locate]
  have hempty : path.isEmpty = false := by simpa using hne
  rw [locate, if_neg (by simpa using hnul), if_neg (by simp [hempty])]
  cases hresolve : t.resolve cwd (Path.parentOf path) with
  | error e => simp [bind, Except.bind]
  | ok dir =>
    by_cases hdir : t.entryAt? dir = some .directory
    · simp [bind, Except.bind, pure, Except.pure, hdir, hnul, hne, eq_comm]
    · simp [bind, Except.bind, hdir]

theorem Extends.locate (h : t.Extends t') (hloc : t.locate cwd path = .ok loc) :
    t'.locate cwd path = .ok loc := by
  obtain ⟨hnul, hne, dir, hresolve, hdir, rfl⟩ := locate_eq_ok_iff.1 hloc
  exact locate_eq_ok_iff.2 ⟨hnul, hne, dir, h.resolve hresolve, h _ _ hdir, rfl⟩

/-! ## The steps of a write -/

theorem le_foldl_max (ns : List Nat) (a : Nat) :
    a ≤ ns.foldl max a ∧ ∀ n ∈ ns, n ≤ ns.foldl max a := by
  induction ns generalizing a with
  | nil => simp
  | cons k ns ih =>
    obtain ⟨hacc, hmem⟩ := ih (max a k)
    refine ⟨?_, ?_⟩
    · rw [List.foldl_cons]
      omega
    · intro n hn
      rcases List.mem_cons.1 hn with rfl | hn
      · rw [List.foldl_cons]
        omega
      · exact hmem n hn

/-- No entry has the fresh name, which is longer than all names. -/
theorem entryAt?_fresh (t : Tree) (dir : Location) : t.entryAt? (dir ++ [t.freshName]) = none := by
  rw [entryAt?, if_neg (by simp), List.lookup_eq_none_iff]
  intro p hp
  have hle := (le_foldl_max (t.entries.map fun p => (p.1.getLastD "").length) 0).2 _
    (List.mem_map_of_mem hp)
  rw [bne_iff_ne]
  intro heq
  rw [← heq, List.getLastD_concat, freshName, String.length_ofList, List.length_replicate] at hle
  omega

/-- Beside an entry that a path names a temporary file can be made. -/
theorem makeTemporary_of_locate (hloc : t.locate cwd path = .ok loc) :
    ∃ temp, t.entryAt? temp = none ∧ t.makeTemporary cwd (Path.parentOf path)
      = .ok (temp, t.put temp (.file ⟨[], temporaryMode, t.clock⟩)) := by
  obtain ⟨-, -, dir, hresolve, hdir, -⟩ := locate_eq_ok_iff.1 hloc
  refine ⟨dir ++ [t.freshName], t.entryAt?_fresh dir, ?_⟩
  rw [makeTemporary, hresolve]
  simp [bind, Except.bind, hdir, pure, Except.pure]

theorem modifyFile_put (hloc : loc ≠ []) (change : FileData → FileData) :
    (t.put loc (.file data)).modifyFile loc change = t.put loc (.file (change data)) := by
  rw [modifyFile, entryAt?_put t hloc, if_pos rfl]
  exact put_put t loc _ _

/-- A temporary file takes the place of an entry that is a file or leads to one. -/
theorem persist_put (hfresh : t.entryAt? temp = none) (hfile : t.file? cwd path = .ok old)
    (hloc : t.locate cwd path = .ok loc) (data : FileData) :
    (t.put temp (.file data)).persist cwd temp path = .ok (t.put loc (.file data)) := by
  obtain ⟨loc', hloc', hsettled, -⟩ := exists_location hfile
  obtain rfl := Except.ok.inj (hloc.symm.trans hloc')
  have htemp := ne_nil_of_entryAt? hfresh
  have hne : loc ≠ temp := by
    rintro rfl
    exact hsettled.occupied hfresh
  have hsource : (t.put temp (.file data)).entryAt? temp = some (.file data) := by
    rw [entryAt?_put t htemp, if_pos rfl]
  have htarget : (t.put temp (.file data)).entryAt? loc = t.entryAt? loc := by
    rw [entryAt?_put t htemp, if_neg hne]
  rw [persist, (extends_put hfresh (.file data)).locate hloc]
  simp only [bind, Except.bind]
  rw [rename, hsource, htarget, erase_put hfresh]
  cases hentry : t.entryAt? loc with
  | none => rfl
  | some e =>
    cases e with
    | directory => exact absurd hentry hsettled.not_directory
    | file data => rfl
    | link target => rfl

/-- The time of a file is set that has taken the place of an entry. -/
theorem stamp_put (hfile : t.file? cwd path = .ok old) (hloc : t.locate cwd path = .ok loc)
    (data : FileData) : (t.put loc (.file data)).stamp cwd path
      = .ok (t.put loc (.file { data with modified := t.clock })).tick := by
  obtain ⟨loc', hloc', -, hne⟩ := exists_location hfile
  obtain rfl := Except.ok.inj (hloc.symm.trans hloc')
  have hentry (l : Location) := entryAt?_put t hne (.file data) l
  have hresolve := (resolve_of_entryAt? hfile hloc ((hentry loc).trans (if_pos rfl))
    fun l hl => (hentry l).trans (if_neg hl)).1
  rw [stamp, hresolve]
  simp only [bind, Except.bind, modifyFile_put hne, clock_put]
  rfl

end SourcePatch.Tree
