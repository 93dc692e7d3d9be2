import SourcePatch.Proofs.Disk.Shape

/-!
# Resolved locations

An absolute path resolves to a location that is reached without links. Written down as a path, such
a location resolves to itself, and it names the entry that stands there. A file that is replaced
under its resolved path is therefore replaced where it lies, whatever links led to it.

* `Tree.canonical_of_resolve`: what absolute paths resolve to.
* `Tree.Canonical.resolve_ofLocation`, `Tree.Canonical.locate_ofLocation`: the path of a resolved
  location.
-/

namespace SourcePatch

namespace Path

/-- A name that can stand between two slashes. -/
def IsPart (name : String) : Prop := name ≠ "" ∧ '/' ∉ name.toList

variable {loc : Location} {name path : String}

theorem partsOf_nil : partsOf [] = [] := rfl

theorem slash_not_mem_of_mem_splitOn {cs part : List Char} (h : part ∈ cs.splitOn '/') :
    '/' ∉ part := by
  induction cs generalizing part with
  | nil =>
    obtain rfl : part = [] := by simpa using h
    exact List.not_mem_nil
  | cons c cs ih =>
    rw [List.splitOn_cons_eq_if_modifyHead] at h
    split at h
    · rcases List.mem_cons.1 h with rfl | h
      · exact List.not_mem_nil
      · exact ih h
    · rename_i hc
      obtain ⟨first, rest, hsplit⟩ := List.exists_cons_of_ne_nil (List.splitOn_ne_nil '/' cs)
      rw [hsplit, List.modifyHead_cons] at h
      rw [hsplit] at ih
      rcases List.mem_cons.1 h with rfl | h
      · have hfirst := ih (List.mem_cons_self ..)
        simpa [hfirst] using Ne.symm (by simpa using hc)
      · exact ih (List.mem_cons_of_mem _ h)

theorem isPart_of_mem_components (h : name ∈ components path) : IsPart name := by
  rw [components, List.mem_map] at h
  obtain ⟨cs, hcs, rfl⟩ := h
  obtain ⟨hpart, hne⟩ := List.mem_filter.1 hcs
  refine ⟨?_, ?_⟩
  · rw [ne_eq, ← String.toList_inj, String.toList_ofList]
    simpa using hne
  · rw [String.toList_ofList]
    exact slash_not_mem_of_mem_splitOn hpart

theorem isAbsolute_ofLocation (loc : Location) : isAbsolute (ofLocation loc) = true := by
  rw [isAbsolute, ofLocation, String.toList_append]
  rfl

/-- The components of a location written as a path are its names. -/
theorem components_ofLocation (h : ∀ name ∈ loc, IsPart name) :
    components (ofLocation loc) = loc := by
  rw [components_eq_partsOf, ofLocation, String.toList_append, String.toList_intercalate]
  refine (partsOf_append_slash [] (['/'].intercalate (loc.map String.toList))).trans ?_
  rw [partsOf_nil, List.nil_append]
  cases loc with
  | nil => rfl
  | cons name names =>
    have hslash : ∀ cs ∈ (name :: names).map String.toList, '/' ∉ cs :=
      List.forall_mem_map.2 fun name hname => (h name hname).2
    have hne : ∀ cs ∈ (name :: names).map String.toList, (!cs.isEmpty) = true :=
      List.forall_mem_map.2 fun name hname => by simpa using (h name hname).1
    rw [partsOf, List.splitOn_intercalate _ hslash (by simp),
      List.filter_eq_self.2 hne, List.map_map]
    simp [Function.comp_def]

theorem exists_ofLocation_concat (loc : Location) (name : String) :
    ∃ front, (ofLocation (loc ++ [name])).toList = front ++ '/' :: name.toList := by
  cases loc with
  | nil => exact ⟨[], by simp [ofLocation]⟩
  | cons first rest =>
    refine ⟨("/" ++ "/".intercalate (first :: rest)).toList, ?_⟩
    rw [ofLocation, String.intercalate_append_of_ne_nil (by simp) (by simp),
      String.intercalate_singleton]
    simp

/-- The path of a location asks for no directory. -/
theorem asksForDirectory_ofLocation (hpart : IsPart name) (hdot : name ≠ ".") :
    asksForDirectory (ofLocation (loc ++ [name])) = false := by
  obtain ⟨front, hfront⟩ := exists_ofLocation_concat loc name
  obtain ⟨hne, hslash⟩ := hpart
  rw [ne_eq, ← String.toList_inj] at hne hdot
  rw [asksForDirectory, hfront, List.reverse_append, List.reverse_cons]
  rw [← List.mem_reverse] at hslash
  -- The last two characters of the path decide, and they are those of the name.
  rcases hname : name.toList.reverse with _ | ⟨c, _ | ⟨d, cs⟩⟩
  · exact absurd (List.reverse_eq_nil_iff.1 hname) hne
  · have hc : c ≠ '.' := by
      rintro rfl
      exact hdot (List.reverse_eq_iff.1 hname)
    have hc' : c ≠ '/' := by
      rintro rfl
      exact hslash (hname ▸ List.mem_singleton_self _)
    simp [hc, hc']
  · have hc : c ≠ '/' := by
      rintro rfl
      exact hslash (hname ▸ List.mem_cons_self ..)
    have hd : d ≠ '/' := by
      rintro rfl
      exact hslash (hname ▸ List.mem_cons_of_mem _ (List.mem_cons_self ..))
    simp [hc, hd]

end Path

namespace Tree

variable {t t' : Tree} {n : Nat} {cwd here loc : Location} {name path : String} {names : List String}

/-- A location that is reached from the root by names alone, without links. -/
inductive Canonical (t : Tree) : Location → Prop
  | root : Canonical t []
  | child {here : Location} {name : String} {e : Entry} : Canonical t here →
      t.entryAt? here = some .directory → Path.IsPart name → IsName name →
      t.entryAt? (here ++ [name]) = some e → (∀ target, e ≠ .link target) →
      Canonical t (here ++ [name])

namespace Canonical

theorem isPart (h : t.Canonical loc) : ∀ name ∈ loc, Path.IsPart name := by
  induction h with
  | root => simp
  | child _ _ hpart _ _ _ ih => exact List.forall_mem_append.2 ⟨ih, by simpa using hpart⟩

theorem dropLast (h : t.Canonical loc) : t.Canonical loc.dropLast := by
  cases h with
  | root => exact root
  | child hhere => rwa [List.dropLast_concat]

/-- In trees of one shape the same locations are resolved. -/
theorem of_sameShape (h : SameShape t t') (hloc : t'.Canonical loc) : t.Canonical loc := by
  induction hloc with
  | root => exact root
  | @child here name e _ hdir hpart hname hentry hlink ih =>
    have hdir' := h.directory_iff.1 hdir
    rcases h (here ++ [name]) with heq | ⟨old, new, hold, -⟩
    · exact ih.child hdir' hpart hname (heq ▸ hentry) hlink
    · exact ih.child hdir' hpart hname hold (by simp)

/-- A name leads from a resolved location to another one. -/
theorem hop (h : t.Canonical here) (hname : name = "." ∨ Path.IsPart name)
    (hhop : t.hop here name = .ok (.place loc)) : t.Canonical loc := by
  have hdir := directory_of_hop hhop
  have hdir' : ¬ (t.entryAt? here != some .directory) = true := by simp [hdir]
  rw [Tree.hop, if_neg hdir'] at hhop
  -- A dot stays, two dots go to the parent, and any other name goes down by one.
  split at hhop
  · obtain ⟨rfl⟩ := Except.ok.inj hhop
    exact h
  rename_i hdot
  split at hhop
  · split at hhop
    · obtain ⟨rfl⟩ := Except.ok.inj hhop
      exact h.dropLast
    · cases hhop
  rename_i hdots
  split at hhop
  · cases hhop
  rename_i hlong
  split at hhop
  · cases hhop
  · cases hhop
  · rename_i e hentry hlink
    obtain ⟨rfl⟩ := Except.ok.inj hhop
    refine h.child hdir (hname.resolve_left hdot) ⟨hdot, hdots, Nat.le_of_not_lt hlong⟩ hlink ?_
    rintro target rfl
    exact hentry target rfl

end Canonical

/-- The names of a path can stand between slashes, but for the dot that asks for a directory. -/
theorem dot_or_isPart_of_mem (h : name ∈ namesOf path) : name = "." ∨ Path.IsPart name := by
  rcases List.mem_append.1 h with h | h
  · exact Or.inr (Path.isPart_of_mem_components h)
  · split at h
    · exact Or.inl (List.mem_singleton.1 h)
    · cases h

/-- A walk from a resolved location ends at one. -/
theorem canonical_of_walk (h : t.Canonical here)
    (hnames : ∀ name ∈ names, name = "." ∨ Path.IsPart name)
    (hwalk : t.walk n here names = .ok loc) : t.Canonical loc := by
  induction n using Nat.strongRecOn generalizing here names with
  | ind n ihlinks =>
    induction names generalizing here with
    | nil =>
      rw [walk_nil] at hwalk
      exact Except.ok.inj hwalk ▸ h
    | cons name names ih =>
      obtain ⟨hname, hnames⟩ := List.forall_mem_cons.1 hnames
      rw [walk_cons] at hwalk
      cases hhop : t.hop here name with
      | error e =>
        rw [hhop] at hwalk
        cases hwalk
      | ok hp =>
        rw [hhop] at hwalk
        cases hp with
        | place mid => exact ih (h.hop hname hhop) hnames hwalk
        | link target =>
          cases n with
          | zero => cases hwalk
          | succ n =>
            -- the walk goes on at the root or in the same directory, at the names of the target
            have hstart : t.Canonical (startOf here target) := by
              unfold startOf
              split
              · exact .root
              · exact h
            refine ihlinks n (Nat.lt_succ_self n) hstart ?_ hwalk
            exact List.forall_mem_append.2 ⟨fun _ => dot_or_isPart_of_mem, hnames⟩

/-- An absolute path resolves to a location that is reached without links. -/
theorem canonical_of_resolve (h : t.resolve cwd path = .ok loc)
    (habsolute : Path.isAbsolute path = true) : t.Canonical loc := by
  obtain ⟨hnul, hne⟩ := of_resolve_ok h
  rw [resolve_eq_walk hnul hne, startOf, if_pos habsolute] at h
  exact canonical_of_walk .root (fun _ => dot_or_isPart_of_mem) h

namespace Canonical

/-- The names of a resolved location lead to it. -/
theorem walk (h : t.Canonical loc) (n : Nat) : t.walk n [] loc = .ok loc := by
  induction h with
  | root => exact walk_nil
  | @child here name e _ hdir _ hname hentry hlink ih =>
    obtain ⟨m, -, hmid⟩ := walk_append_of_walk ih
    rw [hmid, walk_cons, hop_of_entry hdir hname hentry hlink]
    exact walk_nil

theorem namesOf_ofLocation (h : t.Canonical loc) (hne : loc ≠ []) :
    namesOf (Path.ofLocation loc) = loc := by
  rw [namesOf, Path.components_ofLocation h.isPart]
  cases h with
  | root => exact absurd rfl hne
  | child _ _ hpart hname =>
    rw [Path.asksForDirectory_ofLocation hpart hname.1]
    simp

theorem ofLocation_ne (loc : Location) : Path.ofLocation loc ≠ "" := by
  simp [Path.ofLocation]

/-- The path of a resolved location leads to it. -/
theorem resolve_ofLocation (h : t.Canonical loc) (hne : loc ≠ [])
    (hnul : '\x00' ∉ (Path.ofLocation loc).toList) (cwd : Location) :
    t.resolve cwd (Path.ofLocation loc) = .ok loc := by
  rw [resolve_eq_walk hnul (ofLocation_ne loc), startOf,
    if_pos (Path.isAbsolute_ofLocation loc), h.namesOf_ofLocation hne]
  exact h.walk linkLimit

/-- The path of a resolved location names the entry that stands there. -/
theorem locate_ofLocation (h : t.Canonical loc) (hne : loc ≠ [])
    (hnul : '\x00' ∉ (Path.ofLocation loc).toList) (cwd : Location) :
    t.locate cwd (Path.ofLocation loc) = .ok loc := by
  have hnames := h.namesOf_ofLocation hne
  cases h with
  | root => exact absurd rfl hne
  | @child here name _ hhere hdir hpart hname =>
    -- The names before the last one lead to the directory that holds the entry.
    obtain ⟨init, hinit, hlocate⟩ := exists_init
      (Path.asksForDirectory_ofLocation hpart hname.1) hnul (ofLocation_ne _)
    rw [hnames] at hinit
    obtain ⟨rfl, hlast⟩ := List.append_inj' hinit rfl
    rw [hlocate t cwd here ?_ hdir, ← hlast]
    rw [startOf, if_pos (Path.isAbsolute_ofLocation _)]
    exact hhere.walk linkLimit

end Canonical

end Tree

end SourcePatch
