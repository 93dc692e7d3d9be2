import SourcePatch.Disk.Path

/-!
# The directory and the name in a path

`Path.splitLast` cuts a path before its last name. The components of the path are those of its
directory and that name (`Path.parentOf_cases`).
-/

namespace SourcePatch.Path

/-- The parts between slashes, empty ones left out. -/
def partsOf (cs : List Char) : List String :=
  ((cs.splitOn '/').filter fun part => !part.isEmpty).map String.ofList

theorem components_eq_partsOf (path : String) : components path = partsOf path.toList := rfl

theorem partsOf_append_slash (as bs : List Char) :
    partsOf (as ++ '/' :: bs) = partsOf as ++ partsOf bs := by
  rw [partsOf, List.splitOn_append_cons_self, List.filter_append, List.map_append]
  rfl

theorem partsOf_append_slashes (as bs : List Char) {slashes : List Char}
    (hslashes : ∀ c ∈ slashes, c = '/') (hne : slashes ≠ []) :
    partsOf (as ++ slashes ++ bs) = partsOf as ++ partsOf bs := by
  induction slashes generalizing as with
  | nil => exact absurd rfl hne
  | cons c slashes ih =>
    obtain ⟨rfl, htail⟩ := List.forall_mem_cons.1 hslashes
    cases slashes with
    | nil => rw [List.append_assoc, List.singleton_append, partsOf_append_slash]
    | cons d slashes =>
      have hrest := ih (as ++ ['/']) htail (by simp)
      have has : partsOf (as ++ ['/']) = partsOf as := by
        rw [partsOf_append_slash, show partsOf [] = [] from rfl, List.append_nil]
      rw [has] at hrest
      rw [← hrest]
      simp

theorem partsOf_name {name : List Char} (h : '/' ∉ name) (hne : name ≠ []) :
    partsOf name = [String.ofList name] := by
  rw [partsOf, List.splitOn_eq_singleton h]
  simp [hne]

/-- A path that does not end in a slash is a directory, the slashes behind it and a name. -/
theorem exists_split {cs : List Char} (hlast : cs.reverse.head? ≠ some '/') (hne : cs ≠ []) :
    ∃ dir slashes name, cs = dir ++ slashes ++ name ∧ '/' ∉ name ∧ name ≠ [] ∧
      (∀ c ∈ slashes, c = '/') ∧ (slashes = [] → dir = []) ∧
      splitLast (String.ofList cs) =
        (String.ofList (if dir.isEmpty && !slashes.isEmpty then ['/'] else dir),
          String.ofList name) := by
  obtain ⟨c, r, hcr⟩ : ∃ c r, cs.reverse = c :: r :=
    List.exists_cons_of_ne_nil (by simpa using hne)
  have hc : c ≠ '/' := by simpa [hcr] using hlast
  have hr : cs.reverse.dropWhile (· = '/') = cs.reverse := by
    rw [hcr, List.dropWhile_cons_of_neg (by simpa using hc)]
  generalize hname : cs.reverse.takeWhile (· != '/') = name
  generalize hparent : cs.reverse.dropWhile (· != '/') = parent
  generalize hslashes : parent.takeWhile (· = '/') = slashes
  generalize hdir : parent.dropWhile (· = '/') = dir
  have hcs : cs.reverse = name ++ (slashes ++ dir) := by
    rw [← hslashes, ← hdir, List.takeWhile_append_dropWhile, ← hname, ← hparent,
      List.takeWhile_append_dropWhile]
  refine ⟨dir.reverse, slashes.reverse, name.reverse, ?_, ?_, ?_, ?_, ?_, ?_⟩
  · have h := congrArg List.reverse hcs
    simpa using h
  · intro hmem
    rw [← hname] at hmem
    have := List.all_takeWhile (p := fun c => c != '/') (l := cs.reverse)
    rw [List.all_eq_true] at this
    simpa using this '/' (by simpa using hmem)
  · rw [← hname, hcr, List.takeWhile_cons_of_pos (by simpa using hc)]
    simp
  · intro d hd
    have := List.all_takeWhile (p := fun c => decide (c = '/')) (l := parent)
    rw [hslashes, List.all_eq_true] at this
    simpa using this d (by simpa using hd)
  · intro hnil
    have hnil : slashes = [] := by simpa using hnil
    -- what is left before the name begins with a slash
    cases hp : parent with
    | nil => rw [← hdir, hp]; rfl
    | cons d parent =>
      exfalso
      have hd := List.head?_dropWhile_not (fun c => c != '/') cs.reverse
      rw [hparent, hp] at hd
      have hd : d = '/' := by simpa using hd
      rw [hp, List.takeWhile_cons_of_pos (by simpa using hd)] at hslashes
      rw [hnil] at hslashes
      cases hslashes
  · have hparent' : parent.isEmpty = (dir.isEmpty && slashes.isEmpty) := by
      rw [← List.takeWhile_append_dropWhile (p := fun c => decide (c = '/')) (l := parent),
        hslashes, hdir]
      cases slashes <;> simp
    rw [splitLast, String.toList_ofList, hr]
    simp only [hname, hparent, hdir, hparent']
    cases dir <;> cases slashes <;> simp

/-- The directory of a path and its last name: the path is a bare name, or its components are those
of its directory and the name. -/
theorem parentOf_cases {path : String} (hlast : path.toList.reverse.head? ≠ some '/')
    (hne : path ≠ "") :
    (parentOf path = "." ∧ components path = [(splitLast path).2] ∧ isAbsolute path = false) ∨
      (components path = components (parentOf path) ++ [(splitLast path).2] ∧
        isAbsolute (parentOf path) = isAbsolute path ∧ parentOf path ≠ "" ∧
        ∀ c ∈ (parentOf path).toList, c ∈ path.toList) := by
  have hne' : path.toList ≠ [] := by
    intro h
    exact hne (String.toList_inj.1 h)
  obtain ⟨dir, slashes, name, hcs, hname, hnil, hall, hdir, hsplit⟩ := exists_split hlast hne'
  rw [String.ofList_toList] at hsplit
  rw [hsplit]
  cases slashes with
  | nil =>
    obtain rfl := hdir rfl
    refine Or.inl ⟨?_, ?_, ?_⟩
    · rw [parentOf, hsplit]
      rfl
    · rw [components_eq_partsOf, hcs]
      exact partsOf_name hname hnil
    · rw [isAbsolute, hcs]
      obtain ⟨c, r, rfl⟩ := List.exists_cons_of_ne_nil hnil
      simp only [List.mem_cons, not_or] at hname
      simpa using Ne.symm hname.1
  | cons d slashes =>
    obtain rfl : d = '/' := hall d (List.mem_cons_self ..)
    have hparts : components path = partsOf dir ++ [String.ofList name] := by
      rw [components_eq_partsOf, hcs, partsOf_append_slashes dir name hall (by simp),
        partsOf_name hname hnil]
    refine Or.inr ?_
    cases dir with
    | nil =>
      have hparent : parentOf path = "/" := by
        rw [parentOf, hsplit]
        rfl
      rw [hparent]
      refine ⟨hparts, ?_, by decide, ?_⟩
      · rw [isAbsolute, isAbsolute, hcs]
        rfl
      · rw [hcs]
        intro c hc
        have hc : c = '/' := by simpa using hc
        simp [hc]
    | cons e dir =>
      have hparent : parentOf path = String.ofList (e :: dir) := by
        rw [parentOf, hsplit]
        simp
      rw [hparent]
      refine ⟨?_, ?_, ?_, ?_⟩
      · rw [hparts, components_eq_partsOf, String.toList_ofList]
      · rw [isAbsolute, isAbsolute, hcs, String.toList_ofList]
        rfl
      · simp
      · rw [hcs, String.toList_ofList]
        intro c hc
        exact List.mem_append_left _ (List.mem_append_left _ hc)

end SourcePatch.Path
