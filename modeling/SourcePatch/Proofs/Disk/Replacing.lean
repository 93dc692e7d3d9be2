import SourcePatch.Proofs.Disk.Parent
import SourcePatch.Proofs.Disk.Walking

/-!
# Replacing files

A path that leads to a file names an entry, and a new file may take the place of this entry.

* `Tree.exists_location`: the entry that such a path names is the file or a link to it;
  `Tree.eq_or_link_of_resolve` says the same of the place that the path leads to.
* `Tree.resolve_of_entryAt?`, `Tree.file?_of_entryAt?`: a path that led to a file leads to the new
  one once its entry is replaced. This holds of all paths that name the entry, not only of the one
  that is written.
-/

namespace SourcePatch.Tree

variable {t t' : Tree} {cwd loc : Location} {path : String}

/-! ## Entries that paths name -/

theorem resolve_eq_walk (hnul : '\x00' ∉ path.toList) (hne : path ≠ "") :
    t.resolve cwd path = t.walk linkLimit (startOf cwd path) (namesOf path) := by
  have hempty : path.isEmpty = false := by simpa using hne
  rw [resolve, if_neg (by simpa using hnul), if_neg (by simp [hempty])]
  rfl

theorem of_resolve_ok (h : t.resolve cwd path = .ok loc) : '\x00' ∉ path.toList ∧ path ≠ "" := by
  constructor
  · intro hnul
    rw [resolve, if_pos (by simpa using hnul)] at h
    cases h
  · rintro rfl
    cases h

/-- A path that asks for a directory leads to one. -/
theorem directory_of_asks (h : t.resolve cwd path = .ok loc)
    (hasks : Path.asksForDirectory path = true) : t.entryAt? loc = some .directory := by
  obtain ⟨hnul, hne⟩ := of_resolve_ok h
  rw [resolve_eq_walk hnul hne, namesOf, if_pos hasks] at h
  -- The last name of such a path is a dot, which nothing but a directory has.
  obtain ⟨m, -, mid, -, hdot, -⟩ := walk_append_ok h
  rw [walk_cons] at hdot
  cases hhop : t.hop mid "." with
  | error e =>
    rw [hhop] at hdot
    cases hdot
  | ok hp =>
    rw [hhop] at hdot
    rcases hop_cases hhop with ⟨place, rfl, hplace, -⟩ | ⟨data, rfl, -, hname⟩ | ⟨target, rfl, -, hname⟩
    · replace hdot : t.walk m place [] = .ok loc := hdot
      rw [walk_nil] at hdot
      obtain rfl := Except.ok.inj hdot
      exact hplace
    · exact absurd rfl hname.1
    · exact absurd rfl hname.1

/-- The names of a path end with its last name, and the directory that those before it lead to is
the one in which the path names an entry. -/
theorem exists_init (hasks : Path.asksForDirectory path = false) (hnul : '\x00' ∉ path.toList)
    (hne : path ≠ "") :
    ∃ init, namesOf path = init ++ [(Path.splitLast path).2] ∧
      ∀ (t : Tree) (cwd dir : Location), t.walk linkLimit (startOf cwd path) init = .ok dir →
        t.entryAt? dir = some .directory →
        t.locate cwd path = .ok (dir ++ [(Path.splitLast path).2]) := by
  have hlast : path.toList.reverse.head? ≠ some '/' := by
    intro h
    obtain ⟨r, hr⟩ : ∃ r, path.toList.reverse = '/' :: r := by
      cases hp : path.toList.reverse with
      | nil => rw [hp] at h; cases h
      | cons c r => rw [hp] at h; exact ⟨r, by simpa using h⟩
    rw [Path.asksForDirectory, hr] at hasks
    cases hasks
  have hempty : path.isEmpty = false := by simpa using hne
  have hlocate (t : Tree) (cwd dir : Location) (h : t.resolve cwd (Path.parentOf path) = .ok dir)
      (hdir : t.entryAt? dir = some .directory) :
      t.locate cwd path = .ok (dir ++ [(Path.splitLast path).2]) := by
    rw [locate, if_neg (by simpa using hnul), if_neg (by simp [hempty]), h]
    simp [bind, Except.bind, hdir, pure, Except.pure]
  have hdot (t : Tree) (m : Nat) (dir : Location) (hdir : t.entryAt? dir = some .directory) :
      t.walk m dir ["."] = .ok dir := by
    have hdir' : ¬ (t.entryAt? dir != some .directory) = true := by simp [hdir]
    rw [walk_cons, hop, if_neg hdir', if_pos rfl]
    exact walk_nil
  rcases Path.parentOf_cases hlast hne with ⟨hparent, hcomponents, habsolute⟩ |
    ⟨hcomponents, habsolute, hparent, hsub⟩
  · refine ⟨[], by rw [namesOf, hcomponents, hasks]; rfl, fun t cwd dir h hdir => ?_⟩
    rw [walk_nil, startOf, habsolute] at h
    obtain rfl := Except.ok.inj h
    refine hlocate t cwd _ ?_ hdir
    rw [hparent]
    exact hdot t linkLimit cwd hdir
  · refine ⟨Path.components (Path.parentOf path), ?_, fun t cwd dir h hdir => ?_⟩
    · rw [namesOf, hcomponents, hasks, if_neg (by simp), List.append_nil]
    refine hlocate t cwd dir ?_ hdir
    rw [resolve_eq_walk (fun hmem => hnul (hsub _ hmem)) hparent, namesOf, startOf, habsolute]
    obtain ⟨m, -, hmid⟩ := walk_append_of_walk h
    rw [← startOf, hmid]
    split
    · exact hdot t m dir hdir
    · exact walk_nil

/-- How a path leads to a file: along the names before the last one to a directory, and from there
by one name to the file or to a link that leads to it. -/
theorem file_path_cases {place : Location} {data : FileData} (h : t.resolve cwd path = .ok place)
    (hfile : t.entryAt? place = some (.file data)) :
    ∃ init dir, namesOf path = init ++ [(Path.splitLast path).2] ∧
      (∀ (t : Tree) (cwd dir : Location), t.walk linkLimit (startOf cwd path) init = .ok dir →
        t.entryAt? dir = some .directory →
        t.locate cwd path = .ok (dir ++ [(Path.splitLast path).2])) ∧
      t.walk linkLimit (startOf cwd path) init = .ok dir ∧ t.entryAt? dir = some .directory ∧
      IsName (Path.splitLast path).2 ∧ t.SettledAt (dir ++ [(Path.splitLast path).2]) := by
  obtain ⟨hnul, hne⟩ := of_resolve_ok h
  have hasks : Path.asksForDirectory path = false := by
    cases hasks : Path.asksForDirectory path with
    | false => rfl
    | true =>
      have := directory_of_asks h hasks
      rw [hfile] at this
      cases this
  obtain ⟨init, hinit, hlocate⟩ := exists_init hasks hnul hne
  rw [resolve_eq_walk hnul hne, hinit] at h
  obtain ⟨m, -, dir, hdir, hlast, -⟩ := walk_append_ok h
  refine ⟨init, dir, hinit, hlocate, hdir, ?_⟩
  rw [walk_cons] at hlast
  cases hhop : t.hop dir (Path.splitLast path).2 with
  | error e =>
    rw [hhop] at hlast
    cases hlast
  | ok hp =>
    rw [hhop] at hlast
    refine ⟨directory_of_hop hhop, ?_⟩
    rcases hop_cases hhop with ⟨place', rfl, hplace', -⟩ | ⟨data', rfl, hfile', hname⟩ |
      ⟨target, rfl, hlink, hname⟩
    · -- a directory is not the file that the path leads to
      replace hlast : t.walk m place' [] = .ok place := hlast
      rw [walk_nil] at hlast
      obtain rfl := Except.ok.inj hlast
      rw [hfile] at hplace'
      cases hplace'
    · exact ⟨hname, Or.inl ⟨data', hfile'⟩⟩
    · refine ⟨hname, Or.inr ⟨target, m, place, data, hlink, ?_, hfile⟩⟩
      rwa [List.dropLast_concat]

theorem exists_resolve_of_file? {data : FileData} (h : t.file? cwd path = .ok data) :
    ∃ place, t.resolve cwd path = .ok place ∧ t.entryAt? place = some (.file data) := by
  rw [file?] at h
  cases hresolve : t.resolve cwd path with
  | error e =>
    rw [hresolve] at h
    cases h
  | ok place =>
    refine ⟨place, rfl, ?_⟩
    rw [hresolve] at h
    simp only [bind, Except.bind] at h
    split at h
    · rename_i data' hentry
      obtain rfl := Except.ok.inj h
      exact hentry
    · cases h
    · cases h

/-- A path that leads to a file names an entry, which is that file or a link to it. -/
theorem exists_location {data : FileData} (h : t.file? cwd path = .ok data) :
    ∃ loc, t.locate cwd path = .ok loc ∧ t.SettledAt loc ∧ loc ≠ [] := by
  obtain ⟨place, hresolve, hfile⟩ := exists_resolve_of_file? h
  obtain ⟨init, dir, -, hlocate, hwalk, hdir, -, hsettled⟩ := file_path_cases hresolve hfile
  exact ⟨dir ++ [(Path.splitLast path).2], hlocate t cwd dir hwalk hdir, hsettled, by simp⟩

/-- A path whose last name is that of a file leads to this file. -/
theorem resolve_concat {init : List String} {dir : Location} {name : String} {data : FileData}
    (hnul : '\x00' ∉ path.toList) (hne : path ≠ "") (hnames : namesOf path = init ++ [name])
    (hwalk : t.walk linkLimit (startOf cwd path) init = .ok dir)
    (hdir : t.entryAt? dir = some .directory) (hname : IsName name)
    (hentry : t.entryAt? (dir ++ [name]) = some (.file data)) :
    t.resolve cwd path = .ok (dir ++ [name]) := by
  rw [resolve_eq_walk hnul hne, hnames]
  obtain ⟨m, -, hmid⟩ := walk_append_of_walk hwalk
  rw [hmid, walk_cons, hop_of_entry hdir hname hentry (by simp)]
  exact walk_nil

/-- A path that leads to a file names the entry of this file, or a link. -/
theorem eq_or_link_of_resolve {place : Location} {data : FileData}
    (h : t.resolve cwd path = .ok place) (hfile : t.entryAt? place = some (.file data))
    (hloc : t.locate cwd path = .ok loc) :
    place = loc ∨ ∃ target, t.entryAt? loc = some (.link target) := by
  obtain ⟨hnul, hne⟩ := of_resolve_ok h
  obtain ⟨init, dir, hinit, hlocate, hwalk, hdir, hname, hsettled⟩ := file_path_cases h hfile
  have hlocdir := hlocate t cwd dir hwalk hdir
  rw [hloc] at hlocdir
  obtain rfl := Except.ok.inj hlocdir
  rcases hsettled with ⟨data', hentry⟩ | ⟨target, -, -, -, hlink, -⟩
  · have hresolve := resolve_concat hnul hne hinit hwalk hdir hname hentry
    rw [h] at hresolve
    exact Or.inl (Except.ok.inj hresolve)
  · exact Or.inr ⟨target, hlink⟩

/-- A path that led to a file leads to its own entry when this is replaced by a file. -/
theorem resolve_of_entryAt? {old new : FileData} (h : t.file? cwd path = .ok old)
    (hloc : t.locate cwd path = .ok loc) (hnew : t'.entryAt? loc = some (.file new))
    (hother : ∀ l, l ≠ loc → t'.entryAt? l = t.entryAt? l) :
    t'.resolve cwd path = .ok loc ∧ t'.locate cwd path = .ok loc := by
  obtain ⟨place, hresolve, hfile⟩ := exists_resolve_of_file? h
  obtain ⟨init, dir, hinit, hlocate, hwalk, hdir, hname, hsettled⟩ := file_path_cases hresolve hfile
  have hlocdir := hlocate t cwd dir hwalk hdir
  rw [hloc] at hlocdir
  obtain rfl := Except.ok.inj hlocdir
  -- The walk to the directory does not come by the entry that was replaced.
  have hwalk' : t'.walk linkLimit (startOf cwd path) init = .ok dir :=
    walk_of_settledAt hsettled (by rw [hnew]; simp) hother hwalk hdir
  have hdir' : t'.entryAt? dir = some .directory := by
    rw [hother dir (by simp), hdir]
  obtain ⟨hnul, hne⟩ := of_resolve_ok hresolve
  exact ⟨resolve_concat hnul hne hinit hwalk' hdir' hname hnew, hlocate t' cwd dir hwalk' hdir'⟩

theorem file?_of_resolve {place : Location} {data : FileData} (h : t.resolve cwd path = .ok place)
    (hfile : t.entryAt? place = some (.file data)) : t.file? cwd path = .ok data := by
  rw [file?, h]
  simp only [bind, Except.bind, hfile]
  rfl

/-- A path that led to a file leads to the new file when the entry that it names is replaced. -/
theorem file?_of_entryAt? {old new : FileData} (h : t.file? cwd path = .ok old)
    (hloc : t.locate cwd path = .ok loc) (hnew : t'.entryAt? loc = some (.file new))
    (hother : ∀ l, l ≠ loc → t'.entryAt? l = t.entryAt? l) :
    t'.file? cwd path = .ok new ∧ t'.locate cwd path = .ok loc := by
  obtain ⟨hresolve, hlocate⟩ := resolve_of_entryAt? h hloc hnew hother
  exact ⟨file?_of_resolve hresolve hnew, hlocate⟩

end SourcePatch.Tree
