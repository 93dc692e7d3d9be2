import SourcePatch.Disk.Tree

/-!
# Walking through a tree

`Tree.walk` follows names through directories and links. It is described here by what one name
does (`Tree.hop`).

* `Tree.walk_append`: walking along two lists of names is walking along the first and then, with
  the links that are left, along the second.
* `Tree.walk_unique`: how many links may be followed decides whether a walk ends, not where.
* `Tree.SettledAt` says that a location holds no directory and leads to none; a walk to a directory
  does not come by such a location, so it stays the same when a file is put there
  (`Tree.walk_of_settledAt`).
-/

namespace SourcePatch.Tree

/-- Where one name leads: to a location, or to the target of a link. -/
inductive Hop where
  | place (loc : Location)
  | link (target : String)

/-- What one name does to a walk that stands at a location. -/
def hop (t : Tree) (here : Location) (name : String) : Except OsError Hop :=
  if t.entryAt? here != some .directory then .error .notADirectory
  else if name = "." then .ok (.place here)
  else if name = ".." then
    if t.entryAt? here.dropLast = some .directory then .ok (.place here.dropLast)
    else .error .notFound
  else if nameLimit < name.utf8ByteSize then .error .nameTooLong
  else match t.entryAt? (here ++ [name]) with
    | none => .error .notFound
    | some (.link target) => .ok (.link target)
    | some _ => .ok (.place (here ++ [name]))

/-- A name that an entry can have. -/
def IsName (name : String) : Prop := name ≠ "." ∧ name ≠ ".." ∧ name.utf8ByteSize ≤ nameLimit

/-- The names that a path leads through. -/
def namesOf (path : String) : List String :=
  Path.components path ++ if Path.asksForDirectory path then ["."] else []

/-- Where a path begins that is read in a directory. -/
def startOf (here : Location) (path : String) : Location := if Path.isAbsolute path then [] else here

/-- Goes on at the target of a link that a directory holds. -/
def followLink (t : Tree) :
    (links : Nat) → Location → String → List String → Except OsError Location
  | 0, _, _, _ => .error .tooManyLinks
  | links + 1, here, target, names =>
    t.walk links (startOf here target) (namesOf target ++ names)

variable {t t' : Tree} {n m : Nat} {here mid loc : Location} {name target : String}
  {names : List String}

/-! ## Single names -/

theorem walk_nil : t.walk n here [] = .ok here := by cases n <;> rfl

theorem walk_cons : t.walk n here (name :: names) =
    match t.hop here name with
    | .error e => .error e
    | .ok (.place loc) => t.walk n loc names
    | .ok (.link target) => t.followLink n here target names := by
  have hwalk : t.walk n = t.walkNames (t.followLink n) := by cases n <;> rfl
  rw [hwalk, walkNames, hop]
  split
  · rfl
  split
  · rfl
  split
  · split <;> rfl
  split
  · rfl
  cases hentry : t.entryAt? (here ++ [name]) with
  | none => rfl
  | some e => cases e <;> rfl

theorem hop_of_not_directory (h : t.entryAt? here ≠ some .directory) :
    t.hop here name = .error .notADirectory := by
  have h' : (t.entryAt? here != some .directory) = true := by simpa using h
  rw [hop, if_pos h']

theorem directory_of_hop {hp : Hop} (h : t.hop here name = .ok hp) :
    t.entryAt? here = some .directory := by
  apply Classical.byContradiction
  intro hno
  rw [hop_of_not_directory hno] at h
  cases h

/-- A name leads to a directory, to the entry of that name, or to the target of the link of that
name. -/
theorem hop_cases {hp : Hop} (h : t.hop here name = .ok hp) :
    (∃ loc, hp = .place loc ∧ t.entryAt? loc = some .directory ∧
      (name = "." ∨ name = ".." ∨ loc = here ++ [name])) ∨
    (∃ data, hp = .place (here ++ [name]) ∧ t.entryAt? (here ++ [name]) = some (.file data) ∧
      IsName name) ∨
    (∃ target, hp = .link target ∧ t.entryAt? (here ++ [name]) = some (.link target) ∧
      IsName name) := by
  have hdir := directory_of_hop h
  have hdir' : ¬ (t.entryAt? here != some .directory) = true := by simp [hdir]
  rw [hop, if_neg hdir'] at h
  split at h
  · rename_i hdot
    obtain rfl := Except.ok.inj h
    exact Or.inl ⟨here, rfl, hdir, Or.inl hdot⟩
  split at h
  · rename_i hdots
    split at h
    · rename_i hparent
      obtain rfl := Except.ok.inj h
      exact Or.inl ⟨here.dropLast, rfl, hparent, Or.inr (Or.inl hdots)⟩
    · cases h
  split at h
  · cases h
  rename_i hdot hdots hlong
  have hname : IsName name := ⟨hdot, hdots, Nat.le_of_not_lt hlong⟩
  cases hentry : t.entryAt? (here ++ [name]) with
  | none => rw [hentry] at h; cases h
  | some e =>
    rw [hentry] at h
    cases e with
    | directory =>
      obtain rfl := Except.ok.inj h
      exact Or.inl ⟨here ++ [name], rfl, hentry, Or.inr (Or.inr rfl)⟩
    | file data =>
      obtain rfl := Except.ok.inj h
      exact Or.inr (Or.inl ⟨data, rfl, rfl, hname⟩)
    | link target =>
      obtain rfl := Except.ok.inj h
      exact Or.inr (Or.inr ⟨target, rfl, rfl, hname⟩)

theorem hop_of_entry {e : Entry} (hdir : t.entryAt? here = some .directory) (hname : IsName name)
    (hentry : t.entryAt? (here ++ [name]) = some e) (hlink : ∀ target, e ≠ .link target) :
    t.hop here name = .ok (.place (here ++ [name])) := by
  have hdir' : ¬ (t.entryAt? here != some .directory) = true := by simp [hdir]
  rw [hop, if_neg hdir', if_neg hname.1, if_neg hname.2.1, if_neg (Nat.not_lt.2 hname.2.2), hentry]
  cases e with
  | directory => rfl
  | file data => rfl
  | link target => exact absurd rfl (hlink target)

/-! ## Walks in parts -/

/-- Walking along two lists of names fails as the walk along the first does, or goes on from where
that ends with the links that are left. -/
theorem walk_append (t : Tree) (n : Nat) (here : Location) (names : List String) :
    (∃ e, ∀ more, t.walk n here (names ++ more) = .error e) ∨
    ∃ m ≤ n, ∃ mid, ∀ more, t.walk n here (names ++ more) = t.walk m mid more := by
  -- A link adds the names of its target, so the outer induction is on the links that are left.
  induction n using Nat.strongRecOn generalizing here names with
  | ind n ihlinks =>
    induction names generalizing here with
    | nil => exact Or.inr ⟨n, Nat.le_refl n, here, fun _ => rfl⟩
    | cons name names ih =>
      simp only [List.cons_append, walk_cons]
      cases t.hop here name with
      | error e => exact Or.inl ⟨e, fun _ => rfl⟩
      | ok hp =>
        cases hp with
        | place loc => exact ih loc
        | link target =>
          cases n with
          | zero => exact Or.inl ⟨.tooManyLinks, fun _ => rfl⟩
          | succ n =>
            -- one link fewer is left, and the names of its target come first
            rcases ihlinks n (Nat.lt_succ_self n) (startOf here target) (namesOf target ++ names)
              with ⟨e, he⟩ | ⟨m, hm, mid, hmid⟩
            · refine Or.inl ⟨e, fun more => ?_⟩
              rw [← he more, List.append_assoc]
              rfl
            · refine Or.inr ⟨m, by omega, mid, fun more => ?_⟩
              rw [← hmid more, List.append_assoc]
              rfl

/-- A walk goes on from where it has come to. -/
theorem walk_append_of_walk (h : t.walk n here names = .ok mid) :
    ∃ m ≤ n, ∀ more, t.walk n here (names ++ more) = t.walk m mid more := by
  rcases walk_append t n here names with ⟨e, he⟩ | ⟨m, hm, mid', hmid⟩
  · have hnil := he []
    rw [List.append_nil, h] at hnil
    cases hnil
  · have hnil := hmid []
    rw [List.append_nil, h, walk_nil] at hnil
    obtain rfl := Except.ok.inj hnil
    exact ⟨m, hm, hmid⟩

/-- A walk that ends somewhere is a walk to any stage of it, and goes on from there. -/
theorem walk_append_ok {more : List String} (h : t.walk n here (names ++ more) = .ok loc) :
    ∃ m ≤ n, ∃ mid, t.walk n here names = .ok mid ∧ t.walk m mid more = .ok loc ∧
      ∀ more, t.walk n here (names ++ more) = t.walk m mid more := by
  rcases walk_append t n here names with ⟨e, he⟩ | ⟨m, hm, mid, hmid⟩
  · rw [he more] at h
    cases h
  · refine ⟨m, hm, mid, ?_, ?_, hmid⟩
    · have hnil := hmid []
      rwa [List.append_nil, walk_nil] at hnil
    · rwa [← hmid more]

/-- More links to follow do not change where a walk ends. -/
theorem walk_mono (h : t.walk n here names = .ok loc) (hnm : n ≤ m) :
    t.walk m here names = .ok loc := by
  induction n using Nat.strongRecOn generalizing m here names with
  | ind n ihlinks =>
    induction names generalizing here with
    | nil => rwa [walk_nil] at h ⊢
    | cons name names ih =>
      rw [walk_cons] at h ⊢
      cases hhop : t.hop here name with
      | error e =>
        rw [hhop] at h
        cases h
      | ok hp =>
        rw [hhop] at h
        cases hp with
        | place loc => exact ih h
        | link target =>
          cases n with
          | zero => cases h
          | succ n =>
            obtain ⟨k, rfl⟩ := Nat.exists_eq_add_of_lt hnm
            exact ihlinks n (Nat.lt_succ_self n) h (by omega)

/-- How many links may be followed does not decide where a walk ends. -/
theorem walk_unique {a b : Location} (ha : t.walk n here names = .ok a)
    (hb : t.walk m here names = .ok b) : a = b := by
  rcases Nat.le_total n m with h | h
  · have := walk_mono ha h
    rw [hb] at this
    exact (Except.ok.inj this).symm
  · have := walk_mono hb h
    rw [ha] at this
    exact Except.ok.inj this

/-- A walk from what is no directory ends at once. -/
theorem eq_nil_of_walk (h : t.walk n here names = .ok loc)
    (hdir : t.entryAt? here ≠ some .directory) : names = [] := by
  cases names with
  | nil => rfl
  | cons name names =>
    rw [walk_cons, hop_of_not_directory hdir] at h
    cases h

/-! ## Locations that lead to no directory -/

/-- A location holds a file, or a link that leads to a file. -/
def SettledAt (t : Tree) (loc : Location) : Prop :=
  (∃ data, t.entryAt? loc = some (.file data)) ∨
    ∃ target n place data, t.entryAt? loc = some (.link target) ∧
      t.followLink n loc.dropLast target [] = .ok place ∧ t.entryAt? place = some (.file data)

theorem SettledAt.not_directory (h : t.SettledAt loc) : t.entryAt? loc ≠ some .directory := by
  rcases h with ⟨data, hfile⟩ | ⟨target, n, place, data, hlink, -⟩
  · rw [hfile]
    simp
  · rw [hlink]
    simp

theorem SettledAt.occupied (h : t.SettledAt loc) : t.entryAt? loc ≠ none := by
  rcases h with ⟨data, hfile⟩ | ⟨target, n, place, data, hlink, -⟩
  · rw [hfile]
    simp
  · rw [hlink]
    simp

/-- A walk that follows a link which leads to a file ends there. -/
theorem followLink_unique {place : Location} {data : FileData}
    (hplace : t.followLink m here target [] = .ok place)
    (hfile : t.entryAt? place = some (.file data))
    (h : t.followLink n here target names = .ok loc) : loc = place := by
  cases m with
  | zero => cases hplace
  | succ m =>
    cases n with
    | zero => cases h
    | succ n =>
      rw [followLink, List.append_nil] at hplace
      rw [followLink] at h
      -- The names of the target lead to the file, and nothing can follow them.
      obtain ⟨k, -, mid, hmid, hrest, -⟩ := walk_append_ok h
      obtain rfl := walk_unique hplace hmid
      obtain rfl := eq_nil_of_walk hrest (by rw [hfile]; simp)
      rw [walk_nil] at hrest
      exact (Except.ok.inj hrest).symm

/-- What a name does stays the same when a settled location gets another entry that is no
directory, except where the name names that location. -/
theorem hop_congr (hsettled : t.SettledAt loc) (hloc : t'.entryAt? loc ≠ some .directory)
    (hother : ∀ l, l ≠ loc → t'.entryAt? l = t.entryAt? l)
    (hname : name = "." ∨ name = ".." ∨ here ++ [name] ≠ loc) :
    t'.hop here name = t.hop here name := by
  -- The settled location is no directory before and none after, so directories stay what they are.
  have hdir (l : Location) : t'.entryAt? l = some .directory ↔ t.entryAt? l = some .directory := by
    by_cases hl : l = loc
    · subst hl
      exact ⟨fun h => absurd h hloc, fun h => absurd h hsettled.not_directory⟩
    · rw [hother l hl]
  have hbne : (t'.entryAt? here != some .directory) = (t.entryAt? here != some .directory) := by
    rw [Bool.eq_iff_iff, bne_iff_ne, bne_iff_ne, ne_eq, ne_eq, hdir]
  rcases hname with rfl | rfl | hne
  · simp only [hop, hbne, if_true]
  · simp only [hop, hbne, hdir, if_true]
  · simp only [hop, hbne, hdir, hother _ hne]

/-- A walk to a directory does not come by a settled location, and so it stays the same when that
location gets another entry. -/
theorem walk_of_settledAt (hsettled : t.SettledAt loc) (hloc : t'.entryAt? loc ≠ some .directory)
    (hother : ∀ l, l ≠ loc → t'.entryAt? l = t.entryAt? l)
    {stop : Location} (h : t.walk n here names = .ok stop)
    (hstop : t.entryAt? stop = some .directory) : t'.walk n here names = .ok stop := by
  induction n using Nat.strongRecOn generalizing here names with
  | ind n ihlinks =>
    induction names generalizing here with
    | nil => rwa [walk_nil] at h ⊢
    | cons name names ih =>
      have hcongr (hname : name = "." ∨ name = ".." ∨ here ++ [name] ≠ loc) :
          t'.hop here name = t.hop here name := hop_congr hsettled hloc hother hname
      rw [walk_cons] at h ⊢
      cases hhop : t.hop here name with
      | error e =>
        rw [hhop] at h
        cases h
      | ok hp =>
        rw [hhop] at h hcongr
        rcases hop_cases hhop with ⟨place, rfl, hplace, hname⟩ | ⟨data, rfl, hfile, -⟩ |
          ⟨target, rfl, hlink, -⟩
        · -- a directory is not the settled location
          have hname' : name = "." ∨ name = ".." ∨ here ++ [name] ≠ loc := by
            rcases hname with hname | hname | rfl
            · exact Or.inl hname
            · exact Or.inr (Or.inl hname)
            · exact Or.inr (Or.inr fun heq => hsettled.not_directory (heq ▸ hplace))
          rw [hcongr hname']
          exact ih h
        · -- a walk that comes to a file ends there, and not at a directory
          replace h : t.walk n (here ++ [name]) names = .ok stop := h
          obtain rfl := eq_nil_of_walk h (by rw [hfile]; simp)
          rw [walk_nil] at h
          obtain rfl := Except.ok.inj h
          rw [hfile] at hstop
          cases hstop
        · by_cases hname : here ++ [name] = loc
          · -- a link at the settled location leads to a file, and the walk would end there
            rcases hsettled with ⟨data, hfile⟩ | ⟨target', k, place, data, hlink', hplace, hfile⟩
            · rw [← hname, hlink] at hfile
              cases hfile
            · rw [← hname, hlink] at hlink'
              obtain rfl := Entry.link.inj (Option.some.inj hlink')
              rw [← hname, List.dropLast_concat] at hplace
              obtain rfl := followLink_unique hplace hfile h
              rw [hfile] at hstop
              cases hstop
          · rw [hcongr (Or.inr (Or.inr hname))]
            cases n with
            | zero => cases h
            | succ n => exact ihlinks n (Nat.lt_succ_self n) h

end SourcePatch.Tree
