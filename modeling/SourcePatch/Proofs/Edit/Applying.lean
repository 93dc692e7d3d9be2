import SourcePatch.Proofs.Edit.Substitution
import SourcePatch.Proofs.Patch.Landing

/-!
# Applying edits in a world

`FileEdits.apply` reads a file, works out what its edits make of it, and replaces it. The file
system may refuse any step of this.

* `World.applyEdits_cases` lists all that can happen.
* `World.applied_substitutes`: what was applied is one substitution of all spans in the content that
  was read.
* `World.applyEdits_all_or_nothing`: edits that are not applied leave the world as it was, and those
  that are put one file in the place of one entry. The one exception is a file system that lets one
  replace a file and not set its time.
-/

namespace SourcePatch

open SourcePatch.Text

namespace World

variable {w w' : World} {b : FileEdits}

/-- What applying edits gives, and the world after it. -/
def applyEdits (w : World) (b : FileEdits) : Except EditError EditResult × World :=
  (b.apply (m := StateM World)).run w

theorem applyEdits_of_nil (h : b.edits = []) : w.applyEdits b = (.ok (.unchanged b.file), w) := by
  rw [applyEdits, FileEdits.apply, if_pos (by simp [h])]
  rfl

/-- All that applying edits can do: nothing, for want of edits; fail, because they do not fit the
file or a step is refused, and leave the world alone; or replace the entry that the path names. Then
they are applied, unless the policy refuses to set the time of the new file. -/
theorem applyEdits_cases (w : World) (b : FileEdits) :
    (b.edits = [] ∧ w.applyEdits b = (.ok (.unchanged b.file), w)) ∨
    (b.edits ≠ [] ∧ ∃ cause, w.applyEdits b = (.error cause, w) ∧
      ∀ d, w.read b.file = .ok d → b.resultOn d = .error cause ∨
        ∃ refusal, cause = .io refusal ∧ w.Refuses b.file refusal) ∨
    (b.edits ≠ [] ∧ ∃ old out w' loc,
      w.tree.file? w.cwd b.file = .ok old ∧ b.resultOn old.content = .ok out ∧
      w.tree.locate w.cwd b.file = .ok loc ∧ Replaced w w' loc ⟨out, old.mode, w.tree.clock⟩ ∧
      ((∃ cause, w.policy w'.tree w.cwd (.stamp b.file) = some cause ∧
          w.applyEdits b = (.error (.io cause), w')) ∨
        w.applyEdits b = (.ok (.applied b.file b.edits.length out.length), w'))) := by
  by_cases hnil : b.edits = []
  · exact Or.inl ⟨hnil, applyEdits_of_nil hnil⟩
  have hsome : b.edits.isEmpty = false := by simpa using hnil
  refine Or.inr ?_
  cases hread : w.read b.file with
  | error cause =>
    refine Or.inl ⟨hnil, _, apply_of_unreadable hsome hread, fun d hd => ?_⟩
    cases hd
  | ok d =>
    obtain ⟨old, hfile, rfl⟩ := exists_file?_of_read hread
    cases hresult : b.resultOn old.content with
    | error cause =>
      refine Or.inl ⟨hnil, cause, apply_of_error hsome hread hresult, fun d hd => Or.inl ?_⟩
      rw [← Except.ok.inj hd, hresult]
    | ok out =>
      rcases apply_cases hsome hfile hresult with ⟨cause, hrefuses, happly⟩ |
        ⟨w', loc, hloc, hreplaced, hend⟩
      · exact Or.inl ⟨hnil, _, happly, fun _ _ => Or.inr ⟨cause, rfl, hrefuses⟩⟩
      · exact Or.inr ⟨hnil, old, out, w', loc, hfile, hresult, hloc, hreplaced, hend⟩

/-- Edits that do not fit the content of their file fail. -/
theorem applyEdits_of_error {d : Bytes} {cause : EditError} (hedits : b.edits.isEmpty = false)
    (hread : w.read b.file = .ok d) (h : b.resultOn d = .error cause) :
    w.applyEdits b = (.error cause, w) := apply_of_error hedits hread h

/-- Edits that fit the content of their file are applied if the file system accepts the write, and
the file holds what they make of it. -/
theorem exists_applyEdits {d out : Bytes} (hedits : b.edits.isEmpty = false)
    (haccepts : w.Accepts b.file) (hread : w.read b.file = .ok d) (h : b.resultOn d = .ok out) :
    ∃ w', w.applyEdits b = (.ok (.applied b.file b.edits.length out.length), w') ∧
      w'.read b.file = .ok out := by
  obtain ⟨old, hfile, rfl⟩ := exists_file?_of_read hread
  rcases apply_cases hedits hfile h with ⟨cause, hrefuses, -⟩ |
    ⟨w', loc, hloc, hreplaced, ⟨cause, hstamp, -⟩ | happly⟩
  · exact absurd hrefuses (haccepts.not_refuses cause)
  · cases hstamp.symm.trans (haccepts.stamps w'.tree)
  · exact ⟨w', happly, (hreplaced.read hloc hread).1⟩

/-- Edits that were applied fitted the content of their file. -/
theorem exists_of_applied {file : String} {edits bytes : Nat}
    (h : w.applyEdits b = (.ok (.applied file edits bytes), w')) :
    ∃ old out loc, w.tree.file? w.cwd b.file = .ok old ∧ b.resultOn old.content = .ok out ∧
      file = b.file ∧ edits = b.edits.length ∧ w.tree.locate w.cwd b.file = .ok loc ∧
      Replaced w w' loc ⟨out, old.mode, w.tree.clock⟩ := by
  rcases applyEdits_cases w b with ⟨-, hcase⟩ | ⟨-, cause, hcase, -⟩ |
    ⟨-, old, out, w₁, loc, hfile, hresult, hloc, hreplaced, ⟨cause, -, hcase⟩ | hcase⟩
  · rw [h] at hcase
    cases hcase
  · rw [h] at hcase
    cases hcase
  · rw [h] at hcase
    cases hcase
  · rw [h] at hcase
    cases hcase
    exact ⟨old, out, loc, hfile, hresult, rfl, rfl, hloc, hreplaced⟩

/-! ## One substitution -/

/-- Edits that were applied, whatever they expected and in whatever order they came, have replaced
their spans in the content that was read all at once: in the order of their spans they cut it into
gaps and spans, and the file holds the same gaps with the new texts between them. No two spans have
an octet in common, every splice has found its span in place, and all edits are counted. -/
theorem applied_substitutes {file : String} {edits bytes : Nat}
    (h : w.applyEdits b = (.ok (.applied file edits bytes), w')) :
    ∃ content out ordered, w.read b.file = .ok content ∧ w'.read b.file = .ok out ∧
      ordered.Perm b.edits ∧ Edit.Substitution 0 content ordered out ∧
      b.edits.Pairwise Edit.Apart ∧ b.SplicesInPlace content ∧
      file = b.file ∧ edits = b.edits.length := by
  obtain ⟨old, out, loc, hfile, hresult, hname, hcount, hloc, hreplaced⟩ := exists_of_applied h
  have hread := read_of_file? hfile
  exact ⟨old.content, out, b.descending.reverse, hread, (hreplaced.read hloc hread).1,
    (List.reverse_perm _).trans b.perm_descending, FileEdits.substitution_of_resultOn hresult,
    FileEdits.apart_of_resultOn hresult, FileEdits.splicesInPlace_of_resultOn hresult, hname,
    hcount⟩

/-- Edits of a line that do not come in order: words are replaced, dropped and put in, one of them
directly before a word that is dropped. -/
def lineEdits : FileEdits where
  file := "notes.rs"
  edits := [.ofText 8 11 "" "two", .ofText 3 6 "three" "one", .ofText 8 8 "<" "",
    .ofText 0 0 "é" ""]

theorem resultOn_lineEdits : lineEdits.resultOn (Utf8.octets "// one, two")
    = .ok (Utf8.octets "é// three, <") := by
  have hdescending : lineEdits.descending = [.ofText 8 11 "" "two", .ofText 8 8 "<" "",
      .ofText 3 6 "three" "one", .ofText 0 0 "é" ""] := by
    simp [FileEdits.descending, lineEdits, List.mergeSort, List.MergeSort.Internal.splitInTwo,
      Edit.ofText]
  rw [FileEdits.resultOn, hdescending]
  decide +kernel

/-- The edits of the line are one substitution, though they came from behind, from before and in
between. -/
theorem applied_substitutes_line :
    ∃ ordered, ordered.Perm lineEdits.edits ∧
      Edit.Substitution 0 (Utf8.octets "// one, two") ordered (Utf8.octets "é// three, <") := by
  have hcontent : (ofFile "notes.rs" "// one, two").read lineEdits.file
      = .ok (Utf8.octets "// one, two") := by decide +kernel
  obtain ⟨w', happly, hafter⟩ := exists_applyEdits rfl (accepts_of_permissive rfl _) hcontent
    resultOn_lineEdits
  obtain ⟨content, out, ordered, hread, hread', hperm, hsubstitution, -⟩ :=
    applied_substitutes happly
  obtain rfl := Except.ok.inj (hread.symm.trans hcontent)
  obtain rfl := Except.ok.inj (hread'.symm.trans hafter)
  exact ⟨ordered, hperm, hsubstitution⟩

/-! ## All or nothing -/

/-- What edits of a file leave behind that were applied: the entry that their path names is a new
file, and all else is as it was. The path led to the file `old` at the location `place`, and it
names the entry at `loc`, which is that file or a link to it. -/
structure Landed (w w' : World) (b : FileEdits) (place loc : Location) (old new : FileData) :
    Prop where
  led : w.tree.resolve w.cwd b.file = .ok place
  held : w.tree.entryAt? place = some (.file old)
  named : w.tree.locate w.cwd b.file = .ok loc
  direct : place = loc ∨ ∃ target, w.tree.entryAt? loc = some (.link target)
  entry : w'.tree.entryAt? loc = some (.file new)
  content : new.content = b.descending.foldl Edit.splice old.content
  mode : new.mode = old.mode
  others : ∀ l, l ≠ loc → w'.tree.entryAt? l = w.tree.entryAt? l
  pointed : ∀ target, w.tree.entryAt? loc = some (.link target) →
    place ≠ loc ∧ w'.tree.entryAt? place = some (.file old)
  cwd : w'.cwd = w.cwd
  home : w'.home = w.home
  output : w'.output = w.output
  policy : w'.policy = w.policy

/-- A file that took the place of the entry which its path names has landed. -/
theorem landed_of_replaced {place loc : Location} {old : FileData} {out : Bytes}
    (hled : w.tree.resolve w.cwd b.file = .ok place)
    (hheld : w.tree.entryAt? place = some (.file old)) (hresult : b.resultOn old.content = .ok out)
    (hloc : w.tree.locate w.cwd b.file = .ok loc)
    (hreplaced : Replaced w w' loc ⟨out, old.mode, w.tree.clock⟩) :
    Landed w w' b place loc old ⟨out, old.mode, w.tree.clock⟩ where
  led := hled
  held := hheld
  named := hloc
  direct := Tree.eq_or_link_of_resolve hled hheld hloc
  entry := hreplaced.entry
  content := (FileEdits.resultOn_eq_ok_iff.1 hresult).2.2.2.1
  mode := rfl
  others := hreplaced.other
  pointed := by
    intro target hlink
    have hne : place ≠ loc := by
      rintro rfl
      rw [hheld] at hlink
      cases hlink
    exact ⟨hne, (hreplaced.other place hne).trans hheld⟩
  cwd := hreplaced.cwd
  home := hreplaced.home
  output := hreplaced.output
  policy := hreplaced.policy

/-- Whatever is at the path and whatever the file system refuses, edits that fail or that are none
leave the world as it was, as long as the time may be set of a file that one has made. Edits that
are applied replace the entry that the path names by a file with the spliced content and the
permission bits of the file that the path led to, and change no other entry: a link is replaced, and
the file behind it stays. Edits that fail and do change something have replaced the file in the same
way, and could not set its time. Edits that fit the file are applied if the file system accepts the
write. -/
theorem applyEdits_all_or_nothing (w : World) (b : FileEdits) :
    (w.policy.Stamps → ∀ cause, (w.applyEdits b).1 = .error cause → (w.applyEdits b).2 = w) ∧
    (∀ file, (w.applyEdits b).1 = .ok (.unchanged file) → (w.applyEdits b).2 = w) ∧
    (∀ file edits bytes, (w.applyEdits b).1 = .ok (.applied file edits bytes) →
      ∃ place loc old new, Landed w (w.applyEdits b).2 b place loc old new) ∧
    (∀ cause, (w.applyEdits b).1 = .error cause → (w.applyEdits b).2 = w ∨
      ∃ refusal place loc old new, cause = .io refusal ∧
        w.policy (w.applyEdits b).2.tree w.cwd (.stamp b.file) = some refusal ∧
        Landed w (w.applyEdits b).2 b place loc old new) ∧
    ∀ d out, b.edits ≠ [] → w.read b.file = .ok d → b.resultOn d = .ok out → w.Accepts b.file →
      (w.applyEdits b).1 = .ok (.applied b.file b.edits.length out.length) := by
  rcases applyEdits_cases w b with ⟨hnil, hcase⟩ | ⟨-, cause, hcase, hcause⟩ |
    ⟨-, old, out, w', loc, hfile, hresult, hloc, hreplaced, hend⟩
  · rw [hcase]
    refine ⟨fun _ _ _ => rfl, fun _ _ => rfl, ?_, fun _ _ => Or.inl rfl, ?_⟩
    · intro file edits bytes h
      cases h
    · intro d out hne
      exact absurd hnil hne
  · rw [hcase]
    refine ⟨fun _ _ _ => rfl, fun _ _ => rfl, ?_, fun _ _ => Or.inl rfl, ?_⟩
    · intro file edits bytes h
      cases h
    · intro d out _ hread hout haccepts
      rcases hcause d hread with hcause | ⟨refusal, -, hrefuses⟩
      · rw [hcause] at hout
        cases hout
      · exact absurd hrefuses (haccepts.not_refuses refusal)
  · obtain ⟨place, hled, hheld⟩ := Tree.exists_resolve_of_file? hfile
    have hlanded := landed_of_replaced hled hheld hresult hloc hreplaced
    rcases hend with ⟨refusal, hstamp, hcase⟩ | hcase
    · -- The new file is in its place, and its time could not be set.
      rw [hcase]
      refine ⟨?_, ?_, ?_, ?_, ?_⟩
      · intro hstamps
        cases hstamp.symm.trans (hstamps _ _ _)
      · intro file h
        cases h
      · intro file edits bytes h
        cases h
      · intro cause h
        obtain rfl := Except.error.inj h
        exact Or.inr ⟨refusal, place, loc, old, _, rfl, hstamp, hlanded⟩
      · intro d out' _ _ _ haccepts
        cases hstamp.symm.trans (haccepts.stamps w'.tree)
    · rw [hcase]
      refine ⟨?_, ?_, ?_, ?_, ?_⟩
      · intro _ cause h
        cases h
      · intro file h
        cases h
      · intro file edits bytes _
        exact ⟨place, loc, old, _, hlanded⟩
      · intro cause h
        cases h
      · intro d out' _ hread hout _
        rw [read_of_file? hfile] at hread
        obtain rfl := Except.ok.inj hread
        rw [hresult] at hout
        rw [Except.ok.inj hout]

/-- Two names for one file, the second of them a link, and an unprivileged user. The directory they
are in may be locked. -/
def linkedNotes (locked : Bool) : World where
  tree := { entries := [(["notes.rs"], .file ⟨Utf8.octets "a", 0o640, 7⟩),
    (["link.rs"], .link "notes.rs")] }
  cwd := []
  policy := .unprivileged fun _ => locked

/-- An edit of the file, by the name of the link. -/
def linkEdits : FileEdits := ⟨"link.rs", [.ofText 0 1 "b" "a"], none⟩

theorem resultOn_linkEdits : linkEdits.resultOn (Utf8.octets "a") = .ok (Utf8.octets "b") := by
  have hdescending : linkEdits.descending = [.ofText 0 1 "b" "a"] := List.mergeSort_singleton _
  rw [FileEdits.resultOn, hdescending]
  decide +kernel

/-- Through a link, a file takes the place of the link. In a locked directory nothing happens. -/
theorem link_gives_way_to_file :
    (∃ w' new, (linkedNotes false).applyEdits linkEdits = (.ok (.applied "link.rs" 1 1), w') ∧
      w'.tree.entryAt? ["link.rs"] = some (.file new) ∧ new.mode = 0o640 ∧
      w'.tree.entryAt? ["notes.rs"] = some (.file ⟨Utf8.octets "a", 0o640, 7⟩)) ∧
    (linkedNotes true).applyEdits linkEdits
      = (.error (.io Policy.permissionDenied), linkedNotes true) := by
  have hfile (locked : Bool) : (linkedNotes locked).tree.file? [] "link.rs"
      = .ok ⟨Utf8.octets "a", 0o640, 7⟩ := by
    cases locked <;> decide +kernel
  have hloc (locked : Bool) : (linkedNotes locked).tree.locate [] "link.rs" = .ok ["link.rs"] := by
    cases locked <;> decide +kernel
  refine ⟨?_, ?_⟩
  · obtain ⟨-, -, hlanded, -, hfits⟩ := applyEdits_all_or_nothing (linkedNotes false) linkEdits
    have happlied := hfits (Utf8.octets "a") _ (by decide) (read_of_file? (hfile false))
      resultOn_linkEdits
      (accepts_of_unprivileged rfl (hfile false) (hloc false) (by decide) rfl)
    obtain ⟨place, loc, old, new, h⟩ := hlanded _ _ _ happlied
    have hplace : (linkedNotes false).tree.resolve [] "link.rs" = .ok ["notes.rs"] := by
      decide +kernel
    obtain rfl := Except.ok.inj (hplace.symm.trans h.led)
    obtain rfl := Except.ok.inj ((hloc false).symm.trans h.named)
    have hheld : (linkedNotes false).tree.entryAt? ["notes.rs"]
        = some (.file ⟨Utf8.octets "a", 0o640, 7⟩) := by decide
    obtain rfl := Entry.file.inj (Option.some.inj (hheld.symm.trans h.held))
    exact ⟨_, new, Prod.ext happlied rfl, h.entry, h.mode, (h.pointed "notes.rs" (by decide)).2⟩
  · -- The directory that is locked lets no temporary file be made.
    have hwrite := atomicWrite_unprivileged (w := linkedNotes true) rfl (hfile true) (hloc true)
      (Utf8.octets "b")
    have hfails : ((linkedNotes true).applyEdits linkEdits).1
        = .error (.io Policy.permissionDenied) := by
      rw [applyEdits,
        apply_of_write_error rfl (read_of_file? (hfile true)) resultOn_linkEdits hwrite]
      rfl
    have hnothing := (applyEdits_all_or_nothing (linkedNotes true) linkEdits).1
      Policy.stamps_unprivileged _ hfails
    exact Prod.ext hfails hnothing

end World

end SourcePatch
