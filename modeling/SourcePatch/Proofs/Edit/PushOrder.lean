import SourcePatch.Proofs.Edit.Applying

/-!
# The order in which edits are pushed

Edits are sorted by where they begin before anything else is done, so that the order in which they
were pushed should not matter. It matters for edits that begin at one offset, which the sort leaves
in the order of their pushes.

* `FileEdits.sublist_descending_iff`: the sort keeps the order of edits that begin together.
* `FileEdits.isChain_descending_iff`: edits are found not to run into each other exactly if they are
  apart, and none that inserts was pushed before one that replaces a span from there on.
* `World.outcome_of_perm`: orders without such a pair have one outcome, and all others fail.
* `World.insertion_first_fails`: two edits that land in one order and not in the other.
-/

namespace SourcePatch

namespace Edit

/-- Does the edit replace nothing? -/
def IsInsertion (e : Edit) : Prop := e.byteStart = e.byteEnd

instance (e : Edit) : Decidable e.IsInsertion := inferInstanceAs (Decidable (_ = _))

/-- No two edits insert at one offset. -/
def InsertOnce (es : List Edit) : Prop :=
  es.Pairwise fun a b => a.IsInsertion → b.IsInsertion → a.byteStart ≠ b.byteStart

instance (es : List Edit) : Decidable (InsertOnce es) :=
  inferInstanceAs (Decidable (es.Pairwise _))

/-- No edit that inserts comes before one that replaces a span from the same offset on. -/
def InsertLast (es : List Edit) : Prop :=
  es.Pairwise fun a b => a.byteStart = b.byteStart → a.IsInsertion → b.IsInsertion

instance (es : List Edit) : Decidable (InsertLast es) :=
  inferInstanceAs (Decidable (es.Pairwise _))

/-- Two edits that insert at one offset are one edit. -/
theorem InsertOnce.eq {es : List Edit} (h : InsertOnce es) {a b : Edit} (ha : a ∈ es) (hb : b ∈ es)
    (hoffset : a.byteStart = b.byteStart) (hinsertA : a.IsInsertion) (hinsertB : b.IsInsertion) :
    a = b := by
  have heq : ∀ a ∈ es, ∀ b ∈ es, a.byteStart = b.byteStart → a.IsInsertion → b.IsInsertion →
      a = b :=
    List.Pairwise.forall_of_forall_of_flip
      (R := fun a b : Edit => a.byteStart = b.byteStart → a.IsInsertion → b.IsInsertion → a = b)
      (fun _ _ _ _ _ => rfl)
      (h.imp fun hne hoffset ha hb => absurd hoffset (hne ha hb))
      (h.imp fun hne hoffset hb ha => absurd hoffset.symm (hne ha hb))
  exact heq a ha b hb hoffset hinsertA hinsertB

theorem InsertOnce.perm {es es' : List Edit} (h : InsertOnce es) (hperm : es.Perm es') :
    InsertOnce es' :=
  List.Pairwise.perm h hperm fun hne hb ha hoffset => hne ha hb hoffset.symm

end Edit

namespace FileEdits

variable {b b' : FileEdits} {content out : Bytes}

/-- The edits of a file that are pushed one after another. -/
def ofPushes (file : String) (pin : Option Verification) (es : List Edit) : FileEdits :=
  es.foldl push { file, pin }

theorem ofPushes_eq (file : String) (pin : Option Verification) (es : List Edit) :
    ofPushes file pin es = ⟨file, es, pin⟩ := foldl_push _ es

/-! ## Sorting -/

/-- The sort leaves the edits that begin at one offset in the order in which they came. -/
theorem filter_descending (b : FileEdits) (offset : Nat) :
    b.descending.filter (fun e => e.byteStart = offset)
      = b.edits.filter (fun e => e.byteStart = offset) := by
  have hsorted : (b.edits.filter fun e => e.byteStart = offset).Pairwise
      fun x y => decide (y.byteStart ≤ x.byteStart) = true := by
    refine List.pairwise_of_forall_mem_list fun x hx y hy => ?_
    have hx := of_decide_eq_true (List.mem_filter.1 hx).2
    have hy := of_decide_eq_true (List.mem_filter.1 hy).2
    exact decide_eq_true (by omega)
  have hsublist : (b.edits.filter fun e => e.byteStart = offset).Sublist b.descending := by
    exact List.sublist_mergeSort beginsBehind_trans beginsBehind_total hsorted List.filter_sublist
  -- A part of the sorted list, and as long as the edits at this offset are there.
  have hfilter := hsublist.filter fun e => decide (e.byteStart = offset)
  rw [List.filter_filter] at hfilter
  simp only [Bool.and_self] at hfilter
  exact (hfilter.eq_of_length (b.perm_descending.filter _).length_eq.symm).symm

/-- Of two edits that begin at one offset the sort puts that one first which was pushed first. -/
theorem sublist_descending_iff {x y : Edit} (h : x.byteStart = y.byteStart) :
    [x, y].Sublist b.descending ↔ [x, y].Sublist b.edits := by
  have hfilter : [x, y].filter (fun e => e.byteStart = x.byteStart) = [x, y] := by simp [h]
  constructor
  · intro hsublist
    have := hsublist.filter fun e => decide (e.byteStart = x.byteStart)
    rw [filter_descending, hfilter] at this
    exact this.trans List.filter_sublist
  · intro hsublist
    have := hsublist.filter fun e => decide (e.byteStart = x.byteStart)
    rw [← filter_descending, hfilter] at this
    exact this.trans List.filter_sublist

/-- Edits are found not to run into each other if no two spans have an octet in common, and what
inserts at the beginning of a span was pushed after what replaces it. -/
theorem isChain_descending_iff (hfits : ∀ e ∈ b.edits, e.byteStart ≤ e.byteEnd) :
    (b.descending.IsChain fun later earlier => earlier.byteEnd ≤ later.byteStart) ↔
      b.edits.Pairwise Edit.Apart ∧ Edit.InsertLast b.edits := by
  have hfits' : ∀ e ∈ b.descending, e.byteStart ≤ e.byteEnd := fun e he =>
    hfits e (mem_descending.1 he)
  constructor
  · intro hchain
    have hpairwise := Edit.pairwise_of_isChain hfits' hchain
    constructor
    · exact apart_of_pairwise_descending hpairwise
    · refine List.pairwise_iff_forall_sublist.2 fun {x y} hxy hoffset _ => ?_
      have hend := List.pairwise_iff_forall_sublist.1 hpairwise
        ((sublist_descending_iff hoffset).2 hxy)
      have hy := hfits y (hxy.subset (by simp))
      unfold Edit.IsInsertion
      omega
  · rintro ⟨happart, hlast⟩
    refine List.Pairwise.isChain (List.pairwise_iff_forall_sublist.2 fun {x y} hxy => ?_)
    have horder := List.pairwise_iff_forall_sublist.1 b.pairwise_byteStart_descending hxy
    have hx := hfits' x (hxy.subset (by simp))
    have happart : Edit.Apart x y :=
      List.pairwise_iff_forall_sublist.1
        (happart.perm b.perm_descending.symm fun h => h.symm) hxy
    rcases happart with hbefore | hbehind
    · -- The second begins where the first ends, and no earlier than the first begins.
      have hoffset : x.byteStart = y.byteStart := by omega
      have hinsert : y.IsInsertion :=
        List.pairwise_iff_forall_sublist.1 hlast ((sublist_descending_iff hoffset).1 hxy) hoffset
          (by unfold Edit.IsInsertion; omega)
      unfold Edit.IsInsertion at hinsert
      omega
    · exact hbehind

/-! ## Results -/

/-- An order in which an insertion comes before the replacement of the span from there on does not
land. -/
theorem insertLast_of_resultOn (h : b.resultOn content = .ok out) : Edit.InsertLast b.edits := by
  obtain ⟨-, hfits, hchain, -⟩ := resultOn_eq_ok_iff.1 h
  exact ((isChain_descending_iff fun e he => (hfits e he).1).1 hchain).2

/-- Edits that do not run into each other are sorted in one way only, if no two of them insert at
one offset. -/
theorem descending_eq_of_perm (hperm : b.edits.Perm b'.edits) (honce : Edit.InsertOnce b.edits)
    (hfits : ∀ e ∈ b.edits, e.byteStart ≤ e.byteEnd)
    (h : b.descending.Pairwise fun later earlier => earlier.byteEnd ≤ later.byteStart)
    (h' : b'.descending.Pairwise fun later earlier => earlier.byteEnd ≤ later.byteStart) :
    b.descending = b'.descending := by
  have hperm' : b.descending.Perm b'.descending :=
    b.perm_descending.trans (hperm.trans b'.perm_descending.symm)
  refine List.Perm.eq_of_pairwise ?_ h h' hperm'
  intro x y hx hy hxy hyx
  -- Each ends before the other begins, so both insert, and at the same offset.
  have hx := mem_descending.1 hx
  have hy := hperm.mem_iff.2 (mem_descending.1 hy)
  have hspanX := hfits x hx
  have hspanY := hfits y hy
  exact honce.eq hx hy (by omega) (by unfold Edit.IsInsertion; omega)
    (by unfold Edit.IsInsertion; omega)

/-- Another order of edits that land lands as well, with the same result, if no insertion comes
before the replacement of the span from there on. -/
theorem resultOn_of_perm (hpin : b.pin = b'.pin) (hperm : b.edits.Perm b'.edits)
    (honce : Edit.InsertOnce b.edits) (hlast : Edit.InsertLast b'.edits)
    (h : b.resultOn content = .ok out) : b'.resultOn content = .ok out := by
  obtain ⟨hpinned, hfits, hchain, hout, htext⟩ := resultOn_eq_ok_iff.1 h
  have hspan : ∀ e ∈ b.edits, e.byteStart ≤ e.byteEnd := fun e he => (hfits e he).1
  have hspan' : ∀ e ∈ b'.edits, e.byteStart ≤ e.byteEnd := fun e he =>
    hspan e (hperm.mem_iff.2 he)
  have happart : b'.edits.Pairwise Edit.Apart :=
    ((isChain_descending_iff hspan).1 hchain).1.perm hperm fun h => h.symm
  have hchain' := (isChain_descending_iff hspan').2 ⟨happart, hlast⟩
  have hsort : b.descending = b'.descending :=
    descending_eq_of_perm hperm honce hspan (pairwise_descending_of_resultOn h)
      (Edit.pairwise_of_isChain (fun e he => hspan' e (mem_descending.1 he)) hchain')
  refine resultOn_eq_ok_iff.2 ⟨?_, fun e he => hfits e (hperm.mem_iff.2 he), hchain', ?_, htext⟩
  · unfold PinHolds at hpinned ⊢
    rwa [← hpin]
  · rwa [← hsort]

end FileEdits

namespace World

variable {w : World} {b b' : FileEdits}

/-- Both batches of edits fail and leave the world as it was, or both give the same answer and leave
the same world. -/
def SameOutcome (w : World) (b b' : FileEdits) : Prop :=
  (∃ cause cause', w.applyEdits b = (.error cause, w) ∧ w.applyEdits b' = (.error cause', w)) ∨
    w.applyEdits b = w.applyEdits b'

/-- What edits do depends on their file and number, and on what they make of the content. -/
theorem applyEdits_congr (hfile : b.file = b'.file) (hlength : b.edits.length = b'.edits.length)
    (h : ∀ d, w.read b.file = .ok d → b.resultOn d = b'.resultOn d) :
    w.applyEdits b = w.applyEdits b' := by
  by_cases hnil : b.edits = []
  · have hnil' : b'.edits = [] := List.eq_nil_of_length_eq_zero (by rw [← hlength, hnil]; rfl)
    rw [applyEdits_of_nil hnil, applyEdits_of_nil hnil', hfile]
  · have hsome : ¬ b.edits.isEmpty = true := by simpa using hnil
    have hsome' : ¬ b'.edits.isEmpty = true := by
      rw [List.isEmpty_iff, ← List.length_eq_zero_iff, ← hlength, List.length_eq_zero_iff]
      exact hnil
    rw [applyEdits, applyEdits, FileEdits.apply, FileEdits.apply, if_neg hsome, if_neg hsome',
      StateT.run_bind, StateT.run_bind, host_read, host_read, ← hfile, ← hlength]
    cases hread : w.read b.file with
    | error cause => rfl
    | ok d => simp only [pure_bind, h d hread]

/-- Two orders of the same edits, of which no two insert at one offset and in neither of which an
insertion comes before the replacement of the span from there on, have the same outcome. -/
theorem sameOutcome_of_perm (hfile : b.file = b'.file) (hpin : b.pin = b'.pin)
    (hperm : b.edits.Perm b'.edits) (honce : Edit.InsertOnce b.edits)
    (hlast : Edit.InsertLast b.edits) (hlast' : Edit.InsertLast b'.edits) :
    w.SameOutcome b b' := by
  by_cases hnil : b.edits = []
  · have hnil' : b'.edits = [] := by
      rw [hnil] at hperm
      exact hperm.nil_eq.symm
    rw [SameOutcome, applyEdits_of_nil hnil, applyEdits_of_nil hnil', hfile]
    exact Or.inr rfl
  have hsome : b.edits.isEmpty = false := by simpa using hnil
  have hsome' : b'.edits.isEmpty = false := by
    rw [List.isEmpty_eq_false_iff]
    rintro hnil'
    rw [hnil'] at hperm
    exact hnil hperm.eq_nil
  -- Orders that make the same of the content have the same outcome, whatever is refused.
  have hcongr (h : ∀ d, w.read b.file = .ok d → b.resultOn d = b'.resultOn d) :
      w.SameOutcome b b' := Or.inr (applyEdits_congr hfile hperm.length_eq h)
  cases hread : w.read b.file with
  | error cause =>
    refine hcongr fun d hd => ?_
    rw [hread] at hd
    cases hd
  | ok d =>
    have hread' : w.read b'.file = .ok d := by rwa [← hfile]
    cases hresult : b.resultOn d with
    | ok out =>
      have hlands := FileEdits.resultOn_of_perm hpin hperm honce hlast' hresult
      refine hcongr fun d' hd => ?_
      obtain rfl := Except.ok.inj (hread.symm.trans hd)
      rw [hlands, hresult]
    | error cause =>
      cases hresult' : b'.resultOn d with
      | ok out =>
        -- The second order lands, so the first would have landed as well.
        have hlands := FileEdits.resultOn_of_perm hpin.symm hperm.symm (honce.perm hperm) hlast
          hresult'
        rw [hresult] at hlands
        cases hlands
      | error cause' =>
        exact Or.inl ⟨cause, cause', applyEdits_of_error hsome hread hresult,
          applyEdits_of_error hsome' hread' hresult'⟩

/-- An order in which an insertion comes before the replacement of the span from there on fails. -/
theorem fails_of_not_insertLast (h : ¬ Edit.InsertLast b.edits) :
    ∃ cause, w.applyEdits b = (.error cause, w) := by
  rcases applyEdits_cases w b with ⟨hnil, -⟩ | ⟨-, cause, hcase, -⟩ |
    ⟨-, old, out, w', loc, -, hresult, -⟩
  · rw [hnil] at h
    exact absurd List.Pairwise.nil h
  · exact ⟨cause, hcase⟩
  · exact absurd (FileEdits.insertLast_of_resultOn hresult) h

/-- Edits of which no two insert at one offset, pushed in two orders: if in neither an insertion
comes before the replacement of the span from there on, both fail, and the world stays as it was, or
both come to the same end and leave the same content. An order in which one does fails. -/
theorem outcome_of_perm (w : World) (file : String) (pin : Option Verification)
    {es es' : List Edit} (hperm : es.Perm es') (honce : Edit.InsertOnce es) :
    (Edit.InsertLast es → Edit.InsertLast es' →
      w.SameOutcome (.ofPushes file pin es) (.ofPushes file pin es')) ∧
    (¬ Edit.InsertLast es' →
      ∃ cause, w.applyEdits (.ofPushes file pin es') = (.error cause, w)) := by
  rw [FileEdits.ofPushes_eq, FileEdits.ofPushes_eq]
  constructor
  · intro hlast hlast'
    exact sameOutcome_of_perm rfl rfl hperm honce hlast hlast'
  · intro hfirst
    exact fails_of_not_insertLast hfirst

/-- Two words are replaced and one is put in before the first; the replacements may change places,
and the insertion may come after any of them that it comes after. -/
theorem outcome_of_perm_line :
    (ofFile "notes.rs" "one two").SameOutcome
      (.ofPushes "notes.rs" none [.ofText 0 3 "1" "one", .ofText 0 0 "<" "", .ofText 4 7 "2" "two"])
      (.ofPushes "notes.rs" none
        [.ofText 4 7 "2" "two", .ofText 0 3 "1" "one", .ofText 0 0 "<" ""]) :=
  (outcome_of_perm (ofFile "notes.rs" "one two") "notes.rs" none (by decide +kernel)
    (by decide +kernel)).1 (by decide +kernel) (by decide +kernel)

/-- An insertion at the beginning of a word that is replaced. -/
def insertion : Edit := .ofText 0 0 "x" ""

/-- The replacement of the word. -/
def replacement : Edit := .ofText 0 1 "y" "a"

/-- Two edits that have no octet in common, and do not insert at one offset, land if the insertion
is pushed after the replacement. Pushed the other way round they are reported to overlap, and the
file stays as it was. -/
theorem insertion_first_fails :
    [insertion, replacement].Perm [replacement, insertion] ∧
    Edit.InsertOnce [insertion, replacement] ∧
    ((ofFile "notes.rs" "abc").applyEdits
      (.ofPushes "notes.rs" none [insertion, replacement])).1 = .error (.overlapping 1 0) ∧
    ((ofFile "notes.rs" "abc").applyEdits
      (.ofPushes "notes.rs" none [replacement, insertion])).2.read "notes.rs"
        = .ok (Utf8.octets "xybc") ∧
    ¬ (ofFile "notes.rs" "abc").SameOutcome
      (.ofPushes "notes.rs" none [insertion, replacement])
      (.ofPushes "notes.rs" none [replacement, insertion]) := by
  have hread : (ofFile "notes.rs" "abc").read "notes.rs" = .ok (Utf8.octets "abc") := by
    decide +kernel
  have hfails : FileEdits.resultOn ⟨"notes.rs", [insertion, replacement], none⟩ (Utf8.octets "abc")
      = .error (.overlapping 1 0) := by
    have hsort : FileEdits.descending ⟨"notes.rs", [insertion, replacement], none⟩
        = [insertion, replacement] := List.mergeSort_of_pairwise (by decide +kernel)
    rw [FileEdits.resultOn, hsort]
    decide +kernel
  have hlands : FileEdits.resultOn ⟨"notes.rs", [replacement, insertion], none⟩ (Utf8.octets "abc")
      = .ok (Utf8.octets "xybc") := by
    have hsort : FileEdits.descending ⟨"notes.rs", [replacement, insertion], none⟩
        = [replacement, insertion] := List.mergeSort_of_pairwise (by decide +kernel)
    rw [FileEdits.resultOn, hsort]
    decide +kernel
  have hfirst : (ofFile "notes.rs" "abc").applyEdits ⟨"notes.rs", [insertion, replacement], none⟩
      = (.error (.overlapping 1 0), ofFile "notes.rs" "abc") := applyEdits_of_error rfl hread hfails
  obtain ⟨w', hsecond, hafter⟩ : ∃ w', (ofFile "notes.rs" "abc").applyEdits
      ⟨"notes.rs", [replacement, insertion], none⟩ = (.ok (.applied "notes.rs" 2 4), w') ∧
      w'.read "notes.rs" = .ok (Utf8.octets "xybc") :=
    exists_applyEdits (b := ⟨"notes.rs", [replacement, insertion], none⟩) rfl
      (accepts_of_permissive rfl _) hread hlands
  rw [FileEdits.ofPushes_eq, FileEdits.ofPushes_eq]
  refine ⟨by decide +kernel, by decide +kernel, ?_, ?_, ?_⟩
  · rw [hfirst]
  · rw [hsecond]
    exact hafter
  · rintro (⟨cause, cause', -, h⟩ | h)
    · rw [hsecond] at h
      cases h
    · rw [hfirst, hsecond] at h
      cases h

end World

end SourcePatch
