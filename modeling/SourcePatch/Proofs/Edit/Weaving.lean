import Mathlib.Data.List.Chain
import SourcePatch.Edit.FileEdits
import SourcePatch.Proofs.Text.Octets

/-!
# Landing edits at once

`FileEdits.resultOn` splices its edits one after another, from the end of the content to its
beginning. Here its result is described without the order of the splices.

* `Edit.Fits` and `FileEdits.PinHolds` are what is checked, `Edit.weave` is the content in which
  all spans are replaced in one pass from left to right.
* `FileEdits.resultOn_eq_ok_iff`: edits land exactly if all checks hold and the result is text.
* `FileEdits.resultOn_eq_ok_iff_weave`: for edits that come in order, the result is the weave.
-/

namespace SourcePatch

open SourcePatch.Text

namespace Edit

/-- Does the span lie in the content and hold what is expected? -/
def Fits (e : Edit) (content : Bytes) : Prop :=
  e.byteStart ≤ e.byteEnd ∧ e.byteEnd ≤ content.length ∧
    ∃ found, slice content e.byteStart e.byteEnd = Utf8.octets found ∧
      e.expected.accepts found = true

/-- Does the span of one edit lie before that of another? -/
def Precedes (a b : Edit) : Prop := a.byteStart < b.byteStart ∧ a.byteEnd ≤ b.byteStart

/-- The content from position `pos` on with the spans of some edits replaced. The edits come in
the order of their spans. -/
def weave (content : Bytes) : (pos : Nat) → List Edit → Bytes
  | pos, [] => content.drop pos
  | pos, e :: es =>
    slice content pos e.byteStart ++ Utf8.octets e.newText ++ weave content e.byteEnd es

/-! ## Single edits -/

theorem validate_eq_ok_iff {e : Edit} {file : String} {content : Bytes} :
    e.validate file content = .ok () ↔ e.Fits content := by
  unfold validate Fits
  split
  · rename_i hrange
    constructor
    · intro h
      cases h
    · rintro ⟨h1, h2, -⟩
      omega
  · rename_i hrange
    have hrange : e.byteStart ≤ e.byteEnd ∧ e.byteEnd ≤ content.length := by omega
    have hslice : slice content e.byteStart e.byteEnd
        = (content.drop e.byteStart).take (e.byteEnd - e.byteStart) := rfl
    rw [← hslice]
    cases hread : Utf8.decodeString (slice content e.byteStart e.byteEnd) with
    | error cause =>
      simp only [reduceCtorEq, false_iff]
      rintro ⟨-, -, found, hfound, -⟩
      rw [Utf8.decodeString_eq_ok_iff.2 hfound] at hread
      cases hread
    | ok current =>
      have hcurrent := Utf8.decodeString_eq_ok_iff.1 hread
      by_cases haccepts : e.expected.accepts current = true
      · simp only [haccepts, if_true, true_iff]
        exact ⟨hrange.1, hrange.2, current, hcurrent, haccepts⟩
      · simp only [haccepts, if_false, reduceCtorEq, false_iff]
        rintro ⟨-, -, found, hfound, hacc⟩
        rw [Utf8.octets_inj (hcurrent.symm.trans hfound)] at haccepts
        exact haccepts hacc

/-- A span that does not fit is never reported as an overlap. -/
theorem validate_ne_overlapping {e : Edit} {file : String} {content : Bytes} {x y : Nat} :
    e.validate file content ≠ .error (.overlapping x y) := by
  unfold validate
  split
  · simp
  · split
    · simp
    · split <;> simp

/-- What lies before the first span is kept. -/
theorem weave_eq_slice_append {content : Bytes} {a b : Nat} (hab : a ≤ b)
    {es : List Edit} (hes : ∀ e ∈ es, b ≤ e.byteStart) :
    weave content a es = slice content a b ++ weave content b es := by
  cases es with
  | nil => rw [weave, weave, slice_append_drop content hab]
  | cons e es =>
    have hb : b ≤ e.byteStart := hes e (List.mem_cons_self ..)
    rw [weave, weave, ← slice_append_slice content hab hb, List.append_assoc, List.append_assoc,
      List.append_assoc]

/-- Splicing edits in order from the last one to the first replaces all their spans, and what lies
before the first is kept. -/
theorem foldr_splice {content : Bytes} {es : List Edit}
    (hsorted : es.Pairwise fun a b => a.byteEnd ≤ b.byteStart)
    (hfits : ∀ e ∈ es, e.byteStart ≤ e.byteEnd ∧ e.byteEnd ≤ content.length) :
    es.foldr (fun e acc => splice acc e) content = weave content 0 es := by
  induction es with
  | nil => rfl
  | cons e es ih =>
    obtain ⟨hfirst, hrest⟩ := List.pairwise_cons.1 hsorted
    obtain ⟨he, hes⟩ := List.forall_mem_cons.1 hfits
    have hlength : (slice content 0 e.byteEnd).length = e.byteEnd := by
      simp [slice, he.2]
    -- the splices behind `e` leave the content up to its end as it was
    have htail : es.foldr (fun e acc => splice acc e) content
        = slice content 0 e.byteEnd ++ weave content e.byteEnd es := by
      rw [ih hrest hes, weave_eq_slice_append (Nat.zero_le _) hfirst]
    rw [List.foldr_cons, htail, splice, weave]
    congr 1
    · congr 1
      rw [List.take_append_of_le_length (by omega)]
      rw [slice, List.drop_zero, Nat.sub_zero, List.take_take, Nat.min_eq_left he.1]
      rfl
    · rw [List.drop_append_of_le_length (by omega), List.drop_of_length_le (by omega)]
      rfl

end Edit

namespace FileEdits

/-- Does the whole content pass the pin, if there is one? -/
def PinHolds (b : FileEdits) (content : Bytes) : Prop :=
  ∀ pin ∈ b.pin, ∃ current, content = Utf8.octets current ∧ pin.accepts current = true

/-! ## The checks -/

theorem checkPin_eq_ok_iff {b : FileEdits} {content : Bytes} :
    b.checkPin content = .ok () ↔ b.PinHolds content := by
  unfold checkPin PinHolds
  cases hpin : b.pin with
  | none => simp
  | some pin =>
    simp only [Option.mem_def, Option.some.injEq, forall_eq']
    cases hread : Utf8.decodeString content with
    | error cause =>
      simp only [reduceCtorEq, false_iff]
      rintro ⟨current, hcurrent, -⟩
      rw [Utf8.decodeString_eq_ok_iff.2 hcurrent] at hread
      cases hread
    | ok current =>
      have hcurrent := Utf8.decodeString_eq_ok_iff.1 hread
      constructor
      · intro h
        by_cases hacc : pin.accepts current = true
        · exact ⟨current, hcurrent, hacc⟩
        · simp [hacc] at h
      · rintro ⟨found, hfound, hacc⟩
        rw [Utf8.octets_inj (hcurrent.symm.trans hfound)]
        simp [hacc]

theorem checkPin_ne_overlapping {b : FileEdits} {content : Bytes} {x y : Nat} :
    b.checkPin content ≠ .error (.overlapping x y) := by
  unfold checkPin
  split
  · simp
  · split
    · simp
    · split <;> simp

theorem validateAll_eq_ok_iff {file : String} {content : Bytes} {es : List Edit} :
    validateAll file content es = .ok () ↔ ∀ e ∈ es, e.Fits content := by
  induction es with
  | nil => simp [validateAll]
  | cons e es ih =>
    have he : e.validate file content = .ok () ↔ e.Fits content := Edit.validate_eq_ok_iff
    rw [List.forall_mem_cons, ← he, ← ih, validateAll]
    cases e.validate file content with
    | error cause => simp [bind, Except.bind]
    | ok u => simp [bind, Except.bind]

theorem validateAll_ne_overlapping {file : String} {content : Bytes} {es : List Edit} {x y : Nat} :
    validateAll file content es ≠ .error (.overlapping x y) := by
  induction es with
  | nil => simp [validateAll]
  | cons e es ih =>
    rw [validateAll]
    cases he : e.validate file content with
    | error cause =>
      intro h
      obtain rfl := Except.error.inj h
      exact Edit.validate_ne_overlapping he
    | ok u => exact ih

theorem checkOverlap_eq_ok_iff {es : List Edit} :
    checkOverlap es = .ok () ↔ es.IsChain fun later earlier => earlier.byteEnd ≤ later.byteStart := by
  fun_induction checkOverlap es with
  | case1 later earlier es h =>
    simp only [reduceCtorEq, List.isChain_cons_cons, false_iff]
    omega
  | case2 later earlier es h ih =>
    rw [ih, List.isChain_cons_cons]
    constructor
    · intro hchain
      exact ⟨by omega, hchain⟩
    · exact fun hchain => hchain.2
  | case3 es hes =>
    match es, hes with
    | [], _ => simp
    | [e], _ => simp
    | later :: earlier :: es, hes => exact absurd rfl (hes later earlier es)

/-! ## The result -/

theorem mem_descending {b : FileEdits} {e : Edit} : e ∈ b.descending ↔ e ∈ b.edits :=
  List.mem_mergeSort

theorem perm_descending (b : FileEdits) : b.descending.Perm b.edits := List.mergeSort_perm _ _

theorem beginsBehind_trans (x y z : Edit) (hxy : decide (y.byteStart ≤ x.byteStart) = true)
    (hyz : decide (z.byteStart ≤ y.byteStart) = true) :
    decide (z.byteStart ≤ x.byteStart) = true := by
  simp only [decide_eq_true_eq] at hxy hyz ⊢
  omega

theorem beginsBehind_total (x y : Edit) :
    (decide (y.byteStart ≤ x.byteStart) || decide (x.byteStart ≤ y.byteStart)) = true := by
  simp only [Bool.or_eq_true, decide_eq_true_eq]
  omega

theorem pairwise_byteStart_descending (b : FileEdits) :
    b.descending.Pairwise fun later earlier => earlier.byteStart ≤ later.byteStart :=
  (List.pairwise_mergeSort beginsBehind_trans beginsBehind_total b.edits).imp of_decide_eq_true

/-- Edits land exactly if the pin and every span hold, no edit runs into the next one, and the
spliced content is text. -/
theorem resultOn_eq_ok_iff {b : FileEdits} {content out : Bytes} :
    b.resultOn content = .ok out ↔
      b.PinHolds content ∧ (∀ e ∈ b.edits, e.Fits content) ∧
        (b.descending.IsChain fun later earlier => earlier.byteEnd ≤ later.byteStart) ∧
        out = b.descending.foldl Edit.splice content ∧ Utf8.isText out = true := by
  have hfits : (∀ e ∈ b.edits, e.Fits content) ↔
      validateAll b.file content b.descending = .ok () := by
    rw [validateAll_eq_ok_iff]
    exact ⟨fun h e he => h e (mem_descending.1 he), fun h e he => h e (mem_descending.2 he)⟩
  rw [← checkPin_eq_ok_iff, hfits, ← checkOverlap_eq_ok_iff, resultOn]
  cases b.checkPin content with
  | error cause => simp [bind, Except.bind]
  | ok u =>
    cases validateAll b.file content b.descending with
    | error cause => simp [bind, Except.bind]
    | ok u =>
      cases checkOverlap b.descending with
      | error cause => simp [bind, Except.bind]
      | ok u =>
        by_cases htext : Utf8.isText (b.descending.foldl Edit.splice content) = true
        · simp only [bind, Except.bind, htext, if_true, pure, Except.pure, Except.ok.injEq,
            true_and]
          constructor
          · rintro rfl
            exact ⟨rfl, htext⟩
          · exact fun h => h.1.symm
        · simp only [bind, Except.bind, htext, if_false, throw, throwThe, MonadExceptOf.throw,
            reduceCtorEq, true_and, false_iff]
          rintro ⟨rfl, h⟩
          exact htext h

/-- An overlap is reported only where an edit runs into the next one. -/
theorem not_isChain_of_resultOn {b : FileEdits} {content : Bytes} {x y : Nat}
    (h : b.resultOn content = .error (.overlapping x y)) :
    ¬ b.descending.IsChain fun later earlier => earlier.byteEnd ≤ later.byteStart := by
  intro hchain
  rw [← checkOverlap_eq_ok_iff] at hchain
  rw [resultOn] at h
  cases hpin : b.checkPin content with
  | error cause =>
    rw [hpin] at h
    obtain rfl := Except.error.inj h
    exact checkPin_ne_overlapping hpin
  | ok u =>
    cases hall : validateAll b.file content b.descending with
    | error cause =>
      rw [hpin, hall] at h
      obtain rfl := Except.error.inj h
      exact validateAll_ne_overlapping hall
    | ok u =>
      rw [hpin, hall, hchain] at h
      simp only [bind, Except.bind] at h
      split at h <;> cases h

/-! ## Edits in order -/

variable {b : FileEdits} (hsorted : b.edits.Pairwise Edit.Precedes)
include hsorted

/-- Edits that come in order are spliced in the opposite order. -/
theorem descending_eq_reverse : b.descending = b.edits.reverse := by
  have hreverse : b.edits.reverse.Pairwise fun x y => y.byteStart < x.byteStart :=
    List.pairwise_reverse.2 (hsorted.imp fun h => h.1)
  have hperm : b.edits.reverse.Perm b.descending :=
    (List.reverse_perm b.edits).trans b.perm_descending.symm
  -- no two edits begin at one offset, so the order leaves no choice
  have hinj : ∀ x ∈ b.edits.reverse, ∀ y ∈ b.edits.reverse,
      y.byteStart ≤ x.byteStart → x.byteStart ≤ y.byteStart → x = y :=
    List.Pairwise.forall_of_forall_of_flip
      (R := fun x y : Edit => y.byteStart ≤ x.byteStart → x.byteStart ≤ y.byteStart → x = y)
      (fun _ _ _ _ => rfl) (hreverse.imp fun h _ hxy => by omega)
      (hreverse.imp fun h hyx _ => by omega)
  refine List.Perm.eq_of_pairwise ?_ b.pairwise_byteStart_descending (hreverse.imp Nat.le_of_lt)
    hperm.symm
  intro x y hx hy
  exact hinj x (hperm.mem_iff.2 hx) y hy

theorem isChain_descending :
    b.descending.IsChain fun later earlier => earlier.byteEnd ≤ later.byteStart := by
  rw [descending_eq_reverse hsorted, List.isChain_reverse]
  exact (hsorted.imp fun h => h.2).isChain

/-- Edits that come in order land exactly if the pin and every span hold and the weave is text,
and then the weave is the result. -/
theorem resultOn_eq_ok_iff_weave {content out : Bytes} :
    b.resultOn content = .ok out ↔
      b.PinHolds content ∧ (∀ e ∈ b.edits, e.Fits content) ∧
        out = Edit.weave content 0 b.edits ∧ Utf8.isText out = true := by
  have hsplice (hfits : ∀ e ∈ b.edits, e.Fits content) :
      b.descending.foldl Edit.splice content = Edit.weave content 0 b.edits := by
    rw [descending_eq_reverse hsorted, List.foldl_reverse]
    refine Edit.foldr_splice (hsorted.imp fun h => h.2) ?_
    exact fun e he => ⟨(hfits e he).1, (hfits e he).2.1⟩
  rw [resultOn_eq_ok_iff]
  constructor
  · rintro ⟨hpin, hfits, -, hout, htext⟩
    exact ⟨hpin, hfits, hout.trans (hsplice hfits), htext⟩
  · rintro ⟨hpin, hfits, hout, htext⟩
    exact ⟨hpin, hfits, isChain_descending hsorted, hout.trans (hsplice hfits).symm, htext⟩

/-- Edits that come in order are never reported as overlapping. -/
theorem resultOn_ne_overlapping {content : Bytes} {x y : Nat} :
    b.resultOn content ≠ .error (.overlapping x y) := by
  intro h
  exact not_isChain_of_resultOn h (isChain_descending hsorted)

end FileEdits

end SourcePatch
