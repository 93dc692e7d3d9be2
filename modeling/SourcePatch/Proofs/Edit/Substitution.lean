import SourcePatch.Proofs.Edit.Weaving

/-!
# Edits as one substitution

However edits come, and in whatever order they are spliced one after another, those that land
replace all their spans at once.

* `Edit.Substitution` is the content cut into gaps and spans, and put together again with the new
  texts in the place of the spans.
* `FileEdits.substitution_of_resultOn`: what lands is the substitution of all edits, in the order
  of their spans.
* `FileEdits.apart_of_resultOn`: no two spans that land have an octet in common, though an edit is
  compared with the next one only.
* `FileEdits.splicesInPlace_of_resultOn`: each splice finds its span where the edit was checked.
-/

namespace SourcePatch

open SourcePatch.Text

namespace Edit

/-- What some edits make of a content that begins at the offset `pos`: the content is gaps and
spans in turn, and the result has the same gaps with the new texts between them. Each span is where
its edit says and holds what is expected there. -/
inductive Substitution : (pos : Nat) → Bytes → List Edit → Bytes → Prop
  | done (pos : Nat) (gap : Bytes) : Substitution pos gap [] gap
  | next {pos : Nat} {gap span rest out : Bytes} {e : Edit} {es : List Edit}
      (first : e.byteStart = pos + gap.length) (last : e.byteEnd = e.byteStart + span.length)
      (found : ∃ found, span = Utf8.octets found ∧ e.expected.accepts found = true)
      (behind : Substitution e.byteEnd rest es out) :
      Substitution pos (gap ++ span ++ rest) (e :: es) (gap ++ Utf8.octets e.newText ++ out)

/-- Does one of two spans end before the other begins? -/
def Apart (a b : Edit) : Prop := a.byteEnd ≤ b.byteStart ∨ b.byteEnd ≤ a.byteStart

theorem Apart.symm {a b : Edit} (h : Apart a b) : Apart b a := Or.symm h

/-- Edits in order are substituted by weaving. -/
theorem substitution_weave {content : Bytes} {pos : Nat} {es : List Edit}
    (hsorted : es.Pairwise fun a b => a.byteEnd ≤ b.byteStart)
    (hpos : ∀ e ∈ es, pos ≤ e.byteStart) (hfits : ∀ e ∈ es, e.Fits content) :
    Substitution pos (content.drop pos) es (weave content pos es) := by
  induction es generalizing pos with
  | nil => exact .done pos _
  | cons e es ih =>
    obtain ⟨hfirst, hsorted⟩ := List.pairwise_cons.1 hsorted
    obtain ⟨hgap, -⟩ := List.forall_mem_cons.1 hpos
    obtain ⟨⟨hspan, hlast, found⟩, hfits⟩ := List.forall_mem_cons.1 hfits
    have hcut : content.drop pos = slice content pos e.byteStart
        ++ slice content e.byteStart e.byteEnd ++ content.drop e.byteEnd := by
      rw [List.append_assoc, slice_append_drop content hspan, slice_append_drop content hgap]
    have hgapLength : (slice content pos e.byteStart).length = e.byteStart - pos := by
      rw [slice, List.length_take, List.length_drop]
      omega
    have hspanLength : (slice content e.byteStart e.byteEnd).length = e.byteEnd - e.byteStart := by
      rw [slice, List.length_take, List.length_drop]
      omega
    rw [weave, hcut]
    exact .next (by omega) (by omega) found (ih hsorted hfirst hfits)

/-- Neighbours that do not run into each other are enough: no edit runs into any later one, for
spans end behind their beginning. -/
theorem pairwise_of_isChain {es : List Edit} (hspan : ∀ e ∈ es, e.byteStart ≤ e.byteEnd)
    (h : es.IsChain fun later earlier => earlier.byteEnd ≤ later.byteStart) :
    es.Pairwise fun later earlier => earlier.byteEnd ≤ later.byteStart := by
  induction es with
  | nil => exact .nil
  | cons e es ih =>
    obtain ⟨-, hspans⟩ := List.forall_mem_cons.1 hspan
    have hrest := ih hspans h.tail
    refine List.pairwise_cons.2 ⟨fun a ha => ?_, hrest⟩
    cases es with
    | nil => cases ha
    | cons f fs =>
      -- the next edit stands between
      have hnext := (List.isChain_cons_cons.1 h).1
      rcases List.mem_cons.1 ha with rfl | ha
      · exact hnext
      · have hbehind := (List.pairwise_cons.1 hrest).1 a ha
        have hf := hspans f List.mem_cons_self
        omega

/-- Splices from an offset on leave what lies before it as it was. -/
theorem take_foldl_splice {content : Bytes} {offset : Nat} {es : List Edit}
    (hlength : offset ≤ content.length) (hes : ∀ e ∈ es, offset ≤ e.byteStart) :
    (es.foldl splice content).take offset = content.take offset ∧
      offset ≤ (es.foldl splice content).length := by
  induction es generalizing content with
  | nil => exact ⟨rfl, hlength⟩
  | cons e es ih =>
    obtain ⟨he, hes⟩ := List.forall_mem_cons.1 hes
    have hkept : offset ≤ (content.take e.byteStart).length := by
      rw [List.length_take]
      omega
    have hsplice : offset ≤ (splice content e).length := by
      rw [splice, List.append_assoc, List.length_append]
      omega
    obtain ⟨htake, hrest⟩ := ih hsplice hes
    refine ⟨?_, hrest⟩
    rw [List.foldl_cons, htake, splice, List.append_assoc, List.take_append_of_le_length hkept,
      List.take_take, Nat.min_eq_left he]

end Edit

namespace FileEdits

variable {b : FileEdits} {content out : Bytes}

/-- Does every splice find the span that its edit was checked against, although the splices before
it have changed the length of the content? -/
def SplicesInPlace (b : FileEdits) (content : Bytes) : Prop :=
  ∀ spliced e rest, b.descending = spliced ++ e :: rest →
    e.byteEnd ≤ (spliced.foldl Edit.splice content).length ∧
      slice (spliced.foldl Edit.splice content) e.byteStart e.byteEnd
        = slice content e.byteStart e.byteEnd

/-- Edits that land do not run into each other. -/
theorem pairwise_descending_of_resultOn (h : b.resultOn content = .ok out) :
    b.descending.Pairwise fun later earlier => earlier.byteEnd ≤ later.byteStart := by
  obtain ⟨-, hfits, hchain, -⟩ := resultOn_eq_ok_iff.1 h
  exact Edit.pairwise_of_isChain (fun e he => (hfits e (mem_descending.1 he)).1) hchain

/-- Edits that do not run into each other where they are sorted are apart in any order. -/
theorem apart_of_pairwise_descending
    (h : b.descending.Pairwise fun later earlier => earlier.byteEnd ≤ later.byteStart) :
    b.edits.Pairwise Edit.Apart := by
  have happart : b.descending.Pairwise Edit.Apart := h.imp fun h => Or.inr h
  exact happart.perm b.perm_descending fun h => h.symm

/-- No two spans that land have an octet in common. -/
theorem apart_of_resultOn (h : b.resultOn content = .ok out) : b.edits.Pairwise Edit.Apart :=
  apart_of_pairwise_descending (pairwise_descending_of_resultOn h)

/-- What lands is the content with the spans of all edits replaced at once. -/
theorem substitution_of_resultOn (h : b.resultOn content = .ok out) :
    Edit.Substitution 0 content b.descending.reverse out := by
  obtain ⟨-, hfits, -, rfl, -⟩ := resultOn_eq_ok_iff.1 h
  have hsorted : b.descending.reverse.Pairwise fun a b => a.byteEnd ≤ b.byteStart :=
    List.pairwise_reverse.2 (pairwise_descending_of_resultOn h)
  have hfits : ∀ e ∈ b.descending.reverse, e.Fits content := fun e he =>
    hfits e (mem_descending.1 (List.mem_reverse.1 he))
  have hweave := Edit.foldr_splice hsorted fun e he => ⟨(hfits e he).1, (hfits e he).2.1⟩
  rw [List.foldr_reverse] at hweave
  rw [hweave]
  exact Edit.substitution_weave hsorted (fun e _ => Nat.zero_le _) hfits

/-- No splice of edits that land uses an offset that an earlier one has moved. -/
theorem splicesInPlace_of_resultOn (h : b.resultOn content = .ok out) :
    b.SplicesInPlace content := by
  intro spliced e rest hsplit
  obtain ⟨-, hfits, -⟩ := resultOn_eq_ok_iff.1 h
  have he : e.Fits content := hfits e (mem_descending.1 (by rw [hsplit]; simp))
  have hbehind : ∀ a ∈ spliced, e.byteEnd ≤ a.byteStart := by
    intro a ha
    have hpairwise := pairwise_descending_of_resultOn h
    rw [hsplit] at hpairwise
    exact (List.pairwise_append.1 hpairwise).2.2 a ha e List.mem_cons_self
  obtain ⟨htake, hlength⟩ := Edit.take_foldl_splice he.2.1 hbehind
  refine ⟨hlength, ?_⟩
  -- a slice up to an offset is a part of what lies before it
  rw [slice, ← List.drop_take, htake, List.drop_take]
  rfl

end FileEdits

end SourcePatch
