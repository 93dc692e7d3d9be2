import SourcePatch.Proofs.Edit.PushOrder
import SourcePatch.Proofs.Text.Boundaries

/-!
# Edits and characters

Spans are counted in octets, so that an edit can begin or end inside a character. The texts that
edits bring are whole texts, and the content that is left around them is a text again unless
something was put into the middle of a character.

* `Edit.boundaries_of_fits`: a span that fits a text, and is not empty, begins and ends at
  boundaries of its characters.
* `Edit.isText_weave_iff`: edits make a text of a text exactly if none of them puts a text into the
  middle of a character.
* `World.invalidUtf8Edit_iff`: this is the only reason for which edits are refused that have passed
  all checks.
-/

namespace SourcePatch

open SourcePatch.Text

namespace Edit

/-- Does the edit put a text, which is not empty, into the middle of a character? -/
def InsertsInside (e : Edit) (content : Bytes) : Prop :=
  e.IsInsertion ∧ Utf8.isBoundary content e.byteStart = false ∧ e.newText ≠ ""

instance (e : Edit) (content : Bytes) : Decidable (e.InsertsInside content) :=
  inferInstanceAs (Decidable (_ ∧ _ ∧ _))

variable {e : Edit} {es : List Edit} {cs : List Char} {file : String} {pos : Nat}

/-! ## Spans -/

/-- A span that holds a text, and is not empty, begins and ends at boundaries. -/
theorem boundaries_of_octets {found : String} (hspan : e.byteStart < e.byteEnd)
    (hlength : e.byteEnd ≤ (Utf8.encode cs).length)
    (hfound : slice (Utf8.encode cs) e.byteStart e.byteEnd = Utf8.octets found) :
    Utf8.isBoundary (Utf8.encode cs) e.byteStart = true ∧
      Utf8.isBoundary (Utf8.encode cs) e.byteEnd = true := by
  have hne : found.toList ≠ [] := by
    intro hnil
    have hempty : (slice (Utf8.encode cs) e.byteStart e.byteEnd).length = 0 := by
      rw [hfound, Utf8.octets, hnil]
      rfl
    rw [slice, List.length_take, List.length_drop] at hempty
    omega
  exact Utf8.isBoundary_of_slice hne (Nat.le_of_lt hspan) hlength hfound

theorem boundaries_of_fits (h : e.Fits (Utf8.encode cs)) (hspan : e.byteStart < e.byteEnd) :
    Utf8.isBoundary (Utf8.encode cs) e.byteStart = true ∧
      Utf8.isBoundary (Utf8.encode cs) e.byteEnd = true := by
  obtain ⟨-, hlength, found, hfound, -⟩ := h
  exact boundaries_of_octets hspan hlength hfound

/-- A span that begins or ends inside a character of a text, and is not empty, is rejected. If it
lies in the text, it is rejected because it holds no text. -/
theorem exists_validate_eq_error (hspan : e.byteStart < e.byteEnd)
    (hinside : Utf8.isBoundary (Utf8.encode cs) e.byteStart = false ∨
      Utf8.isBoundary (Utf8.encode cs) e.byteEnd = false) :
    ∃ cause, e.validate file (Utf8.encode cs) = .error cause ∧
      (e.byteEnd ≤ (Utf8.encode cs).length → ∃ fault, cause = .utf8 fault) := by
  unfold validate
  by_cases hrange : e.byteStart > e.byteEnd ∨ e.byteEnd > (Utf8.encode cs).length
  · rw [if_pos hrange]
    exact ⟨_, rfl, fun hlength => by omega⟩
  · rw [if_neg hrange]
    cases hread : Utf8.decodeString
        (((Utf8.encode cs).drop e.byteStart).take (e.byteEnd - e.byteStart)) with
    | error fault => exact ⟨_, rfl, fun _ => ⟨fault, rfl⟩⟩
    | ok found =>
      have hfound := Utf8.decodeString_eq_ok_iff.1 hread
      obtain ⟨hstart, hend⟩ := boundaries_of_octets hspan (by omega) hfound
      rcases hinside with h | h
      · rw [hstart] at h
        cases h
      · rw [hend] at h
        cases h

/-! ## Weaving -/

/-- An edit that fits a text and puts nothing into the middle of a character has a span between two
boundaries, or inserts nothing. -/
theorem cases_of_not_insertsInside (hfits : e.Fits (Utf8.encode cs))
    (h : ¬ e.InsertsInside (Utf8.encode cs)) :
    (Utf8.isBoundary (Utf8.encode cs) e.byteStart = true ∧
      Utf8.isBoundary (Utf8.encode cs) e.byteEnd = true) ∨ e.IsInsertion ∧ e.newText = "" := by
  rcases Nat.lt_or_eq_of_le hfits.1 with hspan | hspan
  · exact Or.inl (boundaries_of_fits hfits hspan)
  · rw [← hspan, and_self]
    cases hboundary : Utf8.isBoundary (Utf8.encode cs) e.byteStart with
    | true => exact Or.inl rfl
    | false =>
      refine Or.inr ⟨hspan, ?_⟩
      by_contra hnew
      exact h ⟨hspan, hboundary, hnew⟩

/-- An edit that inserts nothing makes no difference. -/
theorem weave_of_empty (content : Bytes) (hinsert : e.IsInsertion) (hnew : e.newText = "")
    (hpos : pos ≤ e.byteStart) (hes : ∀ f ∈ es, e.byteEnd ≤ f.byteStart) :
    weave content pos (e :: es) = weave content pos es := by
  have hspan : e.byteStart = e.byteEnd := hinsert
  have hkept : weave content pos es
      = slice content pos e.byteStart ++ weave content e.byteStart es :=
    weave_eq_slice_append hpos (hspan ▸ hes)
  rw [weave, hnew, hkept, hspan]
  simp [Utf8.octets]

/-- With a text in the middle of a character there is no text. What stands before the new text would
have to be one, but it ends inside the character. -/
theorem not_isText_of_insertsInside (h : e.InsertsInside (Utf8.encode cs))
    (hlength : e.byteStart ≤ (Utf8.encode cs).length) (hpos : pos ≤ e.byteStart)
    (hboundary : Utf8.isBoundary (Utf8.encode cs) pos = true) (rest : Bytes) :
    ¬ Utf8.isText (slice (Utf8.encode cs) pos e.byteStart ++ (Utf8.octets e.newText ++ rest))
      = true := by
  intro htext
  obtain ⟨-, hinside, hnew⟩ := h
  have hne : e.newText.toList ≠ [] := by simpa using hnew
  have hfront := Utf8.isText_of_isText_append hne htext
  obtain ⟨xs, hxs⟩ := Utf8.exists_eq_encode
    ((Utf8.isBoundary_iff_isText_take (Nat.le_trans hpos hlength)).1 hboundary)
  have hstart : Utf8.isBoundary (Utf8.encode cs) e.byteStart = true := by
    rw [Utf8.isBoundary_iff_isText_take hlength, ← take_append_slice _ hpos, hxs,
      Utf8.isText_encode_append]
    exact hfront
  rw [hstart] at hinside
  cases hinside

/-- Edits in order, from a boundary of a text on, leave a text exactly if none of them puts a text
into the middle of a character. -/
theorem isText_weave_iff (hsorted : es.Pairwise fun a b => a.byteEnd ≤ b.byteStart)
    (hpos : ∀ e ∈ es, pos ≤ e.byteStart) (hfits : ∀ e ∈ es, e.Fits (Utf8.encode cs))
    (hboundary : Utf8.isBoundary (Utf8.encode cs) pos = true) :
    Utf8.isText (weave (Utf8.encode cs) pos es) = true ↔
      ∀ e ∈ es, ¬ e.InsertsInside (Utf8.encode cs) := by
  induction es generalizing pos with
  | nil =>
    obtain ⟨i, -, rfl⟩ := Utf8.isBoundary_iff.1 hboundary
    rw [weave, Utf8.drop_encode, Utf8.isText_encode]
    simp
  | cons e es ih =>
    obtain ⟨hfirst, hsorted⟩ := List.pairwise_cons.1 hsorted
    obtain ⟨hstart, -⟩ := List.forall_mem_cons.1 hpos
    obtain ⟨he, hfits⟩ := List.forall_mem_cons.1 hfits
    rw [List.forall_mem_cons]
    by_cases hinside : e.InsertsInside (Utf8.encode cs)
    · have hnot := not_isText_of_insertsInside hinside (Nat.le_trans he.1 he.2.1) hstart hboundary
        (weave (Utf8.encode cs) e.byteEnd es)
      rw [weave, List.append_assoc]
      constructor
      · intro htext
        exact absurd htext hnot
      · intro h
        exact absurd hinside h.1
    · rcases cases_of_not_insertsInside he hinside with ⟨hspanStart, hspanEnd⟩ | ⟨hinsert, hnew⟩
      · -- Gap and new text are texts, so what is behind the span decides.
        obtain ⟨gap, hgap⟩ := Utf8.exists_slice_eq_encode hstart hboundary hspanStart
        rw [weave, hgap, List.append_assoc, Utf8.octets, Utf8.isText_encode_append,
          Utf8.isText_encode_append, ih hsorted hfirst hfits hspanEnd]
        exact ⟨fun h => ⟨hinside, h⟩, fun h => h.2⟩
      · -- The edit may lie inside a character, but then it leaves the content as it is.
        have hpos : ∀ f ∈ es, pos ≤ f.byteStart := fun f hf =>
          Nat.le_trans hstart (Nat.le_trans he.1 (hfirst f hf))
        rw [weave_of_empty _ hinsert hnew hstart hfirst, ih hsorted hpos hfits hboundary]
        exact ⟨fun h => ⟨hinside, h⟩, fun h => h.2⟩

end Edit

namespace FileEdits

variable {b : FileEdits} {content : Bytes}

/-- Do edits pass all that is checked of a content before they are spliced? -/
structure Cleared (b : FileEdits) (content : Bytes) : Prop where
  pin : b.checkPin content = .ok ()
  spans : validateAll b.file content b.descending = .ok ()
  overlap : checkOverlap b.descending = .ok ()

namespace Cleared

/-- Of edits that have passed all checks only the spliced content is left to be looked at. -/
theorem resultOn (h : b.Cleared content) :
    b.resultOn content = if Utf8.isText (b.descending.foldl Edit.splice content)
      then .ok (b.descending.foldl Edit.splice content) else .error .invalidUtf8Edit := by
  rw [FileEdits.resultOn, h.pin, h.spans, h.overlap]
  rfl

theorem fits (h : b.Cleared content) : ∀ e ∈ b.descending, e.Fits content :=
  validateAll_eq_ok_iff.1 h.spans

theorem pairwise (h : b.Cleared content) :
    b.descending.Pairwise fun later earlier => earlier.byteEnd ≤ later.byteStart :=
  Edit.pairwise_of_isChain (fun e he => (h.fits e he).1) (checkOverlap_eq_ok_iff.1 h.overlap)

/-- Edits that have passed all checks leave a text exactly if none of them puts a text into the
middle of a character. -/
theorem isText_iff (h : b.Cleared content) (htext : Utf8.isText content = true) :
    Utf8.isText (b.descending.foldl Edit.splice content) = true ↔
      ∀ e ∈ b.edits, ¬ e.InsertsInside content := by
  obtain ⟨cs, rfl⟩ := Utf8.exists_eq_encode htext
  have hsorted : b.descending.reverse.Pairwise fun a b => a.byteEnd ≤ b.byteStart :=
    List.pairwise_reverse.2 h.pairwise
  have hfits : ∀ e ∈ b.descending.reverse, e.Fits (Utf8.encode cs) := fun e he =>
    h.fits e (List.mem_reverse.1 he)
  have hweave := Edit.foldr_splice hsorted fun e he => ⟨(hfits e he).1, (hfits e he).2.1⟩
  rw [List.foldr_reverse] at hweave
  rw [hweave, Edit.isText_weave_iff hsorted (fun e _ => Nat.zero_le _) hfits
    (Utf8.isBoundary_zero cs)]
  simp only [List.mem_reverse, mem_descending]

end Cleared

end FileEdits

namespace World

variable {w : World} {b : FileEdits} {content : Bytes}

/-- A text in the middle of a character is refused. -/
theorem applyEdits_of_insertsInside (htext : Utf8.isText content = true)
    (hread : w.read b.file = .ok content) (hcleared : b.Cleared content)
    (hinside : ∃ e ∈ b.edits, e.InsertsInside content) :
    w.applyEdits b = (.error .invalidUtf8Edit, w) := by
  obtain ⟨e, he, hinside⟩ := hinside
  have hsome : b.edits.isEmpty = false := by
    rw [List.isEmpty_eq_false_iff]
    exact List.ne_nil_of_mem he
  have hnot : ¬ Utf8.isText (b.descending.foldl Edit.splice content) = true := by
    intro h
    exact (hcleared.isText_iff htext).1 h e he hinside
  have hresult := hcleared.resultOn
  rw [if_neg hnot] at hresult
  exact applyEdits_of_error hsome hread hresult

/-- Without one, edits that have passed all checks succeed if the file system accepts the write. -/
theorem exists_applyEdits_of_cleared (htext : Utf8.isText content = true)
    (hread : w.read b.file = .ok content) (hcleared : b.Cleared content)
    (haccepts : w.Accepts b.file)
    (hinside : ∀ e ∈ b.edits, ¬ e.InsertsInside content) :
    ∃ result w', w.applyEdits b = (.ok result, w') ∧
      w'.read b.file = .ok (b.descending.foldl Edit.splice content) := by
  cases hedits : b.edits with
  | nil =>
    have hsort : b.descending = [] := by
      rw [FileEdits.descending, hedits, List.mergeSort_nil]
    refine ⟨_, w, applyEdits_of_nil hedits, ?_⟩
    rw [hsort]
    exact hread
  | cons e es =>
    have hsome : b.edits.isEmpty = false := by rw [hedits]; rfl
    have hresult := hcleared.resultOn
    rw [if_pos ((hcleared.isText_iff htext).2 hinside)] at hresult
    obtain ⟨w', happly, hafter⟩ := exists_applyEdits hsome haccepts hread hresult
    exact ⟨_, w', happly, hafter⟩

/-- Only the spliced content can be refused with `invalidUtf8Edit`. -/
theorem applyEdits_ne_invalidUtf8Edit {out : Bytes} (hread : w.read b.file = .ok content)
    (hresult : b.resultOn content = .ok out) : (w.applyEdits b).1 ≠ .error .invalidUtf8Edit := by
  intro hfails
  rcases applyEdits_cases w b with ⟨-, hcase⟩ | ⟨-, cause, hcase, hcause⟩ |
    ⟨-, old, out', w', loc, -, -, -, -, ⟨cause, -, hcase⟩ | hcase⟩
  · rw [hcase] at hfails
    cases hfails
  · rw [hcase] at hfails
    obtain rfl := Except.error.inj hfails
    rcases hcause content hread with hcause | ⟨refusal, hcause, -⟩
    · rw [hresult] at hcause
      cases hcause
    · cases hcause
  · rw [hcase] at hfails
    cases hfails
  · rw [hcase] at hfails
    cases hfails

/-- Edits of a text that have passed all checks are refused with `invalidUtf8Edit` exactly if one of
them puts a text into the middle of a character; if none does, and the file system accepts the
write, they succeed, and the file holds the spliced content. A span that begins or ends inside a
character, and is not empty, passes no check: it is rejected, and if it lies in the text, then
because it holds no text. -/
theorem invalidUtf8Edit_iff (htext : Utf8.isText content = true)
    (hread : w.read b.file = .ok content) :
    (b.Cleared content →
      ((w.applyEdits b).1 = .error .invalidUtf8Edit ↔ ∃ e ∈ b.edits, e.InsertsInside content) ∧
      ((¬ ∃ e ∈ b.edits, e.InsertsInside content) → w.Accepts b.file →
        ∃ result w', w.applyEdits b = (.ok result, w') ∧
          w'.read b.file = .ok (b.descending.foldl Edit.splice content))) ∧
    ∀ e : Edit, e.byteStart < e.byteEnd →
      Utf8.isBoundary content e.byteStart = false ∨ Utf8.isBoundary content e.byteEnd = false →
      ∃ cause, e.validate b.file content = .error cause ∧
        (e.byteEnd ≤ content.length → ∃ fault, cause = .utf8 fault) := by
  constructor
  · intro hcleared
    refine ⟨⟨?_, ?_⟩, ?_⟩
    · intro hfails
      by_contra hnone
      have hresult := hcleared.resultOn
      have htext' := (hcleared.isText_iff htext).2 fun e he hinside => hnone ⟨e, he, hinside⟩
      rw [if_pos htext'] at hresult
      exact applyEdits_ne_invalidUtf8Edit hread hresult hfails
    · intro hinside
      rw [applyEdits_of_insertsInside htext hread hcleared hinside]
    · intro hnone haccepts
      exact exists_applyEdits_of_cleared htext hread hcleared haccepts
        fun e he hinside => hnone ⟨e, he, hinside⟩
  · intro e hspan hinside
    obtain ⟨cs, rfl⟩ := Utf8.exists_eq_encode htext
    exact Edit.exists_validate_eq_error hspan hinside

/-- Edits of the text "aé": its first letter is replaced, and a text is put between the two octets
of the second one. -/
def accentEdits (inserted : String) : FileEdits where
  file := "notes.rs"
  edits := [.ofText 2 2 inserted "", .ofText 0 1 "b" "a"]

theorem cleared_accentEdits (inserted : String) :
    (accentEdits inserted).Cleared (Utf8.octets "aé") := by
  have hsort : (accentEdits inserted).descending = (accentEdits inserted).edits :=
    List.mergeSort_of_pairwise (by simp [accentEdits, Edit.ofText])
  refine ⟨rfl, ?_, ?_⟩
  · rw [FileEdits.validateAll_eq_ok_iff, hsort]
    have hlength : 2 ≤ (Utf8.octets "aé").length := by decide +kernel
    have hempty : (Edit.ofText 2 2 inserted "").Fits (Utf8.octets "aé") :=
      ⟨Nat.le_refl 2, hlength, "", rfl, Verification.accepts_ofText ""⟩
    have hletter : (Edit.ofText 0 1 "b" "a").Fits (Utf8.octets "aé") :=
      ⟨Nat.zero_le 1, Nat.le_of_succ_le hlength, "a", by decide +kernel,
        Verification.accepts_ofText "a"⟩
    simp [accentEdits, hempty, hletter]
  · rw [hsort]
    rfl

/-- Between the octets of a letter nothing can be put but an empty text, and neither of the octets
can be replaced on its own. -/
theorem invalidUtf8Edit_iff_accent :
    ((ofFile "notes.rs" "aé").applyEdits (accentEdits "x")).1 = .error .invalidUtf8Edit ∧
    (∃ result w', (ofFile "notes.rs" "aé").applyEdits (accentEdits "") = (.ok result, w') ∧
      w'.read "notes.rs" = .ok (Utf8.octets "bé")) ∧
    ∃ fault, (Edit.ofText 1 2 "e" "").validate "notes.rs" (Utf8.octets "aé")
      = .error (.utf8 fault) := by
  have htext : Utf8.isText (Utf8.octets "aé") = true := by decide +kernel
  have hread : (ofFile "notes.rs" "aé").read "notes.rs" = .ok (Utf8.octets "aé") := by
    decide +kernel
  obtain ⟨hrefused, hspan⟩ := invalidUtf8Edit_iff (b := accentEdits "x") htext hread
  obtain ⟨happlied, -⟩ := invalidUtf8Edit_iff (b := accentEdits "") htext hread
  refine ⟨?_, ?_, ?_⟩
  · rw [(hrefused (cleared_accentEdits "x")).1]
    exact ⟨.ofText 2 2 "x" "", by simp [accentEdits], by decide +kernel⟩
  · obtain ⟨result, w', happly, hafter⟩ :=
      (happlied (cleared_accentEdits "")).2 (by decide +kernel) (accepts_of_permissive rfl _)
    refine ⟨result, w', happly, hafter.trans ?_⟩
    have hsort : (accentEdits "").descending = (accentEdits "").edits :=
      List.mergeSort_of_pairwise (by decide +kernel)
    rw [hsort]
    decide +kernel
  · obtain ⟨cause, hvalidate, hfault⟩ := hspan (.ofText 1 2 "e" "") (by decide) (by decide +kernel)
    obtain ⟨fault, rfl⟩ := hfault (by decide +kernel)
    exact ⟨fault, hvalidate⟩

end World

end SourcePatch
