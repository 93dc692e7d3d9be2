import SourcePatch.Proofs.Rule.Images
import SourcePatch.Proofs.Text.LineBreaks

/-!
# Rules on texts with carriage returns

A source in which each newline follows a carriage return has new texts of that kind if what a rule
adds is of that kind. A match that spans no line break gets the separator and the insertion as they
are, and a newline of theirs stays alone (`bare_newline_on_one_line`).

* `Site.KeepsBreaks`: nothing in the new text of a site, or on its borders, is a newline alone.
* `InsertionRule.crlfAfter_weave`: weaving keeps the line breaks of the source, one site after
  another.
* `InsertionRule.content_crlfOnly`: which new texts have no newline alone.
-/

namespace SourcePatch

open SourcePatch.Text

/-- Are all line breaks in the new text of a site carriage returns and newlines? What is added has
no others, or is rewritten since the match has one; and where the match ends within a line break,
the tail ends with its carriage return. -/
def Site.KeepsBreaks (rule : InsertionRule) (cs : List Char) (s : Site) : Prop :=
  (hasCrlf (s.text cs) = true ∨ CrlfOnly (rule.addition s.tail)) ∧
    ((cs.drop s.last).head? = some '\n' → s.tail ≠ [])

instance (rule : InsertionRule) (cs : List Char) (s : Site) : Decidable (s.KeepsBreaks rule cs) :=
  inferInstanceAs (Decidable (_ ∧ _))

namespace InsertionRule

variable {rule : InsertionRule} {cs : List Char} {s : Site} {ss : List Site}
  {front : Option Char} {skipExisting : Bool}

/-- What is added behind the head of a site. -/
theorem exists_replacementText_eq (rule : InsertionRule) (cs : List Char) (s : Site) :
    ∃ added, rule.replacementText cs s = s.head ++ added ∧
      added.getLast? = (rule.addition s.tail).getLast? ∧
      (s.KeepsBreaks rule cs → ∀ front, CrlfAfter front added) := by
  rw [replacementText]
  cases hbreak : hasCrlf (s.text cs) with
  | true =>
    refine ⟨toCrlf (rule.addition s.tail), rfl, getLast?_toCrlf _, ?_⟩
    intro _ front
    exact crlfAfter_toCrlf front _
  | false =>
    refine ⟨rule.addition s.tail, rfl, rfl, ?_⟩
    rintro ⟨hadded, -⟩ front
    rw [hbreak] at hadded
    have hadded := hadded.resolve_left Bool.false_ne_true
    exact hadded.change_front fun hhead => nomatch hadded.front_eq hhead

/-- The new text of a site goes on where its match went on. -/
theorem crlfAfter_replacementText (hexact : s.text cs = s.head ++ s.tail)
    (hkeeps : s.KeepsBreaks rule cs) (htext : CrlfAfter front (s.text cs))
    (hrest : CrlfAfter ((s.text cs).getLast?.or front) (cs.drop s.last)) :
    CrlfAfter front (rule.replacementText cs s) ∧
      CrlfAfter ((rule.replacementText cs s).getLast?.or front) (cs.drop s.last) := by
  obtain ⟨added, hnew, hlast, hadded⟩ := rule.exists_replacementText_eq cs s
  rw [hexact] at htext hrest
  rw [hnew]
  refine ⟨crlfAfter_append.2 ⟨(crlfAfter_append.1 htext).1, hadded hkeeps _⟩, ?_⟩
  refine hrest.change_front fun hhead => ?_
  -- The match ends with the carriage return, which is the last character of the tail.
  have htail := hkeeps.2 hhead
  have hreturn := hrest.front_eq hhead
  have hend : s.tail.getLast? = some '\r' := by
    rw [List.getLast?_append, List.getLast?_eq_some_getLast htail, Option.some_or,
      Option.some_or] at hreturn
    rw [List.getLast?_eq_some_getLast htail, hreturn]
  rw [List.getLast?_append, hlast, addition, List.getLast?_append, hend]
  rfl

/-- Weaving keeps the line breaks of the source. In front of the new text stands `front`. -/
theorem crlfAfter_weave {pos : Nat} (hsorted : ss.Pairwise Site.Precedes)
    (hpos : ∀ s ∈ ss, pos ≤ s.first ∧ s.first ≤ s.last)
    (hexact : ∀ s ∈ ss, s.text cs = s.head ++ s.tail)
    (hkeeps : ∀ s ∈ ss, s.skipped = false → s.KeepsBreaks rule cs)
    (hrest : CrlfAfter front (cs.drop pos)) : CrlfAfter front (rule.weave cs pos ss) := by
  -- The invariant is that the rest of the source could stand behind what is woven.
  induction ss generalizing pos front with
  | nil => exact hrest
  | cons s ss ih =>
    obtain ⟨hfirst, hsorted⟩ := List.pairwise_cons.1 hsorted
    obtain ⟨⟨hgap, hspan⟩, hpos⟩ := List.forall_mem_cons.1 hpos
    obtain ⟨hexact, hexacts⟩ := List.forall_mem_cons.1 hexact
    obtain ⟨hkeeps, hkeepss⟩ := List.forall_mem_cons.1 hkeeps
    have hsource : cs.drop pos = slice cs pos s.first ++ (s.text cs ++ cs.drop s.last) := by
      rw [Site.text, slice_append_drop cs hspan, slice_append_drop cs hgap]
    rw [hsource, crlfAfter_append, crlfAfter_append] at hrest
    obtain ⟨hslice, htext, hrest⟩ := hrest
    have hnew : CrlfAfter ((slice cs pos s.first).getLast?.or front) (rule.newText cs s) ∧
        CrlfAfter ((rule.newText cs s).getLast?.or ((slice cs pos s.first).getLast?.or front))
          (cs.drop s.last) := by
      rw [newText]
      cases hskipped : s.skipped with
      | true => exact ⟨htext, hrest⟩
      | false => exact crlfAfter_replacementText hexact (hkeeps hskipped) htext hrest
    rw [weave, List.append_assoc, crlfAfter_append, crlfAfter_append]
    refine ⟨hslice, hnew.1, ih hsorted ?_ hexacts hkeepss hnew.2⟩
    intro t ht
    exact ⟨(hfirst t ht).2, (hpos t ht).2⟩

/-- A source in which each newline follows a carriage return, and a rule whose matches are heads
followed by tails. The new text has no newline alone if that is so for each match that is replaced.
And once a match without a line break is replaced, it has none only if the rule inserts none. -/
theorem content_crlfOnly (rule : InsertionRule) {source : String} {skipExisting : Bool}
    (hsource : CrlfOnly source.toList)
    (hexact : ∀ s ∈ rule.sites source.toList skipExisting,
      s.text source.toList = s.head ++ s.tail) :
    ((∀ s ∈ rule.sites source.toList skipExisting, s.skipped = false →
        s.KeepsBreaks rule source.toList) →
      CrlfOnly (rule.apply source skipExisting).content.toList) ∧
    ((∃ s ∈ rule.sites source.toList skipExisting, s.skipped = false ∧
        hasCrlf (s.text source.toList) = false) →
      CrlfOnly (rule.apply source skipExisting).content.toList →
        CrlfAfter (some '\r') (rule.separator.toList ++ rule.insertion.toList)) := by
  have hcontent : (rule.apply source skipExisting).content.toList
      = rule.weave source.toList 0 (rule.sites source.toList skipExisting) :=
    String.toList_ofList
  rw [hcontent]
  constructor
  · intro hkeeps
    refine crlfAfter_weave (rule.sites_pairwise source.toList skipExisting) ?_ hexact hkeeps hsource
    intro s hs
    exact ⟨Nat.zero_le _, (rule.sites_bounds source.toList skipExisting hs).1⟩
  · rintro ⟨s, hs, hskipped, hbreak⟩ hwoven
    obtain ⟨pre, post, hsites⟩ := List.append_of_mem hs
    -- Head, separator and insertion stand in the new text one after another.
    rw [hsites, weave_append_cons, newText, hskipped, if_neg Bool.false_ne_true, replacementText,
      hbreak, if_neg Bool.false_ne_true, addition, CrlfOnly, crlfAfter_append, crlfAfter_append,
      crlfAfter_append, crlfAfter_append] at hwoven
    obtain ⟨-, ⟨-, hadded, -⟩, -⟩ := hwoven
    exact hadded.change_front fun _ => rfl

/-! ## Samples -/

theorem ofPattern_onOneLine : (ofPattern "(a)(b)" "X").toOption.isSome = true := by decide +kernel

/-- A rule whose matches lie on one line. -/
def onOneLine : InsertionRule :=
  (ofPattern "(a)(b)" "X").toOption.get ofPattern_onOneLine

/-- The separator of two newlines is put into a line that ends with a carriage return and a
newline. -/
theorem bare_newline_on_one_line :
    CrlfOnly "ab\r\n".toList ∧
      (∀ s ∈ onOneLine.sites "ab\r\n".toList false, s.text "ab\r\n".toList = s.head ++ s.tail) ∧
      (onOneLine.apply "ab\r\n" false).content = "a\n\nXb\r\n" ∧
      ¬ CrlfOnly (onOneLine.apply "ab\r\n" false).content.toList := by
  decide +kernel

theorem ofPattern_acrossLines : (ofPattern "(a)(\\s+b)" "X").toOption.isSome = true := by
  decide +kernel

/-- A rule whose matches may go on in the next line. -/
def acrossLines : InsertionRule :=
  (ofPattern "(a)(\\s+b)" "X").toOption.get ofPattern_acrossLines

/-- A match that goes on in the next line gets its new lines with carriage returns. -/
theorem content_crlfOnly_across_lines :
    (acrossLines.apply "a\r\nb\r\n" false).content = "a\r\n\r\nX\r\nb\r\n" ∧
      CrlfOnly (acrossLines.apply "a\r\nb\r\n" false).content.toList := by
  have hexact : ∀ s ∈ acrossLines.sites "a\r\nb\r\n".toList false,
      s.text "a\r\nb\r\n".toList = s.head ++ s.tail := by decide +kernel
  have hkeeps : ∀ s ∈ acrossLines.sites "a\r\nb\r\n".toList false, s.skipped = false →
      s.KeepsBreaks acrossLines "a\r\nb\r\n".toList := by decide +kernel
  exact ⟨by decide +kernel, (acrossLines.content_crlfOnly (by decide +kernel) hexact).1 hkeeps⟩

end InsertionRule

end SourcePatch
