import SourcePatch.Proofs.Edit.Substitution
import SourcePatch.Proofs.Rule.Pass

/-!
# Coherent transforms

A transform tells the same story in its matches, its replacements and its content.

* `Transform.Coherent` says how they belong together, in terms of the octets of the source.
* `InsertionRule.coherent_apply`: each transform of a rule is coherent.
* `InsertionRule.hits_unskipped` and `InsertionRule.replacements_sublist`: the guard decides which
  matches are left alone, and nothing else.
* `InsertionRule.apply_coherent` joins them, and adds that one pass over the source makes the same
  transform.
-/

namespace SourcePatch

open SourcePatch.Text

/-- Is this the replacement of that match, with the text that the source has there? -/
structure Replacement.Replaces (source : String) (r : Replacement) (m : MatchSpan) : Prop where
  byteStart : r.byteStart = m.byteStart
  byteEnd : r.byteEnd = m.byteEnd
  replaced : Utf8.cut (Utf8.octets source) m.byteStart m.byteEnd = some r.replaced.toList

/-- A transform whose parts belong together. -/
structure Transform.Coherent (source : String) (t : Transform) : Prop where
  /-- A match begins later than those before it, and has no octet in common with them. -/
  ordered : t.hits.Pairwise fun a b => a.byteStart < b.byteStart ∧ a.byteEnd ≤ b.byteStart
  /-- The span of a match is in the source, and splits no character. -/
  within : ∀ m ∈ t.hits, m.byteStart ≤ m.byteEnd ∧ m.byteEnd ≤ (Utf8.octets source).length ∧
    Utf8.isBoundary (Utf8.octets source) m.byteStart = true ∧
    Utf8.isBoundary (Utf8.octets source) m.byteEnd = true
  /-- The line of a match is counted from the beginning of the source. -/
  lines : ∀ m ∈ t.hits, m.line = 1 + ((Utf8.octets source).take m.byteStart).count 0x0A
  /-- The matches that are not skipped are replaced, in their order. -/
  replaced : List.Forall₂ (Replacement.Replaces source) t.replacements
    (t.hits.filter fun m => !m.skipped)
  /-- The content is the source with these spans replaced. -/
  content : Edit.Substitution 0 (Utf8.octets source) t.edits (Utf8.octets t.content)
  counted : t.inserted + t.skipped = t.hits.length

/-- A match as it is reported where the guard is not looked for. -/
def MatchSpan.unskipped (m : MatchSpan) : MatchSpan := { m with skipped := false }

namespace InsertionRule

variable (rule : InsertionRule) (source : String) (skipExisting : Bool)

theorem hits_within {m : MatchSpan} (hm : m ∈ (rule.apply source skipExisting).hits) :
    m.byteStart ≤ m.byteEnd ∧ m.byteEnd ≤ (Utf8.octets source).length ∧
      Utf8.isBoundary (Utf8.octets source) m.byteStart = true ∧
      Utf8.isBoundary (Utf8.octets source) m.byteEnd = true := by
  obtain ⟨s, hs, rfl⟩ := (rule.mem_hits_iff skipExisting source).1 hm
  obtain ⟨hspan, -⟩ := rule.sites_bounds source.toList skipExisting hs
  refine ⟨Utf8.size_take_le _ hspan, ?_, Utf8.isBoundary_size_take _ _,
    Utf8.isBoundary_size_take _ _⟩
  rw [Utf8.octets, Utf8.length_encode]
  exact Utf8.size_take_le_size _ _

theorem line_eq {m : MatchSpan} (hm : m ∈ (rule.apply source skipExisting).hits) :
    m.line = 1 + ((Utf8.octets source).take m.byteStart).count 0x0A := by
  obtain ⟨s, -, rfl⟩ := (rule.mem_hits_iff skipExisting source).1 hm
  change lineNumber source.toList s.first
    = 1 + ((Utf8.octets source).take (Utf8.size (source.toList.take s.first))).count 0x0A
  rw [Utf8.octets, Utf8.take_encode, Utf8.count_newline_encode]
  rfl

/-- The replacement of a site replaces the match that is reported for it. -/
theorem replaces_replacementAt {s : Site} (hspan : s.first ≤ s.last) :
    (rule.replacementAt source.toList s).Replaces source (s.span source.toList) where
  byteStart := rfl
  byteEnd := rfl
  replaced := by
    rw [replacementAt, String.toList_ofList]
    exact Utf8.cut_encode source.toList hspan

theorem replacements_replace :
    List.Forall₂ (Replacement.Replaces source) (rule.apply source skipExisting).replacements
      ((rule.apply source skipExisting).hits.filter fun m => !m.skipped) := by
  rw [replacements_apply, hits_apply, List.filter_map, List.forall₂_map_left_iff,
    List.forall₂_map_right_iff]
  refine List.forall₂_same.2 fun s hs => rule.replaces_replacementAt source ?_
  exact (rule.sites_bounds source.toList skipExisting (List.mem_of_mem_filter hs)).1

/-- Each transform of a rule is coherent. -/
theorem coherent_apply : (rule.apply source skipExisting).Coherent source where
  ordered := rule.hits_pairwise skipExisting source
  within _ hm := rule.hits_within source skipExisting hm
  lines _ hm := rule.line_eq source skipExisting hm
  replaced := rule.replacements_replace source skipExisting
  content := by
    have hsorted := (rule.edits_pairwise skipExisting source).imp fun h => h.2
    rw [rule.octets_content skipExisting source]
    exact Edit.substitution_weave hsorted (fun e _ => Nat.zero_le _)
      fun e he => rule.edits_fit skipExisting source he
  counted := rule.inserted_add_skipped skipExisting source

/-! ## The guard -/

/-- The guard changes nothing about the matches but whether they are skipped. -/
theorem hits_unskipped :
    (rule.apply source true).hits.map MatchSpan.unskipped = (rule.apply source false).hits := by
  rw [hits_apply, hits_apply, sites, sites, List.map_map, List.map_map, List.map_map]
  rfl

/-- What is inserted where the guard is looked for is inserted without it as well. -/
theorem replacements_sublist :
    (rule.apply source true).replacements.Sublist (rule.apply source false).replacements := by
  have hall : ((rule.sites source.toList false).filter fun s => !s.skipped)
      = rule.sites source.toList false := by
    rw [List.filter_eq_self]
    intro s hs
    obtain ⟨m, -, rfl⟩ := List.mem_map.1 hs
    rfl
  -- What replaces a site does not depend on whether it is skipped.
  rw [replacements_apply, replacements_apply, hall, sites, sites, List.filter_map, List.map_map,
    List.map_map]
  exact List.filter_sublist.map _

/-- Each transform that a rule makes is coherent, whether the guard is looked for or not, and made
in one pass over the source. The guard only chooses among the insertions. -/
theorem apply_coherent :
    (∀ skipExisting,
      rule.pass source skipExisting = some (rule.apply source skipExisting) ∧
      (rule.apply source skipExisting).Coherent source) ∧
    (rule.apply source true).hits.map MatchSpan.unskipped = (rule.apply source false).hits ∧
    (rule.apply source true).replacements.Sublist (rule.apply source false).replacements := by
  refine ⟨fun skipExisting => ⟨?_, ?_⟩, ?_, ?_⟩
  · exact rule.pass_eq_apply source skipExisting
  · exact rule.coherent_apply source skipExisting
  · exact rule.hits_unskipped source
  · exact rule.replacements_sublist source

end InsertionRule

end SourcePatch
