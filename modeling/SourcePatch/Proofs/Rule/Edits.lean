import SourcePatch.Proofs.Edit.Weaving
import SourcePatch.Proofs.Pattern.Order
import SourcePatch.Rule.Edits

/-!
# Edits of a transform

A transform carries its new text twice: as the content that is woven from left to right, and as
edits of the source. Both are the same rewriting.

* `InsertionRule.edits_pairwise`: the edits come in order and do not overlap.
* `InsertionRule.edits_fit`: each edit fits the source.
* `InsertionRule.octets_content`: replacing the spans of the edits in the source gives the content.
* `InsertionRule.inserted_add_skipped`: each match is replaced or skipped.
-/

namespace SourcePatch

open SourcePatch.Text

/-- Does a site begin later than another, and not before its end? -/
def Site.Precedes (s t : Site) : Prop := s.first < t.first ∧ s.last ≤ t.first

namespace InsertionRule

variable (rule : InsertionRule) (cs : List Char) (skipExisting : Bool)

theorem sites_bounds {s : Site} (hs : s ∈ rule.sites cs skipExisting) :
    s.first ≤ s.last ∧ s.last ≤ cs.length := by
  obtain ⟨m, hm, rfl⟩ := List.mem_map.1 hs
  have := (Pattern.Program.findAll_inOrder rule.program cs).1 m hm
  exact ⟨this.2.1, this.2.2⟩

theorem sites_pairwise : (rule.sites cs skipExisting).Pairwise Site.Precedes := by
  have h := (Pattern.Program.findAll_inOrder rule.program cs).2
  exact List.pairwise_map.2 h

theorem hits_apply (source : String) :
    (rule.apply source skipExisting).hits
      = (rule.sites source.toList skipExisting).map fun s => s.span source.toList := rfl

theorem mem_hits_iff (source : String) {m : MatchSpan} :
    m ∈ (rule.apply source skipExisting).hits ↔
      ∃ s ∈ rule.sites source.toList skipExisting, s.span source.toList = m := by
  rw [hits_apply, List.mem_map]

/-- The matches of a transform are reported in the order of their spans, which do not overlap. -/
theorem hits_pairwise (source : String) :
    (rule.apply source skipExisting).hits.Pairwise
      fun a b => a.byteStart < b.byteStart ∧ a.byteEnd ≤ b.byteStart := by
  rw [hits_apply, List.pairwise_map]
  refine (rule.sites_pairwise source.toList skipExisting).imp_of_mem ?_
  intro s t hs ht hst
  have ht := rule.sites_bounds source.toList skipExisting ht
  constructor
  · exact Utf8.size_take_lt _ hst.1 (by omega)
  · exact Utf8.size_take_le _ hst.2

/-- The edit that replaces a site. -/
def editAt (s : Site) : Edit := (rule.replacementAt cs s).toEdit

theorem edits_apply (source : String) :
    (rule.apply source skipExisting).edits
      = ((rule.sites source.toList skipExisting).filter fun s => !s.skipped).map
        (rule.editAt source.toList) := by
  rw [Transform.edits, apply, List.map_map]
  rfl

theorem editAt_byteStart (s : Site) :
    (rule.editAt cs s).byteStart = Utf8.size (cs.take s.first) := rfl

theorem editAt_byteEnd (s : Site) :
    (rule.editAt cs s).byteEnd = Utf8.size (cs.take s.last) := rfl

/-- The text of a site passes the verification of its edit. -/
theorem editAt_fits {s : Site} (hs : s.first ≤ s.last) :
    (rule.editAt cs s).Fits (Utf8.encode cs) := by
  refine ⟨Utf8.size_take_le cs hs, ?_, String.ofList (s.text cs), ?_, ?_⟩
  · rw [editAt_byteEnd, Utf8.length_encode]
    exact Utf8.size_take_le_size cs s.last
  · rw [editAt_byteStart, editAt_byteEnd, Utf8.slice_encode cs hs, Utf8.octets, String.toList_ofList]
    rfl
  · exact Verification.accepts_ofText _

/-- The edits of a transform come in the order of their spans, which do not overlap. -/
theorem edits_pairwise (source : String) :
    (rule.apply source skipExisting).edits.Pairwise Edit.Precedes := by
  have hsites := rule.sites_pairwise source.toList skipExisting
  rw [edits_apply]
  refine List.pairwise_map.2 ?_
  refine (hsites.filter _).imp_of_mem ?_
  intro s t hs ht hst
  have hs := rule.sites_bounds source.toList skipExisting (List.mem_of_mem_filter hs)
  have ht := rule.sites_bounds source.toList skipExisting (List.mem_of_mem_filter ht)
  constructor
  · exact Utf8.size_take_lt _ hst.1 (by omega)
  · exact Utf8.size_take_le _ hst.2

/-- Each edit of a transform fits the source. -/
theorem edits_fit (source : String) {e : Edit}
    (he : e ∈ (rule.apply source skipExisting).edits) : e.Fits (Utf8.octets source) := by
  rw [edits_apply] at he
  obtain ⟨s, hs, rfl⟩ := List.mem_map.1 he
  have hs := rule.sites_bounds source.toList skipExisting (List.mem_of_mem_filter hs)
  exact rule.editAt_fits source.toList hs.1

/-- Weaving characters from left to right is replacing the spans of octets at once: what a skipped
site leaves alone belongs to the text between two edits. -/
theorem encode_weave {pos : Nat} {ss : List Site} (hsorted : ss.Pairwise Site.Precedes)
    (hpos : ∀ s ∈ ss, pos ≤ s.first) (hbounds : ∀ s ∈ ss, s.first ≤ s.last) :
    Utf8.encode (rule.weave cs pos ss)
      = Edit.weave (Utf8.encode cs) (Utf8.size (cs.take pos))
        ((ss.filter fun s => !s.skipped).map (rule.editAt cs)) := by
  -- Skipped sites move the position on the left only; the invariant is where the next site begins.
  induction ss generalizing pos with
  | nil => rw [weave, List.filter_nil, List.map_nil, Edit.weave, Utf8.drop_encode]
  | cons s ss ih =>
    obtain ⟨hfirst, hrest⟩ := List.pairwise_cons.1 hsorted
    obtain ⟨hposs, -⟩ := List.forall_mem_cons.1 hpos
    obtain ⟨hs, hss⟩ := List.forall_mem_cons.1 hbounds
    have htail := ih hrest (fun t ht => (hfirst t ht).2) hss
    rw [weave, Utf8.encode_append, Utf8.encode_append, htail]
    cases hskip : s.skipped with
    | false =>
      rw [List.filter_cons_of_pos (by simp [hskip]), List.map_cons, Edit.weave,
        editAt_byteStart, editAt_byteEnd, Utf8.slice_encode cs hposs]
      simp only [Bool.false_eq_true, if_false]
      rw [editAt, replacementAt, Replacement.toEdit, Edit.ofText, Utf8.octets,
        String.toList_ofList]
    | true =>
      rw [List.filter_cons_of_neg (by simp [hskip])]
      simp only [if_true]
      have hkept : ∀ e ∈ (ss.filter fun s => !s.skipped).map (rule.editAt cs),
          Utf8.size (cs.take s.last) ≤ e.byteStart := by
        intro e he
        obtain ⟨t, ht, rfl⟩ := List.mem_map.1 he
        exact Utf8.size_take_le cs (hfirst t (List.mem_of_mem_filter ht)).2
      rw [Edit.weave_eq_slice_append (Utf8.size_take_le cs (Nat.le_trans hposs hs)) hkept,
        Utf8.slice_encode cs (Nat.le_trans hposs hs), ← Utf8.encode_append, Site.text,
        slice_append_slice cs hposs hs]

/-- Replacing the spans of the edits in the source gives the content of the transform. -/
theorem octets_content (source : String) :
    Utf8.octets (rule.apply source skipExisting).content
      = Edit.weave (Utf8.octets source) 0 (rule.apply source skipExisting).edits := by
  have hzero : ∀ s ∈ rule.sites source.toList skipExisting, 0 ≤ s.first :=
    fun s _ => Nat.zero_le s.first
  have hweave := rule.encode_weave source.toList
    (rule.sites_pairwise source.toList skipExisting) hzero
    (fun s hs => (rule.sites_bounds source.toList skipExisting hs).1)
  rw [edits_apply, Utf8.octets, apply, String.toList_ofList]
  exact hweave

/-- Each match is replaced or skipped. -/
theorem inserted_add_skipped (source : String) :
    (rule.apply source skipExisting).inserted + (rule.apply source skipExisting).skipped
      = (rule.apply source skipExisting).hits.length := by
  simp only [Transform.inserted, Transform.skipped, apply, List.length_map, List.countP_map]
  generalize rule.sites source.toList skipExisting = ss
  rw [← List.countP_eq_length_filter, Nat.add_comm]
  have h := List.length_eq_countP_add_countP (fun s : Site => s.skipped) (l := ss)
  simpa [Function.comp_def, Site.span] using h.symm

end InsertionRule

end SourcePatch
