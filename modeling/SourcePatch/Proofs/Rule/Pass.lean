import SourcePatch.Proofs.Rule.Images
import SourcePatch.Proofs.Text.Boundaries
import SourcePatch.Proofs.Text.Lines

/-!
# Transforms in one pass

A rule can be applied in one pass over its matches, with two cursors in the source: one behind what
is copied, one behind the line breaks that are counted. The pass cuts the source at octet offsets,
and comes to a halt at the first text that cannot be cut.

* `InsertionRule.pass` is that pass.
* `Pass.Inv.step`: with a match more, what is written and what is still to be woven make up the same
  transform.
* `InsertionRule.pass_eq_apply`: the pass never halts, and gives what `InsertionRule.apply` gives.
-/

namespace SourcePatch

open SourcePatch.Text

/-- What a pass has written, and where it stands in the source. -/
structure Pass where
  content : List Char := []
  hits : List MatchSpan := []
  replacements : List Replacement := []
  copiedTo : Nat := 0
  line : Nat := 1
  lineCursor : Nat := 0

/-- The text that replaces a match, cut behind the head where line breaks have to be changed. -/
def InsertionRule.replacementOf (rule : InsertionRule) (whole : List Char) (head tail : String) :
    Option String := do
  let replacement := rule.replacement head tail
  if hasCrlf whole then
    -- the head is text of the source, and has its line breaks already
    let rest ← Utf8.cut (Utf8.octets replacement) (Utf8.size head.toList)
      (Utf8.size replacement.toList)
    return String.ofList (head.toList ++ toCrlf rest)
  else
    return replacement

namespace Pass

/-- One match more. -/
def step (rule : InsertionRule) (source : List Char) (skipExisting : Bool) (p : Pass)
    (m : Pattern.Found) : Option Pass := do
  let octets := Utf8.encode source
  let start := Utf8.size (source.take m.first)
  let stop := Utf8.size (source.take m.last)
  let head := String.ofList (m.groupText source 1)
  let tail := String.ofList (m.groupText source 2)
  let passed ← Utf8.cut octets p.lineCursor start
  let line := p.line + passed.count '\n'
  let skipped := skipExisting && rule.isGuarded source m.first m.last
  let gap ← Utf8.cut octets p.copiedTo start
  let whole ← Utf8.cut octets start stop
  let hits := p.hits ++ [⟨start, stop, line, head, tail, skipped⟩]
  if skipped then
    return ⟨p.content ++ gap ++ whole, hits, p.replacements, stop, line, start⟩
  else
    let replacement ← rule.replacementOf whole head tail
    let replacements := p.replacements ++ [⟨start, stop, String.ofList whole, replacement⟩]
    return ⟨p.content ++ gap ++ replacement.toList, hits, replacements, stop, line, start⟩

/-- What remains of the source is copied. -/
def finish (source : List Char) (p : Pass) : Option Transform := do
  let rest ← Utf8.cut (Utf8.encode source) p.copiedTo (Utf8.size source)
  return ⟨String.ofList (p.content ++ rest), p.hits, p.replacements⟩

end Pass

/-- Applies a rule in one pass. -/
def InsertionRule.pass (rule : InsertionRule) (source : String) (skipExisting : Bool) :
    Option Transform := do
  let cs := source.toList
  let p ← (rule.program.findAll cs).foldlM (Pass.step rule cs skipExisting) {}
  p.finish cs

namespace InsertionRule

variable (rule : InsertionRule) (cs : List Char)

/-- The text that replaces a match is that of its site. -/
theorem replacementOf_eq (s : Site) :
    rule.replacementOf (s.text cs) (String.ofList s.head) (String.ofList s.tail)
      = some (String.ofList (rule.replacementText cs s)) := by
  have hrest : Utf8.cut (Utf8.encode (s.head ++ rule.addition s.tail)) (Utf8.size s.head)
      (Utf8.size (s.head ++ rule.addition s.tail)) = some (rule.addition s.tail) := by
    have hcut := Utf8.cut_encode (s.head ++ rule.addition s.tail)
      (show s.head.length ≤ (s.head ++ rule.addition s.tail).length by simp)
    rw [List.take_left, List.take_length, slice, List.drop_left, List.length_append,
      Nat.add_sub_cancel_left, List.take_length] at hcut
    exact hcut
  rw [replacementOf, replacement, replacementText, Utf8.octets]
  simp only [String.toList_ofList]
  rw [hrest]
  split <;> rfl

end InsertionRule

namespace Pass

variable {rule : InsertionRule} {cs : List Char} {skipExisting : Bool} {t : Transform} {p : Pass}
  {copied counted : Nat} {m : Pattern.Found} {ms : List Pattern.Found}

/-- What a pass has become behind a site, if it had written all before position `copied`. -/
def after (rule : InsertionRule) (cs : List Char) (p : Pass) (copied : Nat) (s : Site) : Pass where
  content := p.content ++ slice cs copied s.first ++ rule.newText cs s
  hits := p.hits ++ [s.span cs]
  replacements := p.replacements ++ if s.skipped then [] else [rule.replacementAt cs s]
  copiedTo := Utf8.size (cs.take s.last)
  line := lineNumber cs s.first
  lineCursor := Utf8.size (cs.take s.first)

/-- With both cursors at positions before a match, none of its texts is refused. -/
theorem step_eq (hcopied : p.copiedTo = Utf8.size (cs.take copied))
    (hcursor : p.lineCursor = Utf8.size (cs.take counted)) (hline : p.line = lineNumber cs counted)
    (hgap : copied ≤ m.first) (hcounted : counted ≤ m.first) (hspan : m.first ≤ m.last) :
    p.step rule cs skipExisting m
      = some (p.after rule cs copied (rule.siteOf cs skipExisting m)) := by
  have hwhole : slice cs m.first m.last = (rule.siteOf cs skipExisting m).text cs := rfl
  have hreplacement : rule.replacementOf ((rule.siteOf cs skipExisting m).text cs)
        (String.ofList (m.groupText cs 1)) (String.ofList (m.groupText cs 2))
      = some (String.ofList (rule.replacementText cs (rule.siteOf cs skipExisting m))) :=
    rule.replacementOf_eq cs (rule.siteOf cs skipExisting m)
  -- Each text that the step cuts lies between the offsets of two positions.
  simp only [step, hcopied, hcursor, hline, Utf8.cut_encode cs hcounted, Utf8.cut_encode cs hgap,
    Utf8.cut_encode cs hspan, Option.bind_eq_bind, Option.bind_some,
    lineNumber_add_count cs hcounted, hwhole]
  cases hskip : (skipExisting && rule.isGuarded cs m.first m.last) with
  | true =>
    have hskipped : (rule.siteOf cs skipExisting m).skipped = true := hskip
    rw [if_pos rfl, after, InsertionRule.newText, if_pos hskipped, if_pos hskipped, List.append_nil,
      Site.span, hskipped]
    rfl
  | false =>
    have hskipped : (rule.siteOf cs skipExisting m).skipped = false := hskip
    rw [if_neg Bool.false_ne_true, after, InsertionRule.newText, hskipped,
      if_neg Bool.false_ne_true, if_neg Bool.false_ne_true, Site.span, hskipped, hreplacement,
      Option.bind_some, String.toList_ofList]
    rfl

/-- What a pass has written, and the matches that it has not come to yet, make up a transform. Its
cursors are the offsets of two positions, none of which is behind the matches to come. -/
structure Inv (rule : InsertionRule) (cs : List Char) (skipExisting : Bool) (t : Transform)
    (p : Pass) (copied counted : Nat) (ms : List Pattern.Found) : Prop where
  content : p.content ++ rule.weave cs copied (ms.map (rule.siteOf cs skipExisting))
    = t.content.toList
  hits : p.hits ++ (ms.map (rule.siteOf cs skipExisting)).map (·.span cs) = t.hits
  replacements : p.replacements
    ++ ((ms.map (rule.siteOf cs skipExisting)).filter fun s => !s.skipped).map
      (rule.replacementAt cs) = t.replacements
  copiedTo : p.copiedTo = Utf8.size (cs.take copied)
  line : p.line = lineNumber cs counted
  lineCursor : p.lineCursor = Utf8.size (cs.take counted)
  counted_le : counted ≤ copied
  copied_le : copied ≤ cs.length
  inOrder : Pattern.InOrder copied cs.length ms

theorem inv_start (rule : InsertionRule) (source : String) (skipExisting : Bool) :
    Inv rule source.toList skipExisting (rule.apply source skipExisting) {} 0 0
      (rule.program.findAll source.toList) where
  content := by
    rw [InsertionRule.apply, String.toList_ofList]
    rfl
  hits := rfl
  replacements := rfl
  copiedTo := rfl
  line := rfl
  lineCursor := rfl
  counted_le := Nat.le_refl 0
  copied_le := Nat.zero_le _
  inOrder := Pattern.Program.findAll_inOrder rule.program source.toList

/-- The next match goes over from what is to come to what is written. -/
theorem Inv.step (h : Inv rule cs skipExisting t p copied counted (m :: ms)) :
    ∃ q, p.step rule cs skipExisting m = some q ∧
      Inv rule cs skipExisting t q m.last m.first ms := by
  obtain ⟨hbounds, hsorted⟩ := h.inOrder
  obtain ⟨⟨hgap, hspan, hlast⟩, hrest⟩ := List.forall_mem_cons.1 hbounds
  obtain ⟨hbehind, hsorted⟩ := List.pairwise_cons.1 hsorted
  refine ⟨_, step_eq h.copiedTo h.lineCursor h.line hgap (Nat.le_trans h.counted_le hgap) hspan, ?_⟩
  constructor
  case content =>
    rw [← h.content, List.map_cons, InsertionRule.weave, after, List.append_assoc,
      List.append_assoc, List.append_assoc]
    rfl
  case hits =>
    rw [← h.hits, List.map_cons, List.map_cons, after, List.append_assoc]
    rfl
  case replacements =>
    rw [← h.replacements, List.map_cons, List.filter_cons, after, List.append_assoc]
    cases (rule.siteOf cs skipExisting m).skipped <;> rfl
  case copiedTo => rfl
  case line => rfl
  case lineCursor => rfl
  case counted_le => exact hspan
  case copied_le => exact hlast
  case inOrder => exact ⟨fun n hn => ⟨(hbehind n hn).2, (hrest n hn).2⟩, hsorted⟩

/-- A pass over matches in order does not halt. -/
theorem Inv.run (h : Inv rule cs skipExisting t p copied counted ms) :
    ∃ q copied' counted', ms.foldlM (Pass.step rule cs skipExisting) p = some q ∧
      Inv rule cs skipExisting t q copied' counted' [] := by
  -- The invariant is that of the matches to come: it says what is written and where the cursors are.
  induction ms generalizing p copied counted with
  | nil => exact ⟨p, copied, counted, rfl, h⟩
  | cons m ms ih =>
    obtain ⟨q, hstep, hq⟩ := h.step
    rw [List.foldlM_cons, hstep]
    exact ih hq

/-- Behind the last match the rest of the source completes the transform. -/
theorem Inv.finish (h : Inv rule cs skipExisting t p copied counted []) : p.finish cs = some t := by
  have hrest : Utf8.cut (Utf8.encode cs) p.copiedTo (Utf8.size cs) = some (cs.drop copied) := by
    have hcut := Utf8.cut_encode cs h.copied_le
    have hall : slice cs copied cs.length = cs.drop copied := by
      rw [slice, ← List.length_drop, List.take_length]
    rwa [List.take_length, hall, ← h.copiedTo] at hcut
  have hcontent : p.content ++ cs.drop copied = t.content.toList := h.content
  have hhits : p.hits = t.hits := (List.append_nil p.hits).symm.trans h.hits
  have hreplacements : p.replacements = t.replacements :=
    (List.append_nil p.replacements).symm.trans h.replacements
  rw [Pass.finish, hrest, Option.bind_eq_bind, Option.bind_some, hcontent, hhits, hreplacements,
    String.ofList_toList]
  rfl

end Pass

/-- A rule never fails to be applied in one pass, and makes the transform of the source. -/
theorem InsertionRule.pass_eq_apply (rule : InsertionRule) (source : String) (skipExisting : Bool) :
    rule.pass source skipExisting = some (rule.apply source skipExisting) := by
  obtain ⟨p, copied, counted, hrun, hp⟩ := (Pass.inv_start rule source skipExisting).run
  rw [pass, hrun]
  exact hp.finish

end SourcePatch
