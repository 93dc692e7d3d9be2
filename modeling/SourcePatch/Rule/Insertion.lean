import SourcePatch.Pattern.Matching
import SourcePatch.Rule.ImplBlock
import SourcePatch.Text.Utf8

/-!
# Insertion rules

A rule is a pattern and a text that is inserted in each of its matches. The pattern has at least
two capture groups: the first, the head, is what the insertion follows, and the second, the tail,
closes the block around it. A match gives way to head, separator, insertion and tail; what lay
between the two groups is dropped.

* `InsertionRule.ofPattern` compiles a rule.
* `InsertionRule.sites` finds the places of a source that a rule matches.
* `InsertionRule.apply` replaces them all, from left to right, and gives a `Transform`.

A match that spans a line break of carriage return and newline gets all of its new text with such
line breaks.
-/

namespace SourcePatch

open SourcePatch.Text

/-- Why a rule cannot be made. -/
inductive RuleError where
  | invalidPattern (cause : Pattern.PatternError)
  | missingCaptures (found : Nat)
deriving DecidableEq, Repr

def RuleError.message : RuleError → String
  | .invalidPattern cause => s!"invalid pattern: {cause.message}"
  | .missingCaptures found =>
    s!"pattern must define 2 capture groups (head, tail), found {found}"

/-- A compiled pattern and the text inserted in each of its matches. The guard is a text whose
presence around a match shows that the insertion was made before. -/
structure InsertionRule where
  program : Pattern.Program
  insertion : String
  separator : String := "\n\n"
  guard : Option String := none
deriving Repr

/-- A place where a rule matches: its span in characters, the texts of the two groups, and
whether it is left alone because of the guard. -/
structure Site where
  first : Nat
  last : Nat
  head : List Char
  tail : List Char
  skipped : Bool
deriving DecidableEq, Repr

/-- A match as it is reported, with its span in octets and the line that it begins on. -/
structure MatchSpan where
  byteStart : Nat
  byteEnd : Nat
  line : Nat
  head : String
  tail : String
  skipped : Bool
deriving DecidableEq, Repr

/-- The replacement of one span: what stood there and what comes instead. -/
structure Replacement where
  byteStart : Nat
  byteEnd : Nat
  replaced : String
  replacement : String
deriving DecidableEq, Repr

/-- What a rule makes of a source. -/
structure Transform where
  content : String
  hits : List MatchSpan
  replacements : List Replacement
deriving DecidableEq, Repr

namespace Transform

/-- How many insertions are made. -/
def inserted (t : Transform) : Nat := t.replacements.length

/-- How many matches are left alone because of the guard. -/
def skipped (t : Transform) : Nat := t.hits.countP (·.skipped)

def isUnchanged (t : Transform) : Bool := t.replacements.isEmpty

end Transform

/-- The text of a group, empty if the group took no part in the match. -/
def Pattern.Found.groupText (m : Pattern.Found) (source : List Char) (g : Nat) : List Char :=
  match m.group? g with
  | some (first, last) => slice source first last
  | none => []

namespace Site

/-- The text that the rule matched. -/
def text (s : Site) (source : List Char) : List Char := slice source s.first s.last

/-- The match as it is reported. -/
def span (s : Site) (source : List Char) : MatchSpan where
  byteStart := Utf8.size (source.take s.first)
  byteEnd := Utf8.size (source.take s.last)
  line := lineNumber source s.first
  head := String.ofList s.head
  tail := String.ofList s.tail
  skipped := s.skipped

end Site

namespace InsertionRule

/-- Compiles a rule whose pattern has two groups at least. -/
def ofPattern (pattern insertion : String) : Except RuleError InsertionRule :=
  match Pattern.compile pattern with
  | .error cause => .error (.invalidPattern cause)
  | .ok program =>
    if program.groups < 2 then .error (.missingCaptures program.groups)
    else .ok { program, insertion }

def withSeparator (rule : InsertionRule) (separator : String) : InsertionRule :=
  { rule with separator }

def withGuard (rule : InsertionRule) (guard : String) : InsertionRule :=
  { rule with guard := some guard }

/-- What comes between head and tail, and the tail. -/
def addition (rule : InsertionRule) (tail : List Char) : List Char :=
  rule.separator.toList ++ rule.insertion.toList ++ tail

/-- The text that replaces a match with these groups. -/
def replacement (rule : InsertionRule) (head tail : String) : String :=
  String.ofList (head.toList ++ rule.addition tail.toList)

/-- The text that replaces the match at a site: line breaks after the head follow those of the
match. -/
def replacementText (rule : InsertionRule) (source : List Char) (s : Site) : List Char :=
  s.head ++ if hasCrlf (s.text source) then toCrlf (rule.addition s.tail) else rule.addition s.tail

/-- Does the guard stop the insertion in a match with this span? -/
def isGuarded (rule : InsertionRule) (source : List Char) (first last : Nat) : Bool :=
  match rule.guard with
  | some guard => ImplBlock.containsGuard source first last guard
  | none => false

/-- The site of a match. -/
def siteOf (rule : InsertionRule) (source : List Char) (skipExisting : Bool)
    (m : Pattern.Found) : Site where
  first := m.first
  last := m.last
  head := m.groupText source 1
  tail := m.groupText source 2
  skipped := skipExisting && rule.isGuarded source m.first m.last

/-- The places of a source that the rule matches, from left to right. -/
def sites (rule : InsertionRule) (source : List Char) (skipExisting : Bool) : List Site :=
  (rule.program.findAll source).map (rule.siteOf source skipExisting)

/-- The source from position `pos` on, with each site replaced unless it is skipped. -/
def weave (rule : InsertionRule) (source : List Char) : (pos : Nat) → List Site → List Char
  | pos, [] => source.drop pos
  | pos, s :: ss =>
    slice source pos s.first
      ++ (if s.skipped then s.text source else rule.replacementText source s)
      ++ rule.weave source s.last ss

/-- The replacement of one site. -/
def replacementAt (rule : InsertionRule) (source : List Char) (s : Site) : Replacement where
  byteStart := Utf8.size (source.take s.first)
  byteEnd := Utf8.size (source.take s.last)
  replaced := String.ofList (s.text source)
  replacement := String.ofList (rule.replacementText source s)

/-- Replaces every match in a source. With `skipExisting`, a match whose impl block already has
the guard is reported but left as it is. -/
def apply (rule : InsertionRule) (source : String) (skipExisting : Bool) : Transform :=
  let cs := source.toList
  let sites := rule.sites cs skipExisting
  { content := String.ofList (rule.weave cs 0 sites)
    hits := sites.map fun s => s.span cs
    replacements := (sites.filter fun s => !s.skipped).map (rule.replacementAt cs) }

end InsertionRule

end SourcePatch
