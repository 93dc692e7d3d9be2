import SourcePatch.Pattern.Syntax
import SourcePatch.Unicode.Property

/-!
# The meaning of patterns

A `Node` is a pattern with its flags resolved: what is left are character sets, assertions,
sequences, ordered choices, repetitions and capture groups. `Node.ofExpr` gives each `Expr` its
node, or says why it has none.

Sequences and choices are built by `Node.seq` and `Node.choice`, repetitions by `Node.loop`, so
that a node is always in the shape that decides which of several matches is preferred:

* a choice between single characters is one character set;
* a choice whose branches begin with the same parts has these parts in front of it;
* what can match nothing but the empty text is repeated at most once.
-/

namespace SourcePatch.Pattern

/-- What an assertion asks of the characters before and after a position. -/
inductive Look where
  | textStart
  | textEnd
  | lineStart
  | lineEnd
  | lineStartCrlf
  | lineEndCrlf
  | wordBoundary (unicode : Bool)
  | notWordBoundary (unicode : Bool)
  | wordStart (unicode : Bool)
  | wordEnd (unicode : Bool)
  | wordStartHalf (unicode : Bool)
  | wordEndHalf (unicode : Bool)
deriving DecidableEq, Repr

/-- A pattern with its flags resolved. -/
inductive Node where
  | empty
  | chars (set : CharSet)
  | look (l : Look)
  | cat (first second : Node)
  | alt (first second : Node)
  | repeated (min : Nat) (max : Option Nat) (greedy : Bool) (sub : Node)
  | group (index : Nat) (sub : Node)
deriving DecidableEq, Repr, Inhabited

namespace Node

/-- Can the node match nothing but the empty text? -/
def isEmptyOnly : Node → Bool
  | .empty => true
  | .chars _ => false
  | .look _ => true
  | .cat a b => a.isEmptyOnly && b.isEmptyOnly
  | .alt a b => a.isEmptyOnly && b.isEmptyOnly
  | .repeated _ _ _ sub => sub.isEmptyOnly
  | .group _ sub => sub.isEmptyOnly

/-- The highest number of a group in the node, `0` if there is none. -/
def groupCount : Node → Nat
  | .empty | .chars _ | .look _ => 0
  | .cat a b => max a.groupCount b.groupCount
  | .alt a b => max a.groupCount b.groupCount
  | .repeated _ _ _ sub => sub.groupCount
  | .group index sub => max index sub.groupCount

/-- The parts of a sequence; any other node is its only part, and the empty node has none. -/
def parts : Node → List Node
  | .empty => []
  | .cat a b => a.parts ++ b.parts
  | n => [n]

/-- The branches of a choice; any other node is its only branch. -/
def branches : Node → List Node
  | .alt a b => a.branches ++ b.branches
  | n => [n]

def ofParts : List Node → Node
  | [] => .empty
  | [n] => n
  | n :: ns => .cat n (ofParts ns)

def ofBranches : List Node → Node
  | [] => .chars CharSet.empty
  | [n] => n
  | n :: ns => .alt n (ofBranches ns)

/-- One node after another. -/
def seq (a b : Node) : Node := ofParts (a.parts ++ b.parts)

/-- A node repeated at least `lo` and, if `hi` is given, at most `hi` times. What matches only
the empty text is repeated once at most. -/
def loop (lo : Nat) (hi : Option Nat) (greedy : Bool) (sub : Node) : Node :=
  let lo := if sub.isEmptyOnly then min lo 1 else lo
  let hi := if sub.isEmptyOnly then some (min (hi.getD 1) 1) else hi
  if lo = 0 ∧ hi = some 0 then .empty
  else if lo = 1 ∧ hi = some 1 then sub
  else .repeated lo hi greedy sub

def set? : Node → Option CharSet
  | .chars s => some s
  | _ => none

def isSingleChar : Node → Bool
  | .chars s => s.single?.isSome
  | _ => false

/-- Groups single characters that stand side by side; every other part stays alone. -/
def chunks : List Node → List (List Node)
  | [] => []
  | n :: ns =>
    match chunks ns with
    | (m :: ms) :: rest =>
      if n.isSingleChar && m.isSingleChar then (n :: m :: ms) :: rest
      else [n] :: (m :: ms) :: rest
    | rest => [n] :: rest

/-- How many elements two lists have in common at the front. -/
def commonLength : List (List Node) → List (List Node) → Nat
  | a :: as, b :: bs => if a = b then 1 + commonLength as bs else 0
  | _, _ => 0

/-- How many leading chunks all branches share; `0` where one branch is a single chunk. -/
def sharedLength : List (List (List Node)) → Nat
  | [] => 0
  | first :: others =>
    if (first :: others).all fun b => 2 ≤ b.length then
      others.foldl (fun n b => min n (commonLength first b)) first.length
    else 0

/-- The branches that a list of alternatives amounts to. -/
def flattened (alternatives : List Node) : List Node := alternatives.flatMap branches

/-- An ordered choice. The fuel bounds how often shared leading parts can be taken out. -/
def choiceWith : (fuel : Nat) → List Node → Node
  | 0, alternatives => ofBranches (flattened alternatives)
  | fuel + 1, alternatives =>
    let bs := flattened alternatives
    match bs with
    | [] => .chars CharSet.empty
    | [n] => n
    | first :: _ =>
      match bs.mapM set? with
      | some sets => .chars (CharSet.unions sets)
      | none =>
        let split := bs.map fun b => chunks b.parts
        let n := sharedLength split
        if n = 0 then ofBranches bs
        else
          seq (ofParts ((chunks first.parts).take n).flatten)
            (choiceWith fuel (split.map fun b => ofParts (b.drop n).flatten))

/-- An ordered choice between alternatives, the first preferred. -/
def choice (alternatives : List Node) : Node :=
  choiceWith ((flattened alternatives).flatMap Node.parts).length alternatives

end Node

/-! ## Flags -/

structure Flags where
  ignoreCase : Bool := false
  multiLine : Bool := false
  dotMatchesNewline : Bool := false
  swapGreed : Bool := false
  unicode : Bool := true
  crlf : Bool := false
deriving DecidableEq, Repr

def Flags.apply (flags : Flags) (change : FlagChange) : Flags where
  ignoreCase := (change.get? .ignoreCase).getD flags.ignoreCase
  multiLine := (change.get? .multiLine).getD flags.multiLine
  dotMatchesNewline := (change.get? .dotMatchesNewline).getD flags.dotMatchesNewline
  swapGreed := (change.get? .swapGreed).getD flags.swapGreed
  unicode := (change.get? .unicode).getD flags.unicode
  crlf := (change.get? .crlf).getD flags.crlf

/-! ## Character sets -/

namespace Flags

def asciiDigits : CharSet := CharSet.range 48 57

def asciiSpaces : CharSet := ⟨[(9, 13), (32, 32)]⟩

def asciiWords : CharSet := ⟨[(48, 57), (65, 90), (95, 95), (97, 122)]⟩

/-- The set with all case variants, if case is ignored. -/
def fold (flags : Flags) (s : CharSet) : CharSet :=
  if flags.ignoreCase then
    if flags.unicode then Unicode.foldCase s else Unicode.foldAsciiCase s
  else s

/-- The complement if wanted; without the Unicode flag a set may not leave ASCII. -/
def negate (flags : Flags) (negated : Bool) (s : CharSet) : Except PatternError CharSet :=
  let s := if negated then s.compl else s
  if flags.unicode || s.isAscii then .ok s else .error .matchesNonText

def shorthand (flags : Flags) (kind : Shorthand) (negated : Bool) : Except PatternError CharSet :=
  flags.negate negated <|
    match kind, flags.unicode with
    | .digit, true => Unicode.decimalDigits
    | .space, true => Blank.blanks
    | .word, true => Unicode.wordChars
    | .digit, false => asciiDigits
    | .space, false => asciiSpaces
    | .word, false => asciiWords

def property (flags : Flags) (name : PropertyName) (negated : Bool) :
    Except PatternError CharSet :=
  if flags.unicode then
    let set? := match name with
      | .bare name => Unicode.named? name
      | .withValue prop value => Unicode.valued? prop value
    match set? with
    | some s => flags.negate negated (flags.fold s)
    | none => .error .unknownProperty
  else .error .matchesNonText

/-- The members of the POSIX class of that name. -/
def posixSet (name : String) : CharSet :=
  match name with
  | "alnum" => ⟨[(48, 57), (65, 90), (97, 122)]⟩
  | "alpha" => ⟨[(65, 90), (97, 122)]⟩
  | "ascii" => ⟨[(0, 127)]⟩
  | "blank" => ⟨[(9, 9), (32, 32)]⟩
  | "cntrl" => ⟨[(0, 31), (127, 127)]⟩
  | "digit" => asciiDigits
  | "graph" => ⟨[(33, 126)]⟩
  | "lower" => ⟨[(97, 122)]⟩
  | "print" => ⟨[(32, 126)]⟩
  | "punct" => ⟨[(33, 47), (58, 64), (91, 96), (123, 126)]⟩
  | "space" => asciiSpaces
  | "upper" => ⟨[(65, 90)]⟩
  | "word" => asciiWords
  | "xdigit" => ⟨[(48, 57), (65, 70), (97, 102)]⟩
  | _ => CharSet.empty

/-- The character that a literal in a class stands for. -/
def memberChar (flags : Flags) (l : Literal) : Except PatternError Char :=
  if flags.unicode || l.char.toNat < 128 then .ok l.char else .error .matchesNonText

def applyOperation : SetOperation → CharSet → CharSet → CharSet
  | .intersection, s, t => s.inter t
  | .difference, s, t => s.diff t
  | .symmetricDifference, s, t => s.symmDiff t

/-- The characters that a bracketed class describes. -/
def setOf (flags : Flags) : SetExpr → Except PatternError CharSet
  | .empty => .ok CharSet.empty
  | .literal l => do return CharSet.singleton (← flags.memberChar l)
  | .range first last => do
    let first ← flags.memberChar first
    let last ← flags.memberChar last
    return CharSet.range first.toNat last.toNat
  | .posix name negated => flags.negate negated (flags.fold (posixSet name))
  | .shorthand kind negated => flags.shorthand kind negated
  | .property name negated => flags.property name negated
  | .bracket negated body => do flags.negate negated (flags.fold (← flags.setOf body))
  | .member item others => do return (← flags.setOf item).union (← flags.setOf others)
  | .operation op lhs rhs => do
    let lhs ← flags.setOf lhs
    let rhs ← flags.setOf rhs
    return applyOperation op (flags.fold lhs) (flags.fold rhs)

/-! ## Expressions -/

def literalSet (flags : Flags) (l : Literal) : Except PatternError CharSet :=
  if !flags.unicode && l.octet && 128 ≤ l.char.toNat then .error .matchesNonText
  else if !flags.unicode && 128 ≤ l.char.toNat then .ok (CharSet.singleton l.char)
  else .ok (flags.fold (CharSet.singleton l.char))

def dotSet (flags : Flags) : Except PatternError CharSet :=
  if !flags.unicode then .error .matchesNonText
  else if flags.dotMatchesNewline then .ok CharSet.full
  else if flags.crlf then .ok (CharSet.mk [(10, 10), (13, 13)]).compl
  else .ok (CharSet.range 10 10).compl

def lookOf (flags : Flags) : Anchor → Look
  | .lineStart =>
    if flags.multiLine then if flags.crlf then .lineStartCrlf else .lineStart else .textStart
  | .lineEnd =>
    if flags.multiLine then if flags.crlf then .lineEndCrlf else .lineEnd else .textEnd
  | .textStart => .textStart
  | .textEnd => .textEnd
  | .wordBoundary => .wordBoundary flags.unicode
  | .notWordBoundary => .notWordBoundary flags.unicode
  | .wordStart => .wordStart flags.unicode
  | .wordEnd => .wordEnd flags.unicode
  | .wordStartHalf => .wordStartHalf flags.unicode
  | .wordEndHalf => .wordEndHalf flags.unicode

end Flags

/-- The alternatives of an expression and the flags in force after it: flags that an expression
switches hold to the end of the group around it, across its alternatives. -/
def alternativesOf : Expr → Flags → Except PatternError (List Node × Flags)
  | .empty, flags => .ok ([.empty], flags)
  | .flags change, flags => .ok ([.empty], flags.apply change)
  | .literal l, flags => do return ([.chars (← flags.literalSet l)], flags)
  | .dot, flags => do return ([.chars (← flags.dotSet)], flags)
  | .anchor a, flags => .ok ([.look (flags.lookOf a)], flags)
  | .shorthand kind negated, flags => do
    return ([.chars (← flags.shorthand kind negated)], flags)
  | .property name negated, flags => do
    return ([.chars (← flags.property name negated)], flags)
  | .bracket negated body, flags => do
    return ([.chars (← flags.negate negated (flags.fold (← flags.setOf body)))], flags)
  | .repeated lo hi greedy sub, flags => do
    let (alternatives, _) ← alternativesOf sub flags
    return ([.loop lo hi (greedy != flags.swapGreed) (.choice alternatives)], flags)
  | .capture index sub, flags => do
    let (alternatives, _) ← alternativesOf sub flags
    return ([.group index (.choice alternatives)], flags)
  | .scoped change sub, flags => do
    let (alternatives, _) ← alternativesOf sub (flags.apply change)
    return ([.choice alternatives], flags)
  | .cat first rest, flags => do
    let (firsts, flags) ← alternativesOf first flags
    let (rests, flags) ← alternativesOf rest flags
    return ([.seq (.choice firsts) (.choice rests)], flags)
  | .alt first rest, flags => do
    let (firsts, flags) ← alternativesOf first flags
    let (rests, flags) ← alternativesOf rest flags
    return (firsts ++ rests, flags)

/-- The node of an expression, read without any flag but the Unicode one. -/
def Node.ofExpr (e : Expr) : Except PatternError Node := do
  let (alternatives, _) ← alternativesOf e {}
  return .choice alternatives

end SourcePatch.Pattern
