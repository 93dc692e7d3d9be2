import SourcePatch.Text.CharSet

/-!
# Patterns as they are written

The syntax tree of a pattern, before flags, classes and repetitions are given a meaning.

* `Expr` is the tree, `SetExpr` the part of it between square brackets.
* `Expr.depth` is how deeply constructs are nested; a pattern may not exceed `depthLimit`.
* `PatternError` lists what can be wrong with a pattern.
-/

namespace SourcePatch.Pattern

/-- What is wrong with a pattern. -/
inductive PatternError where
  | unclosedGroup
  | unopenedGroup
  | unclosedClass
  | badClassRange
  | badClassMember
  | nothingToRepeat
  | badCount
  | badEscape
  | badCodePoint
  | badFlags
  | badGroupName
  | duplicateGroupName
  | unknownProperty
  | unsupported
  | tooDeep
  | tooLarge
  | matchesNonText
deriving DecidableEq, Repr

def PatternError.message : PatternError → String
  | .unclosedGroup => "unclosed group"
  | .unopenedGroup => "unopened group"
  | .unclosedClass => "unclosed character class"
  | .badClassRange => "invalid character class range"
  | .badClassMember => "invalid escape sequence found in character class"
  | .nothingToRepeat => "repetition operator missing expression"
  | .badCount => "invalid repetition count"
  | .badEscape => "unrecognized escape sequence"
  | .badCodePoint => "hexadecimal literal is not a character"
  | .badFlags => "invalid flags"
  | .badGroupName => "invalid capture group name"
  | .duplicateGroupName => "duplicate capture group name"
  | .unknownProperty => "Unicode property not found"
  | .unsupported => "look-around and backreferences are not supported"
  | .tooDeep => "exceeded the maximum nesting depth"
  | .tooLarge => "compiled pattern exceeds the size limit"
  | .matchesNonText => "pattern can match invalid UTF-8"

/-- A flag that can be switched inside a pattern. -/
inductive Flag where
  | ignoreCase
  | multiLine
  | dotMatchesNewline
  | swapGreed
  | unicode
  | crlf
  | verbose
deriving DecidableEq, Repr

/-- Flags to switch on (`true`) and off (`false`). -/
abbrev FlagChange := List (Flag × Bool)

/-- The last word of a change on one flag, if it speaks of it. -/
def FlagChange.get? (change : FlagChange) (flag : Flag) : Option Bool :=
  change.lookup flag

/-- A character that stands for itself; `octet` marks the escape `\xNN`, which without the
Unicode flag means an octet. -/
structure Literal where
  char : Char
  octet : Bool := false
deriving DecidableEq, Repr

/-- The classes `\d`, `\s` and `\w`. -/
inductive Shorthand where
  | digit
  | space
  | word
deriving DecidableEq, Repr

/-- What stands after `\p`: a bare name, or a property with a value. -/
inductive PropertyName where
  | bare (name : List Char)
  | withValue (property value : List Char)
deriving DecidableEq, Repr

inductive SetOperation where
  | intersection
  | difference
  | symmetricDifference
deriving DecidableEq, Repr

/-- What stands between square brackets. -/
inductive SetExpr where
  | empty
  | literal (l : Literal)
  | range (first last : Literal)
  | posix (name : String) (negated : Bool)
  | shorthand (kind : Shorthand) (negated : Bool)
  | property (name : PropertyName) (negated : Bool)
  | bracket (negated : Bool) (body : SetExpr)
  | member (item : SetExpr) (others : SetExpr)
  | operation (op : SetOperation) (lhs rhs : SetExpr)
deriving DecidableEq, Repr

/-- A position that an assertion can ask for. -/
inductive Anchor where
  | lineStart
  | lineEnd
  | textStart
  | textEnd
  | wordBoundary
  | notWordBoundary
  | wordStart
  | wordEnd
  | wordStartHalf
  | wordEndHalf
deriving DecidableEq, Repr

/-- A pattern as it is written. -/
inductive Expr where
  | empty
  | flags (change : FlagChange)
  | literal (l : Literal)
  | dot
  | anchor (a : Anchor)
  | shorthand (kind : Shorthand) (negated : Bool)
  | property (name : PropertyName) (negated : Bool)
  | bracket (negated : Bool) (body : SetExpr)
  | repeated (min : Nat) (max : Option Nat) (greedy : Bool) (sub : Expr)
  | capture (index : Nat) (sub : Expr)
  | scoped (change : FlagChange) (sub : Expr)
  | cat (first rest : Expr)
  | alt (first rest : Expr)
deriving DecidableEq, Repr

def Expr.ofParts : List Expr → Expr
  | [] => .empty
  | [e] => e
  | e :: es => .cat e (ofParts es)

def Expr.ofBranches : List Expr → Expr
  | [] => .empty
  | [e] => e
  | e :: es => .alt e (ofBranches es)

def SetExpr.ofMembers : List SetExpr → SetExpr
  | [] => .empty
  | [m] => m
  | m :: ms => .member m (ofMembers ms)

/-! ## Nesting depth -/

/-- How deeply constructs may be nested. -/
def depthLimit : Nat := 250

/-- The depth of a set on its own, and as the continuation of a list of members. -/
def SetExpr.depths : SetExpr → Nat × Nat
  | .bracket _ body => (1 + body.depths.1, 1 + body.depths.1)
  | .member item others =>
    let inner := max item.depths.1 others.depths.2
    (1 + inner, inner)
  | .operation _ lhs rhs =>
    let d := 1 + max lhs.depths.1 rhs.depths.1
    (d, d)
  | _ => (0, 0)

/-- How deep an expression is on its own, as the continuation of a concatenation, and as the
continuation of an alternation. -/
structure Expr.Depths where
  alone : Nat
  inCat : Nat
  inAlt : Nat

def Expr.depths : Expr → Expr.Depths
  | .bracket _ body => let d := 1 + body.depths.1; ⟨d, d, d⟩
  | .repeated _ _ _ sub => let d := 1 + sub.depths.alone; ⟨d, d, d⟩
  | .capture _ sub => let d := 1 + sub.depths.alone; ⟨d, d, d⟩
  | .scoped _ sub => let d := 1 + sub.depths.alone; ⟨d, d, d⟩
  | .cat first rest =>
    let inner := max first.depths.alone rest.depths.inCat
    ⟨1 + inner, inner, 1 + inner⟩
  | .alt first rest =>
    let inner := max first.depths.alone rest.depths.inAlt
    ⟨1 + inner, 1 + inner, inner⟩
  | _ => ⟨0, 0, 0⟩

def Expr.depth (e : Expr) : Nat := e.depths.alone

end SourcePatch.Pattern
