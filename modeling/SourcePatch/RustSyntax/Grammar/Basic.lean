import SourcePatch.RustSyntax.Reader

/-!
# The grammar

A `Grammar` has a reader for each phrase that may stand inside phrases of its own kind. The
modules beside this one define each phrase by a rule, a reader that calls those of a given grammar
for the phrases inside. A reader of a phrase returns its shape, the little that has to be known of
it to read on.
-/

namespace SourcePatch.RustSyntax

/-- What matters of an expression: whether it ends a statement by itself, whether it is a macro
call with braces, and whether it is an operation that its own kind may not follow. -/
inductive ExprShape where
  | plain
  | block
  | braceMacro
  | comparison
  | range
deriving DecidableEq, Repr

/-- What matters of a type: whether it is a path without a self type (and then whether of one
segment without parentheses), whether a single bound, and whether it stands in parentheses. -/
inductive TypeShape where
  | path (single : Bool)
  | bound
  | parenthesized
  | other
deriving DecidableEq, Repr

/-- What matters of a pattern: whether it is `..`, and whether a range that lacks a bound. -/
inductive PatternShape where
  | rest
  | openRange
  | other
deriving DecidableEq, Repr

inductive BoundShape where
  | lifetime
  | capture
  | type
deriving DecidableEq, Repr

/-- How tightly operations bind, in ascending order. -/
inductive Precedence where
  | jump
  | assign
  | range
  | or
  | and
  | condition
  | compare
  | bitOr
  | bitXor
  | bitAnd
  | shift
  | sum
  | product
  | cast
deriving DecidableEq, Repr

def Precedence.rank : Precedence → Nat
  | .jump => 0
  | .assign => 1
  | .range => 2
  | .or => 3
  | .and => 4
  | .condition => 5
  | .compare => 6
  | .bitOr => 7
  | .bitXor => 8
  | .bitAnd => 9
  | .shift => 10
  | .sum => 11
  | .product => 12
  | .cast => 13

structure Grammar where
  /-- A bound on the number of elements of any list. -/
  limit : Nat
  /-- An expression. Without `structs`, a brace after a path is no struct literal. -/
  expr : (structs : Bool) → Reader ExprShape
  /-- An expression without binary operators. -/
  operand : (structs : Bool) → Reader ExprShape
  /-- The operations that follow an operand and bind at least as tightly as given. -/
  operations : (structs : Bool) → (left : ExprShape) → (atLeast : Precedence) → Reader ExprShape
  /-- An expression that ends after a block. -/
  statementExpr : Reader ExprShape
  /-- A type. Without `plus`, it is not a sum of bounds. -/
  type : (plus : Bool) → Reader TypeShape
  /-- A bound of a type; what it captures and a modifier `const` have to be allowed. -/
  bound : (capture const : Bool) → Reader BoundShape
  /-- A pattern without alternatives. -/
  pattern : Reader PatternShape
  /-- Statements up to the end. -/
  statements : Reader Unit
  /-- An item after its attributes. -/
  item : Reader Unit
  /-- What a `use` names. The paths in it may begin at the root if that is allowed. -/
  useTree : (fromRoot : Bool) → Reader Unit
  /-- Named fields in braces. -/
  namedFields : Reader Unit

namespace Grammar

open Reader

/-- A path without arguments. -/
def modulePath (g : Grammar) : Reader Unit := do
  let _ ← sign? "::"
  repeated g.limit do
    nameOr ["super", "self", "Self", "crate"]
    sign? "::"

/-! ## Attributes -/

/-- What stands in the brackets of an attribute. -/
def attributeRule (g : Grammar) : Reader Unit := do
  if !(← word? "unsafe") then g.modulePath
  if ← peek (Ahead.anyOf [Ahead.group .paren, Ahead.group .bracket, Ahead.group .brace]) then
    let _ ← anyGroup
  else if ← peek fun ts => Ahead.signNot "=" "==" ts && !Ahead.sign "=>" ts then
    sign "="
    orElse (do literal; require Ahead.atEnd) do
      require fun ts => !(Ahead.sign "#" ts && Ahead.second (Ahead.group .bracket) ts)
      let _ ← g.expr true

def outerAttribute (g : Grammar) : Reader Unit := do
  sign "#"
  within .bracket g.attributeRule

def outerAttributes (g : Grammar) : Reader Unit :=
  whileAhead g.limit (Ahead.sign "#") g.outerAttribute

/-- Attributes of what they stand in. -/
def innerAttributes (g : Grammar) : Reader Unit :=
  whileAhead g.limit (fun ts => Ahead.sign "#" ts && Ahead.second (Ahead.sign "!") ts) do
    sign "#"
    sign "!"
    within .bracket g.attributeRule

/-! ## Blocks -/

/-- Statements in braces. -/
def block (g : Grammar) : Reader Unit := within .brace g.statements

/-- Statements in braces, maybe with attributes in front of them. -/
def body (g : Grammar) : Reader Unit :=
  within .brace do
    g.innerAttributes
    g.statements

end Grammar

end SourcePatch.RustSyntax
