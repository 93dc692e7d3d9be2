import SourcePatch.RustSyntax.Grammar.Basic

/-!
# Paths

Paths with their arguments. In expressions and patterns, arguments in angle brackets follow a
double colon; in types they need none, and arguments in parentheses are possible.
-/

namespace SourcePatch.RustSyntax.Grammar

open Reader

/-- The arguments of a segment. -/
inductive Arguments where
  | absent
  | empty
  | given
deriving DecidableEq, Repr

/-- What matters of a path: whether it begins with a self type or a double colon, has one segment,
is without any arguments, and may take arguments in parentheses at its end. -/
structure PathShape where
  qualified : Bool := false
  global : Bool := false
  single : Bool := true
  plain : Bool
  bare : Bool
deriving DecidableEq, Repr

namespace PathShape

def ofSegment (a : Arguments) : PathShape where
  plain := a = .absent
  bare := a ≠ .given

/-- The path with one more segment. -/
def push (p : PathShape) (a : Arguments) : PathShape :=
  { p with single := false, plain := p.plain && a = .absent, bare := a ≠ .given }

/-- The path with arguments in parentheses. -/
def withParentheses (p : PathShape) : PathShape :=
  { p with single := false, plain := false, bare := false }

end PathShape

variable (g : Grammar)

/-! ## Arguments in angle brackets -/

/-- A constant as an argument: a literal or a block. -/
def constArgument : Reader Unit := do
  if ← peek Ahead.literal then literal else g.body

def startsConstArgument : Lookahead := Ahead.anyOf [Ahead.literal, Ahead.group .brace]

def genericArgument : Reader Unit := do
  if ← peek fun ts => Ahead.lifetime ts && !Ahead.second (Ahead.sign "+") ts then lifetime
  else if ← peek startsConstArgument then g.constArgument
  else
    let shape ← g.type true
    if shape = .path true then
      if ← sign? "=" then
        if ← peek startsConstArgument then g.constArgument
        else
          let _ ← g.type true
      else if ← sign? ":" then
        joined g.limit (Ahead.anyOf [Ahead.sign ",", Ahead.sign ">"]) "+" do
          let _ ← g.bound false true

def angleArguments : Reader Arguments := do
  let _ ← sign? "::"
  sign "<"
  let empty ← peek (Ahead.sign ">")
  separated g.limit (Ahead.sign ">") "," g.genericArgument
  sign ">"
  return if empty then .empty else .given

/-! ## Segments -/

def segment (inExpr : Bool) : Reader Arguments := do
  if ← peek (Ahead.anyOf (["super", "self", "crate", "try"].map Ahead.word)) then
    anyWord
    return .absent
  nameOr ["Self"]
  if ← peek fun ts => (!inExpr && Ahead.signNot "<" "<=" ts) ||
      (Ahead.sign "::" ts && Ahead.third (Ahead.sign "<") ts) then
    g.angleArguments
  else return .absent

/-- Further segments. A double colon before parentheses is not followed by a segment. -/
def moreSegments (inExpr : Bool) : (limit : Nat) → PathShape → Reader PathShape
  | 0, _ => failure
  | limit + 1, p => do
    if ← peek fun ts => Ahead.sign "::" ts && !Ahead.third (Ahead.group .paren) ts then
      sign "::"
      moreSegments inExpr limit (p.push (← g.segment inExpr))
    else return p

def path (inExpr : Bool) : Reader PathShape := do
  let global ← sign? "::"
  let first ← g.segment inExpr
  g.moreSegments inExpr g.limit { PathShape.ofSegment first with global }

/-- The segments after a self type. -/
def qualifiedSegments (inExpr : Bool) : (limit : Nat) → Option PathShape → Reader PathShape
  | 0, _ => failure
  | limit + 1, before => do
    let a ← g.segment inExpr
    let p := match before with
      | some p => p.push a
      | none => { PathShape.ofSegment a with qualified := true }
    if ← sign? "::" then qualifiedSegments inExpr limit (some p) else return p

/-- A path that may begin with a self type in angle brackets. -/
def qualifiedPath (inExpr : Bool) : Reader PathShape := do
  if ← sign? "<" then
    let _ ← g.type true
    if ← word? "as" then
      let _ ← g.path false
    sign ">"
    sign "::"
    g.qualifiedSegments inExpr g.limit none
  else g.path inExpr

/-! ## Arguments in parentheses -/

def startsParentheses : Lookahead := fun ts =>
  Ahead.group .paren ts || (Ahead.sign "::" ts && Ahead.third (Ahead.group .paren) ts)

/-- The types of arguments and of what comes back; the result tells whether the path may go on
after them. -/
def parenthesizedArguments : Reader Bool := do
  let _ ← sign? "::"
  within .paren (commaSeparated g.limit do let _ ← g.type true)
  if ← sign? "->" then return (← g.type false) = .parenthesized else return true

def moreParentheses : (limit : Nat) → PathShape → Reader PathShape
  | 0, _ => failure
  | limit + 1, p => do
    if p.bare && (← peek startsParentheses) then
      let goesOn ← g.parenthesizedArguments
      let p := p.withParentheses
      moreParentheses limit (← if goesOn then g.moreSegments false g.limit p else pure p)
    else return p

/-- A path as a type. -/
def typePath : Reader PathShape := do
  g.moreParentheses g.limit (← g.qualifiedPath false)

end SourcePatch.RustSyntax.Grammar
