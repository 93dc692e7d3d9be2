import SourcePatch.RustSyntax.Grammar.Generics

/-!
# Types
-/

namespace SourcePatch.RustSyntax.Grammar

open Reader

variable (g : Grammar)

/-- The type that comes back from a function, if one is given. -/
def returnType (plus : Bool) : Reader Unit := do
  if ← sign? "->" then
    let _ ← g.type plus

/-- The word `extern` with the name of a calling convention, if it is there. -/
def abi? : Reader Unit := do
  if ← word? "extern" then
    if ← peek Ahead.text then literal

/-! ## Functions -/

/-- Three points in place of further arguments, maybe with a name. -/
def startsVariadic : Lookahead := fun ts =>
  Ahead.sign "..." ts ||
    (Ahead.anyOf [Ahead.name, Ahead.word "_"] ts && Ahead.second (Ahead.sign ":") ts &&
      Ahead.third (Ahead.sign "...") ts)

def variadicType : Reader Unit := do
  if ← peek (Ahead.anyOf [Ahead.name, Ahead.word "_"]) then
    anyWord
    sign ":"
  sign "..."
  let _ ← sign? ","

def startsMutSelf : Lookahead := fun ts => Ahead.word "mut" ts && Ahead.second (Ahead.word "self") ts

/-- An argument of a function type. The first one may be `self`. -/
def argumentType (first : Bool) : Reader Unit := do
  g.outerAttributes
  let mutSelf := first && (← peek startsMutSelf)
  if mutSelf then word "mut"
  let colon ← peek (Ahead.second (Ahead.signNot ":" "::"))
  let namedSelf := colon && first && (← peek (Ahead.word "self"))
  let named := namedSelf || (colon && (← peek (Ahead.anyOf [Ahead.name, Ahead.word "_"])))
  if named then
    anyWord
    sign ":"
  if mutSelf && !named then word "self"
  else if first && !namedSelf && (← peek startsMutSelf) then
    word "mut"
    word "self"
  else g.anyType

/-- The arguments of a function type. -/
def argumentTypes : (limit : Nat) → (first : Bool) → Reader Unit
  | 0, _ => failure
  | limit + 1, first => do
    if ← peek Ahead.atEnd then return ()
    g.outerAttributes
    if ← peek startsVariadic then variadicType
    else
      g.argumentType first
      if ← peek Ahead.atEnd then return ()
      sign ","
      argumentTypes limit false

def functionType : Reader Unit := do
  let _ ← word? "unsafe"
  abi?
  word "fn"
  within .paren (g.argumentTypes g.limit true)
  g.returnType false

/-! ## Types in parentheses -/

/-- Further bounds, each after a plus sign. -/
def plusBounds : Reader Unit :=
  whileAhead g.limit (Ahead.sign "+") do
    sign "+"
    g.anyBound false

/-- What stands in parentheses, and whether it is a bound that others may be added to. -/
inductive Parenthesized where
  | tuple
  | maybe
  | bound
  | type
deriving DecidableEq, Repr

def parenthesizedContent : Reader Parenthesized := do
  if ← peek Ahead.atEnd then return .tuple
  if ← peek Ahead.lifetime then
    g.traitBounds true false false
    return .type
  if ← peek (Ahead.sign "?") then
    g.traitBound false
    return .maybe
  let first ← g.type true
  if ← sign? "," then
    commaSeparated g.limit g.anyType
    return .tuple
  return match first with
    | .path _ => .bound
    | .bound => .bound
    | _ => .type

def parenthesizedType (plus : Bool) : Reader TypeShape := do
  match ← within .paren g.parenthesizedContent with
  | .tuple => return .other
  | .type => return .parenthesized
  | .maybe =>
    let more ← peek (Ahead.sign "+")
    g.plusBounds
    return if more then .other else .bound
  | .bound =>
    if plus && (← peek (Ahead.sign "+")) then
      g.plusBounds
      return .other
    else return .parenthesized

/-! ## Other types -/

/-- Bounds added to a path. -/
def pathBounds : (limit : Nat) → Reader Unit
  | 0 => failure
  | limit + 1 => do
    if ← sign? "+" then
      if ← peek (startsBound false) then
        g.anyBound false
        pathBounds limit

/-- A type that begins with a path, maybe after a binder. -/
def pathType (plus bound : Bool) : Reader TypeShape := do
  let p ← g.typePath
  if p.qualified then return .other
  if p.plain && (← peek (Ahead.signNot "!" "!=")) then
    sign "!"
    let _ ← anyGroup
    return .other
  let more ← peek (Ahead.sign "+")
  if plus && more then
    g.pathBounds g.limit
    return .other
  return if bound then .bound else .path (p.single && !p.global)

/-- A type in brackets: a slice, or an array with its length. -/
def sequenceType : Reader Unit :=
  within .bracket do
    g.anyType
    if ← sign? ";" then
      let _ ← g.expr true

def startsPath : Lookahead :=
  Ahead.anyOf ([Ahead.name, Ahead.sign "::", Ahead.sign "<"] ++
    ["super", "self", "Self", "crate"].map Ahead.word)

def startsFunctionType : Lookahead := Ahead.anyOf (["fn", "unsafe", "extern"].map Ahead.word)

def pointerType : Reader Unit := do
  sign "*"
  if !(← word? "const") then word "mut"
  let _ ← g.type false

def referenceType : Reader Unit := do
  sign "&"
  let _ ← lifetime?
  let _ ← word? "mut"
  let _ ← g.type false

/-- A type after a binder. -/
def boundType (plus : Bool) : Reader TypeShape := do
  if ← peek startsFunctionType then
    g.functionType
    return .other
  else if ← peek fun ts => startsPath ts && !Ahead.anyOf [Ahead.sign "::", Ahead.sign "<"] ts then
    g.pathType plus true
  else failure

def typeRule (plus : Bool) : Reader TypeShape := do
  if ← g.binder? then g.boundType plus
  else if ← peek (Ahead.group .paren) then g.parenthesizedType plus
  else if ← peek startsFunctionType then
    g.functionType
    return .other
  else if ← peek startsPath then g.pathType plus false
  else if ← word? "dyn" then
    let _ ← sign? "*"
    g.traitBounds plus false false
    return .other
  else if ← peek (Ahead.group .bracket) then
    g.sequenceType
    return .other
  else if ← peek (Ahead.sign "*") then
    g.pointerType
    return .other
  else if ← peek (Ahead.sign "&") then
    g.referenceType
    return .other
  else if ← sign? "!" then return .other
  else if ← word? "impl" then
    g.traitBounds plus true true
    return .other
  else if ← word? "_" then return .other
  else if ← peek Ahead.lifetime then
    g.traitBounds true false false
    return .other
  else failure

end SourcePatch.RustSyntax.Grammar
