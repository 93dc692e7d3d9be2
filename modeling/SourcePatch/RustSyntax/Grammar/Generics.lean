import SourcePatch.RustSyntax.Grammar.Path

/-!
# Generic parameters

Parameters of items, the bounds on them, and the clauses after `where`.
-/

namespace SourcePatch.RustSyntax.Grammar

open Reader

variable (g : Grammar)

/-- Reads a bound whose shape does not matter. -/
def anyBound (const : Bool) : Reader Unit := do
  let _ ← g.bound false const

/-- Reads a type whose shape does not matter. -/
def anyType : Reader Unit := do
  let _ ← g.type true

/-! ## Parameters -/

def lifetimeParam : Reader Unit := do
  g.outerAttributes
  lifetime
  if ← sign? ":" then
    joined g.limit (Ahead.anyOf [Ahead.atEnd, Ahead.sign ",", Ahead.sign ">"]) "+" lifetime

def typeParam : Reader Unit := do
  g.outerAttributes
  name
  if ← sign? ":" then
    joined g.limit (Ahead.anyOf [Ahead.atEnd, Ahead.sign ",", Ahead.sign ">", Ahead.sign "="]) "+"
      (g.anyBound true)
  if ← sign? "=" then g.anyType

def constParam : Reader Unit := do
  g.outerAttributes
  word "const"
  name
  sign ":"
  g.anyType
  if ← sign? "=" then g.constArgument

def genericParam : Reader Unit := do
  g.outerAttributes
  if ← peek Ahead.name then g.typeParam
  else if ← peek Ahead.lifetime then g.lifetimeParam
  else g.constParam

/-- The parameters of an item, if it has any. -/
def generics : Reader Unit := do
  if ← sign? "<" then
    separated g.limit (Ahead.sign ">") "," do
      g.outerAttributes
      if !(← word? "_") then g.genericParam
    sign ">"

/-- Parameters in front of a bound or a closure. Returns whether there are any. -/
def binder? : Reader Bool := do
  if ← word? "for" then
    sign "<"
    separated g.limit (Ahead.sign ">") "," g.genericParam
    sign ">"
    return true
  else return false

/-! ## Bounds -/

/-- The parameters that a type captures. -/
def preciseCapture : Reader Unit := do
  word "use"
  sign "<"
  separated g.limit (Ahead.sign ">") "," do
    if !(← lifetime?) then nameOr ["Self"]
  sign ">"

/-- A trait with its modifiers. -/
def traitBound (const : Bool) : Reader Unit := do
  let bound ← g.binder?
  if ← peek (Ahead.group .bracket) then
    within .bracket (word "const")
    require fun _ => const
  else if ← word? "const" then require fun _ => const
  let maybe ← sign? "?"
  let bound ← if maybe && !bound then g.binder? else pure bound
  let p ← g.path false
  if p.bare && (← peek startsParentheses) then
    let _ ← g.parenthesizedArguments
  require fun _ => !(bound && maybe)

def boundRule (capture const : Bool) : Reader BoundShape := do
  if ← lifetime? then return .lifetime
  if ← peek (Ahead.word "use") then
    g.preciseCapture
    require fun _ => capture
    return .capture
  if ← peek (Ahead.group .paren) then within .paren (g.traitBound const) else g.traitBound const
  return .type

def startsBound (const : Bool) : Lookahead := fun ts =>
  Ahead.anyOf [Ahead.anyWord, Ahead.sign "::", Ahead.sign "?", Ahead.lifetime,
    Ahead.group .paren] ts ||
  (const && Ahead.anyOf [Ahead.group .bracket, Ahead.word "const"] ts)

/-- Bounds with plus signs between them, of which `plus` allows more than one. Returns whether a
trait is among them. -/
def boundsFrom (plus capture const : Bool) : (limit : Nat) → Reader Bool
  | 0 => failure
  | limit + 1 => do
    let isTrait := (← g.bound capture const) = .type
    if plus && (← sign? "+") then
      if ← peek (startsBound const) then return (← boundsFrom plus capture const limit) || isTrait
    return isTrait

/-- Bounds of which one is a trait at least. -/
def traitBounds (plus capture const : Bool) : Reader Unit := do
  let hasTrait ← g.boundsFrom plus capture const g.limit
  require fun _ => hasTrait

/-! ## Clauses -/

/-- What cannot begin another clause or bound. -/
def endsClause : Lookahead :=
  Ahead.anyOf [Ahead.atEnd, Ahead.group .brace, Ahead.sign ",", Ahead.sign ";",
    Ahead.signNot ":" "::", Ahead.sign "="]

def whereClause : Reader Unit := do
  if ← peek fun ts => Ahead.lifetime ts && Ahead.second (Ahead.sign ":") ts then
    lifetime
    sign ":"
    joined g.limit (fun ts => endsClause ts || Ahead.sign ":" ts) "+" lifetime
  else
    let _ ← g.binder?
    g.anyType
    sign ":"
    joined g.limit endsClause "+" (g.anyBound true)

/-- Are these angle brackets around parameters, rather than around a self type? -/
def startsGenerics : Lookahead := fun ts =>
  Ahead.sign "<" ts &&
    (Ahead.second (Ahead.sign ">") ts || Ahead.second (Ahead.sign "#") ts ||
      (Ahead.second (Ahead.anyOf [Ahead.lifetime, Ahead.name]) ts &&
        Ahead.third (Ahead.anyOf [Ahead.sign ">", Ahead.sign ",", Ahead.signNot ":" "::",
          Ahead.sign "="]) ts) ||
      Ahead.second (Ahead.word "const") ts)

/-- The clauses after `where`, if there are any. -/
def whereClauses : Reader Unit := do
  if ← word? "where" then
    require fun ts => !startsGenerics ts
    joined g.limit endsClause "," g.whereClause

end SourcePatch.RustSyntax.Grammar
