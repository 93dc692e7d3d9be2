import SourcePatch.RustSyntax.Grammar.Type

/-!
# Patterns
-/

namespace SourcePatch.RustSyntax.Grammar

open Reader

variable (g : Grammar)

/-! ## Ranges -/

/-- The sign of a range; the result tells whether the range is closed. Three points are an older
form of a closed one. -/
def rangeSign (olderForm : Bool) : Reader Bool := do
  if ← sign? "..=" then return true
  if ← peek (Ahead.sign "...") then
    require fun _ => olderForm
    sign "..."
    return true
  sign ".."
  return false

/-- How a path as an expression may begin. -/
def startsExprPath : Lookahead :=
  Ahead.anyOf ([Ahead.name, Ahead.sign "::", Ahead.sign "<"] ++
    ["self", "Self", "super", "crate"].map Ahead.word)

/-- A bound of a range, if there is one. -/
def rangeBound? : Reader Bool := do
  if ← peek (Ahead.anyOf [Ahead.atEnd, Ahead.sign "|", Ahead.sign "=", Ahead.signNot ":" "::",
      Ahead.sign ",", Ahead.sign ";", Ahead.word "if"]) then return false
  if ← peek Ahead.literal then literal
  else if ← peek startsExprPath then
    let _ ← g.qualifiedPath true
  else
    word "const"
    g.body
  return true

/-- The rest of a range after its first bound. -/
def rangePattern : Reader PatternShape := do
  let closed ← rangeSign true
  let bounded ← g.rangeBound?
  require fun _ => bounded || !closed
  return if bounded then .other else .openRange

/-- A range without a first bound, or two points alone. -/
def leadingRangePattern : Reader PatternShape := do
  let closed ← rangeSign false
  let bounded ← g.rangeBound?
  require fun _ => bounded || !closed
  return if bounded then .openRange else .rest

/-! ## Alternatives and lists -/

/-- Two alternatives are separated by one bar that is not part of another sign. -/
def startsAlternative : Lookahead := fun ts => Ahead.signNot "|" "||" ts && !Ahead.sign "|=" ts

/-- A pattern with its alternatives, maybe with a bar in front of them. -/
def alternatives : Reader PatternShape := do
  let leading ← sign? "|"
  let first ← g.pattern
  if leading || (← peek startsAlternative) then
    whileAhead g.limit startsAlternative do
      sign "|"
      let _ ← g.pattern
    return .other
  else return first

def anyPattern : Reader Unit := do
  let _ ← g.alternatives

/-- Patterns in parentheses. -/
def tuplePattern : Reader Unit := within .paren (commaSeparated g.limit g.anyPattern)

/-- Patterns in brackets; a range among them has both bounds. -/
def slicePattern : Reader Unit :=
  within .bracket <| commaSeparated g.limit do
    let shape ← g.alternatives
    require fun _ => shape != .openRange

/-! ## Structs -/

/-- The name or number of a field; the result tells whether it is a name. -/
def member : Reader Bool := do
  match ← get with
  | .literal .integer .complete :: rest => set rest; return false
  | _ => name; return true

def fieldPattern : Reader Unit := do
  let box ← word? "box"
  let ref ← word? "ref"
  let mut_ ← word? "mut"
  if box || ref || mut_ then name
  else
    let named ← member
    if !named || (← peek (Ahead.sign ":")) then
      sign ":"
      g.anyPattern

/-- Fields with commas between them; two points may end the list. -/
def fieldPatterns : (limit : Nat) → Reader Unit
  | 0 => failure
  | limit + 1 => do
    if ← peek Ahead.atEnd then return ()
    g.outerAttributes
    if ← sign? ".." then return ()
    g.fieldPattern
    if ← peek Ahead.atEnd then return ()
    sign ","
    fieldPatterns limit

/-! ## Patterns -/

/-- A pattern that begins with a path: a macro call, a struct, a tuple, a range or the path
alone. -/
def pathPattern : Reader PatternShape := do
  let p ← g.qualifiedPath true
  if !p.qualified && p.plain && (← peek (Ahead.signNot "!" "!=")) then
    sign "!"
    let _ ← anyGroup
    return .other
  if ← peek (Ahead.group .brace) then
    within .brace (g.fieldPatterns g.limit)
    return .other
  if ← peek (Ahead.group .paren) then
    g.tuplePattern
    return .other
  if ← peek (Ahead.sign "..") then g.rangePattern else return .other

/-- A pattern that begins with a literal or a constant block. -/
def constantPattern : Reader PatternShape := do
  let _ ← g.rangeBound?
  if ← peek (Ahead.sign "..") then g.rangePattern else return .other

/-- A name to bind, with a pattern that it has to match too. -/
def bindingPattern : Reader Unit := do
  let _ ← word? "ref"
  let _ ← word? "mut"
  nameOr ["self"]
  if ← sign? "@" then
    let _ ← g.pattern

def startsPathPattern : Lookahead := fun ts =>
  (Ahead.name ts && Ahead.second (Ahead.anyOf [Ahead.sign "::", Ahead.sign "!",
    Ahead.group .brace, Ahead.group .paren, Ahead.sign ".."]) ts) ||
  (Ahead.word "self" ts && Ahead.second (Ahead.sign "::") ts) ||
  Ahead.anyOf ([Ahead.sign "::", Ahead.sign "<"] ++ ["Self", "super", "crate"].map Ahead.word) ts

def patternRule : Reader PatternShape := do
  if ← peek startsPathPattern then g.pathPattern
  else if ← word? "_" then return .other
  else if ← word? "box" then
    let _ ← g.pattern
    return .other
  else if ← peek (Ahead.anyOf [Ahead.sign "-", Ahead.literal, Ahead.word "const"]) then
    g.constantPattern
  else if ← peek (Ahead.anyOf (Ahead.name :: ["ref", "mut", "self"].map Ahead.word)) then
    g.bindingPattern
    return .other
  else if ← sign? "&" then
    let _ ← word? "mut"
    let _ ← g.pattern
    return .other
  else if ← peek (Ahead.group .paren) then
    g.tuplePattern
    return .other
  else if ← peek (Ahead.group .bracket) then
    g.slicePattern
    return .other
  else if ← peek (Ahead.signNot ".." "...") then g.leadingRangePattern
  else failure

end SourcePatch.RustSyntax.Grammar
