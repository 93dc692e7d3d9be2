import SourcePatch.RustSyntax.Grammar.Pattern

/-!
# Expressions

An expression is an operand with the operations that follow it. An operand is an atom with
trailers, such as calls and field accesses, after any prefix operators.
-/

namespace SourcePatch.RustSyntax.Grammar

open Reader

variable (g : Grammar)

/-- Reads an expression whose shape does not matter. -/
def anyExpr : Reader Unit := do
  let _ ← g.expr true

/-- Is there an expression, after a word such as `return`? -/
def startsExpr : Lookahead :=
  Ahead.anyOf [fun ts => Ahead.anyWord ts && !Ahead.word "as" ts,
    Ahead.group .paren, Ahead.group .bracket, Ahead.group .brace, Ahead.literal,
    Ahead.signNot "!" "!=",
    fun ts => Ahead.signNot "-" "-=" ts && !Ahead.sign "->" ts,
    Ahead.signNot "*" "*=", Ahead.signNot "|" "|=", Ahead.signNot "&" "&=", Ahead.sign "..",
    fun ts => Ahead.signNot "<" "<=" ts && !Ahead.sign "<<=" ts,
    Ahead.sign "::", Ahead.lifetime, Ahead.sign "#"]

/-! ## Operations -/

/-- The binary operators, longer ones first. -/
def operators : List (String × Precedence) :=
  [("+=", .assign), ("-=", .assign), ("*=", .assign), ("/=", .assign), ("%=", .assign),
   ("^=", .assign), ("&=", .assign), ("|=", .assign), ("<<=", .assign), (">>=", .assign),
   ("&&", .and), ("||", .or), ("<<", .shift), (">>", .shift), ("==", .compare), ("<=", .compare),
   ("!=", .compare), (">=", .compare), ("+", .sum), ("-", .sum), ("*", .product), ("/", .product),
   ("%", .product), ("^", .bitXor), ("&", .bitAnd), ("|", .bitOr), ("<", .compare),
   (">", .compare)]

def operator? (ts : List Token) : Option (String × Precedence) :=
  operators.find? fun o => Ahead.sign o.1 ts

def startsAssignment : Lookahead := Ahead.signNot "=" "=>"

/-- How tightly the next operation binds. -/
def nextPrecedence (ts : List Token) : Precedence :=
  match operator? ts with
  | some (_, p) => p
  | none =>
    if startsAssignment ts then .assign
    else if Ahead.sign ".." ts then .range
    else if Ahead.word "as" ts then .cast
    else .jump

/-- The operations that bind tighter than the one whose right side this is. Assignments also
group to the right; a range has no operations after it. -/
def rightOperations (structs : Bool) (p : Precedence) : (limit : Nat) → ExprShape → Reader Unit
  | 0, _ => failure
  | limit + 1, right => do
    let next := nextPrecedence (← get)
    if (p.rank < next.rank || (next = p && p = .assign)) && right ≠ .range then
      rightOperations structs p limit (← g.operations structs right next)

/-- The right side of an operation. -/
def rightOperand (structs : Bool) (p : Precedence) : Reader Unit := do
  g.rightOperations structs p g.limit (← g.operand structs)

/-- Does an open range end here? -/
def endsRange (structs : Bool) : Lookahead := fun ts =>
  Ahead.anyOf [Ahead.atEnd, Ahead.signNot "." ".."] ts || (!structs && Ahead.group .brace ts) ||
    Ahead.anyOf ([",", ";", "?", "=>", "=", "+", "/", "%", "^", ">", "<=", "!=", "-=", "*=", "&=",
      "|=", "<<="].map Ahead.sign) ts ||
    Ahead.word "as" ts

/-- The sign of a range and its upper bound. -/
def rangeEnd (structs : Bool) : Reader Unit := do
  let closed ← rangeSign false
  if closed || !(← peek (endsRange structs)) then g.rightOperand structs .range

/-- After a cast there is no trailer. -/
def endsCast : Lookahead := fun ts =>
  !(Ahead.signNot "." ".." ts ||
    Ahead.anyOf [Ahead.sign "?", Ahead.group .bracket, Ahead.group .paren] ts)

def operationsFrom (structs : Bool) (atLeast : Precedence) :
    (limit : Nat) → ExprShape → Reader ExprShape
  | 0, _ => failure
  | limit + 1, left => do
    let ts ← get
    if left = .range then return left
    match operator? ts with
    | some (text, p) =>
      if p.rank < atLeast.rank then return left
      require fun _ => !(p = .compare && left = .comparison)
      sign text
      g.rightOperand structs p
      operationsFrom structs atLeast limit (if p = .compare then .comparison else .plain)
    | none =>
      if atLeast.rank ≤ Precedence.assign.rank && startsAssignment ts then
        sign "="
        g.rightOperand structs .assign
        operationsFrom structs atLeast limit .plain
      else if atLeast.rank ≤ Precedence.range.rank && Ahead.sign ".." ts then
        g.rangeEnd structs
        operationsFrom structs atLeast limit .range
      else if Ahead.word "as" ts then
        word "as"
        let _ ← g.type false
        require endsCast
        operationsFrom structs atLeast limit .plain
      else return left

def operationsRule (structs : Bool) (left : ExprShape) (atLeast : Precedence) :
    Reader ExprShape :=
  g.operationsFrom structs atLeast g.limit left

def exprRule (structs : Bool) : Reader ExprShape := do
  g.operations structs (← g.operand structs) .jump

/-! ## Blocks and control flow -/

/-- A condition with its block, and what comes after `else`. -/
def conditional : (limit : Nat) → Reader Unit
  | 0 => failure
  | limit + 1 => do
    word "if"
    let _ ← g.expr false
    g.block
    if ← word? "else" then
      if ← peek (Ahead.word "if") then conditional limit else g.block

def whileLoop : Reader Unit := do
  word "while"
  let _ ← g.expr false
  g.body

def forLoop : Reader Unit := do
  word "for"
  g.anyPattern
  word "in"
  let _ ← g.expr false
  g.body

def endlessLoop : Reader Unit := do
  word "loop"
  g.body

/-- A case of a match. Its comma may be left out after a block and at the end. -/
def matchArm : Reader Unit := do
  g.outerAttributes
  g.anyPattern
  if ← word? "if" then g.anyExpr
  sign "=>"
  let shape ← g.statementExpr
  if shape ≠ .block && !(← peek Ahead.atEnd) then sign ","
  else
    let _ ← sign? ","

def matchExpr : Reader Unit := do
  word "match"
  let _ ← g.expr false
  within .brace do
    g.innerAttributes
    whileAhead g.limit (fun ts => !Ahead.atEnd ts) g.matchArm

/-- A loop or a block with a label. -/
def labeled : Reader Unit := do
  lifetime
  sign ":"
  if ← peek (Ahead.word "while") then g.whileLoop
  else if ← peek (Ahead.word "for") then g.forLoop
  else if ← peek (Ahead.word "loop") then g.endlessLoop
  else g.body

/-- Is there an expression that ends in a block of its own? -/
def startsBlockExpr : Lookahead := fun ts =>
  Ahead.anyOf ([Ahead.group .brace, Ahead.lifetime] ++
    ["if", "while", "loop", "match", "unsafe"].map Ahead.word) ts ||
  (Ahead.word "for" ts && !Ahead.second startsGenerics ts) ||
  (Ahead.anyOf [Ahead.word "try", Ahead.word "const"] ts && Ahead.second (Ahead.group .brace) ts)

def blockExpr : Reader Unit := do
  if ← peek (Ahead.word "if") then g.conditional g.limit
  else if ← peek (Ahead.word "while") then g.whileLoop
  else if ← peek (Ahead.word "for") then g.forLoop
  else if ← peek (Ahead.word "loop") then g.endlessLoop
  else if ← peek (Ahead.word "match") then g.matchExpr
  else if ← word? "try" then g.block
  else if ← word? "unsafe" then g.body
  else if ← word? "const" then g.body
  else if ← peek Ahead.lifetime then g.labeled
  else g.body

/-! ## Closures -/

def startsClosure : Lookahead := fun ts =>
  Ahead.anyOf [Ahead.sign "|", Ahead.word "move", Ahead.word "static"] ts ||
  (Ahead.word "for" ts && Ahead.second startsGenerics ts) ||
  (Ahead.word "const" ts && !Ahead.second (Ahead.group .brace) ts) ||
  (Ahead.word "async" ts && Ahead.second (Ahead.anyOf [Ahead.sign "|", Ahead.word "move"]) ts)

def closureArgument : Reader Unit := do
  g.outerAttributes
  let _ ← g.pattern
  if ← sign? ":" then g.anyType

def closure (structs : Bool) : Reader Unit := do
  let _ ← g.binder?
  let _ ← word? "const"
  let _ ← word? "static"
  let _ ← word? "async"
  let _ ← word? "move"
  sign "|"
  separated g.limit (Ahead.sign "|") "," g.closureArgument
  sign "|"
  if ← sign? "->" then
    g.anyType
    g.block
  else
    let _ ← g.expr structs

/-! ## Atoms -/

/-- An asynchronous block. -/
def startsAsyncBlock : Lookahead := fun ts =>
  Ahead.word "async" ts && (Ahead.second (Ahead.group .brace) ts ||
    (Ahead.second (Ahead.word "move") ts && Ahead.third (Ahead.group .brace) ts))

def asyncBlock : Reader Unit := do
  word "async"
  let _ ← word? "move"
  g.block

def fieldValue : Reader Unit := do
  g.outerAttributes
  let named ← member
  if !named || (← peek (Ahead.sign ":")) then
    sign ":"
    g.anyExpr

/-- Fields of a struct literal; the value that all others come from may end the list. -/
def fieldValues : (limit : Nat) → Reader Unit
  | 0 => failure
  | limit + 1 => do
    if ← peek Ahead.atEnd then return ()
    if ← sign? ".." then
      if !(← peek Ahead.atEnd) then g.anyExpr
    else
      g.fieldValue
      if ← peek Ahead.atEnd then return ()
      sign ","
      fieldValues limit

/-- A path, a macro call or a struct literal. -/
def pathExpr (structs : Bool) : Reader ExprShape := do
  let p ← g.qualifiedPath true
  if !p.qualified && p.plain && (← peek (Ahead.signNot "!" "!=")) then
    sign "!"
    return if (← anyGroup) = .brace then .braceMacro else .plain
  if structs && (← peek (Ahead.group .brace)) then within .brace (g.fieldValues g.limit)
  return .plain

/-- A list in brackets, or a value and how often it is repeated. -/
def arrayExpr : Reader Unit :=
  within .bracket do
    if ← peek Ahead.atEnd then return ()
    g.anyExpr
    if ← sign? ";" then g.anyExpr
    else if !(← peek Ahead.atEnd) then
      sign ","
      commaSeparated g.limit g.anyExpr

/-- A condition that binds names. -/
def letExpr (structs : Bool) : Reader Unit := do
  word "let"
  g.anyPattern
  sign "="
  let _ ← g.operations structs (← g.operand structs) .compare

/-- A label after `break` is not the label of a loop. -/
def breakExpr (structs : Bool) : Reader Unit := do
  word "break"
  if ← lifetime? then require fun ts => !Ahead.sign ":" ts
  if ← peek fun ts => startsExpr ts && (structs || !Ahead.group .brace ts) then
    let _ ← g.expr structs

def optionalExpr : Reader Unit := do
  if ← peek startsExpr then g.anyExpr

def startsBuiltin : Lookahead := fun ts =>
  Ahead.word "builtin" ts && Ahead.second (Ahead.sign "#") ts

def builtinExpr : Reader Unit := do
  word "builtin"
  sign "#"
  name
  require (Ahead.group .paren)
  skip 1

def startsPathExpr : Lookahead := fun ts =>
  startsExprPath ts ||
  (Ahead.word "try" ts && Ahead.second (Ahead.anyOf [Ahead.sign "!", Ahead.sign "::"]) ts)

/-- Reads an atom whose shape does not matter; what begins with a path is read elsewhere. -/
def plainAtom (structs : Bool) : Reader Unit := do
  if ← peek (Ahead.group .paren) then within .paren (commaSeparated g.limit g.anyExpr)
  else if ← peek (Ahead.word "break") then g.breakExpr structs
  else if ← word? "continue" then
    let _ ← lifetime?
  else if ← word? "return" then g.optionalExpr
  else if ← word? "become" then g.anyExpr
  else if ← peek (Ahead.group .bracket) then g.arrayExpr
  else if ← peek (Ahead.word "let") then g.letExpr structs
  else if ← word? "yield" then g.optionalExpr
  else if ← word? "_" then return ()
  else failure

def atom (structs : Bool) : Reader ExprShape := do
  if ← peek Ahead.literal then
    literal
    return .plain
  else if ← peek startsAsyncBlock then
    g.asyncBlock
    return .plain
  else if ← peek startsClosure then
    g.closure structs
    return .plain
  else if ← peek startsBuiltin then
    builtinExpr
    return .plain
  else if ← peek startsPathExpr then g.pathExpr structs
  else if ← peek startsBlockExpr then
    g.blockExpr
    return .plain
  else if ← peek (Ahead.sign "..") then
    g.rangeEnd structs
    return .range
  else
    g.plainAtom structs
    return .plain

/-! ## Trailers -/

def callArguments : Reader Unit := within .paren (commaSeparated g.limit g.anyExpr)

/-- What follows the point of a field access or a method call. -/
def access : Reader Unit := do
  match ← get with
  | .literal .float .complete :: rest => set rest
  | .literal .float .none :: _ => failure
  | ts =>
    if let .literal .float .open :: rest := ts then set rest
    if ← word? "await" then return ()
    let named ← member
    if named then
      if ← peek (Ahead.sign "::") then
        let _ ← g.angleArguments
        g.callArguments
      else if ← peek (Ahead.group .paren) then g.callArguments

def trailersFrom : (limit : Nat) → ExprShape → Reader ExprShape
  | 0, _ => failure
  | limit + 1, e => do
    if ← peek (Ahead.group .paren) then
      g.callArguments
      trailersFrom limit .plain
    else if ← peek (Ahead.group .bracket) then
      within .bracket g.anyExpr
      trailersFrom limit .plain
    else if e = .range then return e
    else if ← peek (Ahead.signNot "." "..") then
      sign "."
      g.access
      trailersFrom limit .plain
    else if ← sign? "?" then trailersFrom limit .plain
    else return e

def trailers (e : ExprShape) : Reader ExprShape := g.trailersFrom g.limit e

/-! ## Operands -/

/-- A reference, which may be a raw one. -/
def referenceExpr (structs : Bool) : Reader Unit := do
  sign "&"
  if ← peek fun ts => Ahead.word "raw" ts &&
      Ahead.second (Ahead.anyOf [Ahead.word "mut", Ahead.word "const"]) ts then
    skip 2
  else
    let _ ← word? "mut"
  let _ ← g.operand structs

def operandRule (structs : Bool) : Reader ExprShape := do
  let attributed ← peek (Ahead.sign "#")
  g.outerAttributes
  if ← peek (Ahead.sign "&") then
    g.referenceExpr structs
    return .plain
  else if ← peek (Ahead.anyOf [Ahead.sign "*", Ahead.sign "!", Ahead.sign "-"]) then
    skip 1
    let _ ← g.operand structs
    return .plain
  else
    let shape ← g.trailers (← g.atom structs)
    require fun _ => !(attributed && shape = .range)
    return shape

/-- An expression where a statement may end. After a block, only a trailer goes on. -/
def statementExprRule : Reader ExprShape := do
  g.outerAttributes
  if ← peek startsBlockExpr then
    g.blockExpr
    if ← peek (Ahead.anyOf [Ahead.signNot "." "..", Ahead.sign "?"]) then
      g.operations true (← g.trailers .plain) .jump
    else return .block
  else g.operations true (← g.operand true) .jump

end SourcePatch.RustSyntax.Grammar
