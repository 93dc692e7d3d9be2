import SourcePatch.RustSyntax.Grammar.Item

/-!
# Statements
-/

namespace SourcePatch.RustSyntax.Grammar

open Reader

variable (g : Grammar)

/-- Is there an item, among statements? -/
def startsItem : Lookahead := fun ts =>
  Ahead.anyOf (["pub", "extern", "use", "fn", "mod", "type", "struct", "enum", "trait", "impl",
    "macro"].map Ahead.word) ts ||
  (Ahead.word "crate" ts && !Ahead.second (Ahead.sign "::") ts) ||
  (Ahead.word "static" ts && Ahead.second (Ahead.anyOf [Ahead.word "mut", Ahead.name]) ts) ||
  (Ahead.word "const" ts && !startsConstExpr ts) ||
  (Ahead.word "unsafe" ts && !Ahead.second (Ahead.group .brace) ts) ||
  (Ahead.word "async" ts && Ahead.second startsAfterAsync ts) ||
  (Ahead.word "union" ts && Ahead.second Ahead.name ts) ||
  (Ahead.word "auto" ts && Ahead.second (Ahead.word "trait") ts) ||
  (Ahead.word "default" ts && Ahead.second (Ahead.anyOf [Ahead.word "unsafe", Ahead.word "impl"]) ts)
where
  /-- What follows `async` in an item. -/
  startsAfterAsync : Lookahead := Ahead.anyOf (["unsafe", "extern", "fn"].map Ahead.word)
  /-- A block or a closure after `const`. -/
  startsConstExpr : Lookahead := fun ts =>
    Ahead.second (Ahead.anyOf [Ahead.group .brace, Ahead.word "static", Ahead.word "move",
      Ahead.sign "|"]) ts ||
    (Ahead.second (Ahead.word "async") ts && !Ahead.third startsAfterAsync ts)

/-- How a statement ends. -/
inductive StatementEnd where
  | complete
  | needsSemicolon
deriving DecidableEq, Repr

/-- A macro call at the beginning of a statement: an item that defines a macro, or a call with
braces that is a statement by itself. -/
inductive MacroStatement where
  | item
  | call (rest : List Token)

/-- Looks for a macro call that is a statement. A call in braces is part of an expression if a
field access or a question mark follows it. -/
def macroStatement? (ts : List Token) : Option MacroStatement :=
  match g.modulePath.run ts with
  | none => none
  | some (_, rest) =>
    if !Ahead.sign "!" rest then none
    else if Ahead.second (Ahead.anyOf [Ahead.name, Ahead.word "try"]) rest then some .item
    else if Ahead.second (Ahead.group .brace) rest &&
        !Ahead.third (Ahead.anyOf [Ahead.signNot "." "..", Ahead.sign "?"]) rest then
      some (.call (rest.drop 2))
    else none

/-- Is the last token that was read a group in braces? -/
def endsInBrace (before after : List Token) : Bool :=
  match (before.take (before.length - after.length)).getLast? with
  | some (.group .brace _) => true
  | _ => false

/-- A `let` with its type, its value, and what happens if the pattern does not match. -/
def letStatement : Reader Unit := do
  word "let"
  let _ ← g.pattern
  if ← sign? ":" then g.anyType
  if ← sign? "=" then
    let before ← get
    g.anyExpr
    if !endsInBrace before (← get) && (← word? "else") then g.block
  sign ";"

def exprStatement : Reader StatementEnd := do
  let shape ← g.statementExpr
  let closed ← sign? ";"
  return if closed || shape = .block || shape = .braceMacro then .complete else .needsSemicolon

def statement : Reader StatementEnd := do
  g.outerAttributes
  let next ← get
  match g.macroStatement? next with
  | some (.call rest) =>
    set rest
    let _ ← sign? ";"
    return .complete
  | some .item =>
    g.item
    return .complete
  | none =>
    if Ahead.word "let" next then
      g.letStatement
      return .complete
    else if startsItem next then
      g.item
      return .complete
    else g.exprStatement

/-- Statements up to the end. What needs a semicolon and has none is the last one. -/
def statementsRule : Reader Unit :=
  repeated g.limit do
    whileAhead g.limit (Ahead.sign ";") (sign ";")
    if ← peek Ahead.atEnd then return false
    match ← g.statement with
    | .complete => return true
    | .needsSemicolon =>
      require Ahead.atEnd
      return false

end SourcePatch.RustSyntax.Grammar
