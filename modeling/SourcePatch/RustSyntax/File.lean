import SourcePatch.RustSyntax.Grammar.Statement

/-!
# Source files

`isFile` says whether a text has the form of a source file: an interpreter line if it wants one,
attributes of the whole, and items. Phrases may nest in each other without bound, so the grammar of
a text is built up to a depth that no phrase of it can exceed.
-/

namespace SourcePatch.RustSyntax

namespace Grammar

/-- The grammar in which phrases nest to a given depth. -/
def ofDepth (limit : Nat) : (depth : Nat) → Grammar
  | 0 =>
    { limit
      expr := fun _ => failure
      operand := fun _ => failure
      operations := fun _ _ _ => failure
      statementExpr := failure
      type := fun _ => failure
      bound := fun _ _ => failure
      pattern := failure
      statements := failure
      item := failure
      useTree := fun _ => failure
      namedFields := failure }
  | depth + 1 =>
    { limit
      expr := fun structs ts => (ofDepth limit depth).exprRule structs ts
      operand := fun structs ts => (ofDepth limit depth).operandRule structs ts
      operations := fun structs left atLeast ts =>
        (ofDepth limit depth).operationsRule structs left atLeast ts
      statementExpr := fun ts => (ofDepth limit depth).statementExprRule ts
      type := fun plus ts => (ofDepth limit depth).typeRule plus ts
      bound := fun capture const ts => (ofDepth limit depth).boundRule capture const ts
      pattern := fun ts => (ofDepth limit depth).patternRule ts
      statements := fun ts => (ofDepth limit depth).statementsRule ts
      item := fun ts => (ofDepth limit depth).itemRule ts
      useTree := fun fromRoot ts => (ofDepth limit depth).useTreeRule fromRoot ts
      namedFields := fun ts => (ofDepth limit depth).namedFieldsRule ts }

/-- How many phrases may begin at one token. -/
def phrasesPerToken : Nat := 16

/-- A grammar for texts of so many tokens. -/
def ofSize (tokens : Nat) : Grammar := ofDepth (tokens + 1) (phrasesPerToken * (tokens + 1))

/-- Attributes of the file, and its items. -/
def file (g : Grammar) : Reader Unit := do
  g.innerAttributes
  g.items

end Grammar

/-- A mark of the order of octets, which may stand at the beginning. -/
def orderMark : Char := '\ufeff'

def dropOrderMark (cs : List Char) : List Char :=
  if cs.head? = some orderMark then cs.drop 1 else cs

/-- The text without its first line, if that names an interpreter. A line that begins with an
attribute of the file names none. -/
def dropInterpreter (cs : List Char) : List Char :=
  match cs with
  | '#' :: '!' :: rest =>
    if (skipTrivia rest.length rest).head? = some '[' then cs else cs.dropWhile (· != '\n')
  | _ => cs

/-- Do these tokens make up a file? -/
def isTokenFile (ts : List Token) : Bool :=
  match (Grammar.ofSize (Token.count ts)).file ts with
  | some (_, rest) => rest.isEmpty
  | none => false

/-- Does a text have the form of a source file? -/
def isFile (source : String) : Bool :=
  let cs := dropOrderMark (dropInterpreter (dropOrderMark source.toList))
  match Tokens.ofText? cs with
  | some ts => isTokenFile ts
  | none => false

end SourcePatch.RustSyntax
