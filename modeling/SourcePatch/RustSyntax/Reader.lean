import SourcePatch.RustSyntax.Token

/-!
# Readers

A `Reader` takes tokens from the front of a list, or fails. The predicates in `Ahead` look at the
tokens to come; a sign of several characters is there only if its parts are joined.
-/

namespace SourcePatch.RustSyntax

abbrev Reader (α : Type) := StateT (List Token) Option α

/-- Words that are no names unless they are written in raw form. -/
def reservedWords : List String :=
  ["_", "abstract", "as", "async", "await", "become", "box", "break", "const", "continue", "crate",
   "do", "dyn", "else", "enum", "extern", "false", "final", "fn", "for", "if", "impl", "in", "let",
   "loop", "macro", "match", "mod", "move", "mut", "override", "priv", "pub", "ref", "return",
   "Self", "self", "static", "struct", "super", "trait", "true", "try", "type", "typeof", "unsafe",
   "unsized", "use", "virtual", "where", "while", "yield"]

abbrev Lookahead := List Token → Bool

namespace Ahead

def atEnd : Lookahead := List.isEmpty

/-- The signs of a list, each joined to the next one. -/
def signs : List Char → Lookahead
  | [], _ => true
  | [c], .sign d _ :: _ => c = d
  | c :: cs, .sign d joined :: ts => c = d && joined && signs cs ts
  | _, _ => false

def sign (text : String) : Lookahead := signs text.toList

def word (text : String) : Lookahead
  | .word name false :: _ => name = text
  | _ => false

def anyWord : Lookahead
  | .word .. :: _ => true
  | _ => false

def name : Lookahead
  | .word name raw :: _ => raw || !reservedWords.contains name
  | _ => false

def lifetime : Lookahead
  | .lifetime _ :: _ => true
  | _ => false

def group (d : Delimiter) : Lookahead
  | .group e _ :: _ => d = e
  | _ => false

def number : Lookahead
  | .literal .integer _ :: _ => true
  | .literal .float _ :: _ => true
  | _ => false

/-- A literal; a number may have a minus sign. -/
def literal : Lookahead
  | .literal .. :: _ => true
  | .sign '-' _ :: ts => number ts
  | ts => word "true" ts || word "false" ts

def text : Lookahead
  | .literal .text _ :: _ => true
  | _ => false

def second (p : Lookahead) : Lookahead := fun ts => p (ts.drop 1)

def third (p : Lookahead) : Lookahead := fun ts => p (ts.drop 2)

/-- A sign that is not the beginning of a longer one. -/
def signNot (text longer : String) : Lookahead := fun ts => sign text ts && !sign longer ts

def anyOf (ps : List Lookahead) : Lookahead := fun ts => ps.any (· ts)

end Ahead

namespace Reader

def peek (p : Lookahead) : Reader Bool := return p (← get)

/-- Goes on only if the tokens ahead are as said. -/
def require (p : Lookahead) : Reader Unit := do if p (← get) then return () else failure

/-- Leaves out a number of tokens. -/
def skip (n : Nat) : Reader Unit := modify (·.drop n)

def sign (text : String) : Reader Unit := do
  require (Ahead.sign text)
  skip text.length

/-- Takes a sign if it is there, and tells whether it was. -/
def sign? (text : String) : Reader Bool := do
  if ← peek (Ahead.sign text) then
    skip text.length
    return true
  else return false

def word (text : String) : Reader Unit := do
  require (Ahead.word text)
  skip 1

def word? (text : String) : Reader Bool := do
  if ← peek (Ahead.word text) then
    skip 1
    return true
  else return false

def name : Reader Unit := do
  require Ahead.name
  skip 1

/-- A name or any other word. -/
def anyWord : Reader Unit := do
  require Ahead.anyWord
  skip 1

/-- A name, or one of the words that are let pass here. -/
def nameOr (words : List String) : Reader Unit := do
  require fun ts => Ahead.name ts || words.any fun w => Ahead.word w ts
  skip 1

def lifetime : Reader Unit := do
  require Ahead.lifetime
  skip 1

def lifetime? : Reader Bool := do
  if ← peek Ahead.lifetime then
    skip 1
    return true
  else return false

def literal : Reader Unit := do
  require Ahead.literal
  skip (if ← peek (Ahead.sign "-") then 2 else 1)

/-- Reads all of a group. -/
def within {α : Type} (d : Delimiter) (inner : Reader α) : Reader α := do
  match ← get with
  | .group e content :: rest =>
    if d = e then
      match inner.run content with
      | some (a, []) => set rest; return a
      | _ => failure
    else failure
  | _ => failure

/-- Takes a group whatever is in it, and tells its delimiters. -/
def anyGroup : Reader Delimiter := do
  match ← get with
  | .group d _ :: rest => set rest; return d
  | _ => failure

/-- Reads with `attempt` or, if that fails, with `other` from the same place. -/
def orElse {α : Type} (attempt other : Reader α) : Reader α := fun ts =>
  match attempt ts with
  | some result => some result
  | none => other ts

/-! ## Repetition -/

/-- Repeats a step until it tells to stop, `limit` times at most. -/
def repeated : (limit : Nat) → (step : Reader Bool) → Reader Unit
  | 0, _ => failure
  | limit + 1, step => do
    if ← step then repeated limit step

/-- Repeats a step as long as the tokens ahead are as said. -/
def whileAhead (limit : Nat) (p : Lookahead) (step : Reader Unit) : Reader Unit :=
  repeated limit do
    if ← peek p then
      step
      return true
    else return false

/-- Elements with a separator after each but the last, where it may stand too. -/
def separated (limit : Nat) (stop : Lookahead) (separator : String) (element : Reader Unit) :
    Reader Unit :=
  repeated limit do
    if ← peek stop then return false
    element
    if ← peek stop then return false
    sign separator
    return true

/-- Elements up to the first one without a separator after it, or to where `stop` holds. -/
def joined (limit : Nat) (stop : Lookahead) (separator : String) (element : Reader Unit) :
    Reader Unit :=
  repeated limit do
    if ← peek stop then return false
    element
    sign? separator

/-- Elements with commas between them, up to the end. -/
def commaSeparated (limit : Nat) (element : Reader Unit) : Reader Unit :=
  separated limit Ahead.atEnd "," element

end Reader

end SourcePatch.RustSyntax
