import SourcePatch.RustSyntax.Lexeme

/-!
# Tokens

A source text is a list of tokens, of which some are groups of tokens between delimiters.
`Tokens.ofText?` reads a text; it fails where the delimiters do not match or something is no
lexeme. Documentation becomes the attribute `doc` that it stands for.
-/

namespace SourcePatch.RustSyntax

inductive Delimiter where
  | paren
  | bracket
  | brace
deriving DecidableEq, Repr

/-- A sign is joined to the next token if that is a sign too and nothing stands between them. -/
inductive Token where
  | word (name : String) (raw : Bool)
  | lifetime (name : String)
  | sign (sign : Char) (joined : Bool)
  | literal (kind : LiteralKind) (field : FieldNumber)
  | group (delimiter : Delimiter) (content : List Token)
deriving Repr

/-- How many tokens there are in a list, those in groups counted. -/
def Token.count : List Token → Nat
  | [] => 0
  | .group _ content :: ts => Token.count content + Token.count ts + 1
  | _ :: ts => Token.count ts + 1

namespace Tokens

/-- The tokens of an attribute `doc`, backwards. -/
def documentation : DocKind → List Token
  | .outer => [content, .sign '#' false]
  | .inner => [content, .sign '!' false, .sign '#' false]
where
  content := .group .bracket [.word "doc" false, .sign '=' false, .literal .text .none]

/-- A group that is not closed yet, and the tokens before it, backwards. -/
structure OpenGroup where
  delimiter : Delimiter
  earlier : List Token

def opening? : Char → Option Delimiter
  | '(' => some .paren
  | '[' => some .bracket
  | '\x7b' => some .brace
  | _ => none

def closing? : Char → Option Delimiter
  | ')' => some .paren
  | ']' => some .bracket
  | '\x7d' => some .brace
  | _ => none

/-- The mark of a fault that a tool left in its output; it counts as a literal. -/
def errorMark : List Char := "(/*ERROR*/)".toList

/-- The field that a literal at the beginning of a text names. -/
def fieldOf : LiteralKind → List Char → FieldNumber
  | .integer, cs => integerField cs
  | .float, cs => floatField cs
  | _, _ => .none

/-- A token that is no group, and what follows it. -/
def leaf? (cs : List Char) : Option (Token × List Char) :=
  match literalLexeme? cs with
  | some (kind, rest) => some (.literal kind (fieldOf kind cs), rest)
  | none =>
    match cs with
    | '\'' :: _ =>
      match lifetimeQuote? cs with
      | none => none
      | some rest =>
        match literalLexeme? rest, nameLexeme? rest with
        | none, some name => some (.lifetime name.text, name.rest)
        | _, _ => some (.sign '\'' true, rest)
    | _ =>
      match signLexeme? cs with
      | some (c, rest) => some (.sign c (signLexeme? rest).isSome, rest)
      | none =>
        match wordLexeme? cs with
        | some name => some (.word name.text name.raw, name.rest)
        | none => none

/-- Reads a text to its end. `current` are the tokens of the innermost group so far, backwards,
and `outer` the groups around it. -/
def read : (fuel : Nat) → (outer : List OpenGroup) → (current : List Token) → List Char →
    Option (List Token)
  | 0, _, _, _ => none
  | _ + 1, [], current, [] => some current.reverse
  | _ + 1, _ :: _, _, [] => none
  | fuel + 1, outer, current, c :: cs =>
    match trivium (c :: cs), docComment? (c :: cs), afterPrefix errorMark (c :: cs) with
    | some rest, _, _ => read fuel outer current rest
    | none, some (kind, rest), _ => read fuel outer (documentation kind ++ current) rest
    | none, none, some rest => read fuel outer (.literal .error .none :: current) rest
    | none, none, none =>
      match opening? c, closing? c with
      | some delimiter, _ => read fuel (⟨delimiter, current⟩ :: outer) [] cs
      | none, some delimiter =>
        match outer with
        | group :: outer =>
          if group.delimiter = delimiter then
            read fuel outer (.group delimiter current.reverse :: group.earlier) cs
          else none
        | [] => none
      | none, none =>
        match leaf? (c :: cs) with
        | some (token, rest) => read fuel outer (token :: current) rest
        | none => none

/-- The tokens of a text. -/
def ofText? (cs : List Char) : Option (List Token) := read (cs.length + 1) [] [] cs

end Tokens

end SourcePatch.RustSyntax
