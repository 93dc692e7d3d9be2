import SourcePatch.Unicode.Property

/-!
# Lexemes

What a source text is made of at its front: blanks and comments, documentation, literals, names
and signs. Each scanner returns what is left of the text after a lexeme, if one stands at its
beginning.

Blanks are the characters of `White_Space` and the two direction marks; names follow the
properties `XID_Start` and `XID_Continue`. A carriage return in a string or in documentation has
to be followed by a newline.
-/

namespace SourcePatch.RustSyntax

abbrev Scan := List Char → Option (List Char)

/-- What is left after a given beginning. -/
def afterPrefix : List Char → List Char → Option (List Char)
  | [], cs => some cs
  | p :: ps, c :: cs => if p = c then afterPrefix ps cs else none
  | _ :: _, [] => none

/-! ## Names -/

def nameStarts : CharSet := Unicode.property "xidstart"

def nameParts : CharSet := Unicode.property "xidcontinue"

def startsName (c : Char) : Bool :=
  if c.toNat < 0x80 then c.isAlpha || c = '_' else nameStarts.contains c

def continuesName (c : Char) : Bool :=
  if c.toNat < 0x80 then c.isAlphanum || c = '_' else nameParts.contains c

/-- A name and what follows it. -/
def plainName? : List Char → Option (List Char × List Char)
  | c :: cs =>
    if startsName c then some (c :: cs.takeWhile continuesName, cs.dropWhile continuesName)
    else none
  | [] => none

/-- Names that cannot be written in raw form. -/
def neverRaw : List String := ["_", "super", "self", "Self", "crate"]

structure NameLexeme where
  text : String
  raw : Bool
  rest : List Char

/-- A name, or a raw name after `r#`. -/
def nameLexeme? (cs : List Char) : Option NameLexeme :=
  match cs with
  | 'r' :: '#' :: rest =>
    match plainName? rest with
    | some (name, rest) =>
      if neverRaw.contains (String.ofList name) then none
      else some ⟨String.ofList name, true, rest⟩
    | none => none
  | _ => (plainName? cs).map fun (name, rest) => ⟨String.ofList name, false, rest⟩

/-- Literals may have a name right behind them. -/
def dropSuffix (cs : List Char) : List Char :=
  match plainName? cs with
  | some (_, rest) => rest
  | none => cs

/-! ## Blanks and comments -/

def isSpace (c : Char) : Bool := Blank.isBlank c || c = '\u200e' || c = '\u200f'

/-- The text from the next line break on. -/
def dropLine : List Char → List Char
  | [] => []
  | '\r' :: '\n' :: cs => '\n' :: cs
  | c :: cs => if c = '\n' then c :: cs else dropLine cs

/-- What follows a block comment that is open at some depth; comments nest. -/
def blockEnd : (depth : Nat) → Scan
  | depth, '/' :: '*' :: cs => blockEnd (depth + 1) cs
  | depth, '*' :: '/' :: cs => if depth ≤ 1 then some cs else blockEnd (depth - 1) cs
  | depth, _ :: cs => blockEnd depth cs
  | _, [] => none

def blockComment : Scan
  | '/' :: '*' :: cs => blockEnd 1 cs
  | _ => none

/-- A blank, or a comment that is no documentation. -/
def trivium : Scan
  | '/' :: '/' :: '/' :: '/' :: cs => some (dropLine cs)
  | '/' :: '/' :: '/' :: _ => none
  | '/' :: '/' :: '!' :: _ => none
  | '/' :: '/' :: cs => some (dropLine cs)
  | '/' :: '*' :: '*' :: '/' :: cs => some cs
  | '/' :: '*' :: '*' :: '*' :: cs => blockEnd 1 ('*' :: '*' :: cs)
  | '/' :: '*' :: '*' :: _ => none
  | '/' :: '*' :: '!' :: _ => none
  | '/' :: '*' :: cs => blockEnd 1 cs
  | c :: cs => if isSpace c then some cs else none
  | [] => none

/-- The text without blanks and comments at its beginning. -/
def skipTrivia : (fuel : Nat) → List Char → List Char
  | 0, cs => cs
  | fuel + 1, cs =>
    match trivium cs with
    | some rest => skipTrivia fuel rest
    | none => cs

/-- Is there a carriage return without a newline after it? -/
def hasBareReturn : List Char → Bool
  | '\r' :: '\n' :: cs => hasBareReturn cs
  | '\r' :: _ => true
  | _ :: cs => hasBareReturn cs
  | [] => false

/-- Documentation is about what comes next, or about what it stands in. -/
inductive DocKind where
  | outer
  | inner
deriving DecidableEq, Repr

/-- A comment that is documentation, and what follows it. -/
def docComment? (cs : List Char) : Option (DocKind × List Char) := do
  let (kind, rest) ← match cs with
    | '/' :: '/' :: '!' :: rest => some (DocKind.inner, dropLine rest)
    | '/' :: '*' :: '!' :: _ => (blockComment cs).map (.inner, ·)
    | '/' :: '/' :: '/' :: '/' :: _ => none
    | '/' :: '/' :: '/' :: rest => some (.outer, dropLine rest)
    | '/' :: '*' :: '*' :: '*' :: _ => none
    | '/' :: '*' :: '*' :: _ => (blockComment cs).map (.outer, ·)
    | _ => none
  if hasBareReturn (cs.take (cs.length - rest.length)) then none else some (kind, rest)

/-! ## Texts -/

/-- Texts of characters, of octets, and of characters other than NUL. -/
inductive TextKind where
  | chars
  | octets
  | nonNul
deriving DecidableEq, Repr

def isHex (c : Char) : Bool :=
  c.isDigit || ('a' ≤ c && c ≤ 'f') || ('A' ≤ c && c ≤ 'F')

def hexDigit (c : Char) : Nat :=
  if c.isDigit then c.toNat - 48 else if c.toNat < 97 then c.toNat - 55 else c.toNat - 87

/-- May a character stand in a text as it is? -/
def TextKind.allows (k : TextKind) (c : Char) : Bool :=
  match k with
  | .chars => true
  | .octets => c.toNat < 0x80
  | .nonNul => c != '\x00'

/-- How many characters a code point between braces takes, and its value; `count` digits were
read so far. -/
def codePoint? : (count value : Nat) → List Char → Option (Nat × Nat)
  | count, value, c :: cs =>
    if c = '\x7d' then if count = 0 then none else some (1, value)
    else if c = '_' then
      if count = 0 then none else (codePoint? count value cs).map fun (n, v) => (n + 1, v)
    else if isHex c && count < 6 then
      (codePoint? (count + 1) (value * 16 + hexDigit c) cs).map fun (n, v) => (n + 1, v)
    else none
  | _, _, [] => none

/-- How many blanks at the beginning of a line are passed over after a backslash at the end of the
line before. Something has to follow them. -/
def blanksAfterBreak : List Char → Option Nat
  | '\r' :: '\n' :: cs => (blanksAfterBreak cs).map (· + 2)
  | '\r' :: _ => none
  | c :: cs =>
    if c = '\n' || c = ' ' || c = '\t' then (blanksAfterBreak cs).map (· + 1) else some 0
  | [] => none

/-- How many characters an escape takes after its backslash. -/
def escapeLength? (k : TextKind) : List Char → Option Nat
  | 'x' :: a :: b :: _ =>
    let inRange := match k with
      | .chars => '0' ≤ a && a ≤ '7'
      | .octets => true
      | .nonNul => a != '0' || b != '0'
    if isHex a && isHex b && inRange then some 3 else none
  | 'u' :: '\x7b' :: cs =>
    if k = .octets then none
    else match codePoint? 0 0 cs with
      | some (n, value) =>
        if value.isValidChar && (k = .chars || value != 0) then some (n + 2) else none
      | none => none
  | '0' :: _ => if k = .nonNul then none else some 1
  | c :: cs =>
    if ['n', 'r', 't', '\\', '\'', '"'].contains c then some 1
    else if c = '\n' || c = '\r' then blanksAfterBreak (c :: cs)
    else none
  | [] => none

/-- What follows a text in double quotes that is open; `skip` characters belong to an escape. -/
def quotedEnd (k : TextKind) : (skip : Nat) → Scan
  | skip + 1, _ :: cs => quotedEnd k skip cs
  | 0, '"' :: cs => some (dropSuffix cs)
  | 0, '\\' :: cs =>
    match escapeLength? k cs with
    | some n => quotedEnd k n cs
    | none => none
  | 0, '\r' :: cs => if cs.head? = some '\n' then quotedEnd k 0 cs else none
  | 0, c :: cs => if k.allows c then quotedEnd k 0 cs else none
  | _, [] => none

/-- What follows a raw text that ends in a quote and as many signs `#` as it began with. -/
def rawEnd (k : TextKind) (hashes : List Char) : Scan
  | '"' :: cs =>
    match afterPrefix hashes cs with
    | some rest => some (dropSuffix rest)
    | none => rawEnd k hashes cs
  | '\r' :: cs => if cs.head? = some '\n' then rawEnd k hashes cs else none
  | c :: cs => if k.allows c then rawEnd k hashes cs else none
  | [] => none

/-- The most signs `#` that a raw text begins with. -/
def maxHashes : Nat := 255

/-- A raw text, after its letters. -/
def rawText (k : TextKind) : Scan := fun cs =>
  let hashes := cs.takeWhile (· = '#')
  match cs.dropWhile (· = '#') with
  | '"' :: rest => if hashes.length ≤ maxHashes then rawEnd k hashes rest else none
  | _ => none

/-- What follows a character in single quotes that is open. -/
def singleEnd (k : TextKind) : Scan
  | '\\' :: cs =>
    let length? := match cs with
      | '0' :: _ => some 1
      | '\n' :: _ => none
      | '\r' :: _ => none
      | _ => escapeLength? k cs
    match length? with
    | some n =>
      match cs.drop n with
      | '\'' :: rest => some (dropSuffix rest)
      | _ => none
    | none => none
  | c :: '\'' :: cs => if k.allows c then some (dropSuffix cs) else none
  | _ => none

/-! ## Numbers -/

/-- A number may not run into a name. -/
def wordBreak : Scan
  | c :: cs => if continuesName c then none else some (c :: cs)
  | [] => some []

/-- A number with its suffix. -/
def numberEnd (cs : List Char) : Option (List Char) := wordBreak (dropSuffix cs)

def isDigitOrBar (c : Char) : Bool := c.isDigit || c = '_'

/-- The digits of an exponent, with or without a sign. -/
def exponent (cs : List Char) : Option (List Char) :=
  let bars := cs.dropWhile (· = '_')
  let unsigned := match bars with
    | '+' :: rest => rest
    | '-' :: rest => rest
    | _ => bars
  let digits := unsigned.takeWhile isDigitOrBar
  if digits.any Char.isDigit then some (unsigned.dropWhile isDigitOrBar) else none

/-- A number with a point, an exponent or both, without its suffix. A point is not one of the
number if another point or a name follows it. -/
def floatDigits : Scan := fun cs =>
  match cs with
  | c :: _ =>
    if !c.isDigit then none
    else
      match cs.dropWhile isDigitOrBar with
      | '.' :: rest =>
        let fraction := rest.dropWhile isDigitOrBar
        match rest with
        | d :: _ =>
          if d = '.' || startsName d then none
          else match fraction with
            | 'e' :: tail => (exponent tail).or (some fraction)
            | 'E' :: tail => (exponent tail).or (some fraction)
            | _ => some fraction
        | [] => some []
      | 'e' :: tail => exponent tail
      | 'E' :: tail => exponent tail
      | _ => none
  | [] => none

def float : Scan := fun cs => (floatDigits cs).bind numberEnd

/-- The digits of an integer in a base. A decimal digit that is too great is a fault, a letter
that is no digit ends the number. -/
def digitsEnd (base : Nat) : (empty : Bool) → Scan
  | empty, [] => if empty then none else some []
  | empty, c :: cs =>
    if c.isDigit then if hexDigit c < base then digitsEnd base false cs else none
    else if isHex c && hexDigit c < base then digitsEnd base false cs
    else if c = '_' then if empty && base = 10 then none else digitsEnd base empty cs
    else if empty then none else some (c :: cs)

def integerDigits : Scan
  | '0' :: 'x' :: cs => digitsEnd 16 true cs
  | '0' :: 'o' :: cs => digitsEnd 8 true cs
  | '0' :: 'b' :: cs => digitsEnd 2 true cs
  | cs => digitsEnd 10 true cs

def integer : Scan := fun cs => (integerDigits cs).bind numberEnd

/-! ## Field numbers -/

/-- The greatest number of a field. -/
def maxField : Nat := 0xFFFFFFFF

/-- Is a text the number of a field, in any base and without a suffix? -/
def isFieldNumber (cs : List Char) : Bool :=
  let (base, digits) := match cs with
    | '0' :: 'x' :: digits => (16, digits)
    | '0' :: 'o' :: digits => (8, digits)
    | '0' :: 'b' :: digits => (2, digits)
    | digits => (10, digits)
  let digits := digits.filter (· != '_')
  !digits.isEmpty && digits.all (fun c => isHex c && hexDigit c < base)
    && digits.foldl (fun n c => n * base + hexDigit c) 0 ≤ maxField

/-- What a number is after the point of a field access: no field, a field or several, or fields
and the point before another one. -/
inductive FieldNumber where
  | none
  | complete
  | open
deriving DecidableEq, Repr

/-- The field that an integer at the beginning of a text names. -/
def integerField (cs : List Char) : FieldNumber :=
  if isFieldNumber (cs.takeWhile continuesName) then .complete else .none

/-- The two fields that a number with a point names. -/
def floatField (cs : List Char) : FieldNumber :=
  if !isFieldNumber (cs.takeWhile continuesName) then .none
  else match cs.dropWhile continuesName with
    | '.' :: rest =>
      let second := rest.takeWhile continuesName
      if second.isEmpty then .open else if isFieldNumber second then .complete else .none
    | _ => .none

/-! ## Literals -/

inductive LiteralKind where
  | text
  | octets
  | nonNulText
  | octet
  | character
  | float
  | integer
  | error
deriving DecidableEq, Repr

/-- A literal at the beginning of a text, and what follows it. -/
def literalLexeme? (cs : List Char) : Option (LiteralKind × List Char) :=
  let quoted : Option (LiteralKind × List Char) := match cs with
    | '"' :: rest => (quotedEnd .chars 0 rest).map (.text, ·)
    | 'r' :: rest => (rawText .chars rest).map (.text, ·)
    | 'b' :: '"' :: rest => (quotedEnd .octets 0 rest).map (.octets, ·)
    | 'b' :: 'r' :: rest => (rawText .octets rest).map (.octets, ·)
    | 'c' :: '"' :: rest => (quotedEnd .nonNul 0 rest).map (.nonNulText, ·)
    | 'c' :: 'r' :: rest => (rawText .nonNul rest).map (.nonNulText, ·)
    | 'b' :: '\'' :: rest => (singleEnd .octets rest).map (.octet, ·)
    | '\'' :: rest => (singleEnd .chars rest).map (.character, ·)
    | _ => none
  quoted <|> (float cs).map (.float, ·) <|> (integer cs).map (.integer, ·)

/-- How texts begin; no name begins like that. -/
def textOpenings : List String :=
  ["r\"", "r#\"", "r##", "b\"", "b'", "br\"", "br#", "c\"", "cr\"", "cr#"]

/-- A name that no text begins with. -/
def wordLexeme? (cs : List Char) : Option NameLexeme :=
  if textOpenings.any fun o => (afterPrefix o.toList cs).isSome then none else nameLexeme? cs

/-! ## Signs -/

def signs : List Char := "~!@#$%^&*-=+|;:,<.>/?'".toList

/-- A sign. The slash of a comment is none. -/
def signLexeme? : List Char → Option (Char × List Char)
  | '/' :: '/' :: _ => none
  | '/' :: '*' :: _ => none
  | c :: cs => if signs.contains c then some (c, cs) else none
  | [] => none

/-- A quote that begins the name of a lifetime or a label, and what follows the quote. After the
name there is no other quote, and a sign `#` only if the name is raw. -/
def lifetimeQuote? : Scan
  | '\'' :: rest =>
    match nameLexeme? rest with
    | some name =>
      match name.rest with
      | '\'' :: _ => none
      | '#' :: _ => if name.raw then some rest else none
      | _ => some rest
    | none => none
  | _ => none

end SourcePatch.RustSyntax
