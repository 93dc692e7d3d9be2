import SourcePatch.Toml.Value
import SourcePatch.Pattern.Parser

/-!
# Reading TOML

`parse` reads a document of TOML 1.1. The reader is a list of the characters left; fuel bounds the
nesting of values and the length of lists.
-/

namespace SourcePatch.Toml

abbrev Parse := StateT (List Char) (Except Fault)

namespace Parse

def peek : Parse (Option Char) := return (← get).head?

def bump : Parse Unit := modify List.tail

/-- Passes a fixed text if it stands next. -/
def accept (text : String) : Parse Bool := do
  let cs ← get
  if text.toList.isPrefixOf cs then
    set (cs.drop text.length)
    return true
  else return false

def expect (text : String) : Parse Unit := do
  if !(← accept text) then throw .unexpected

def isSpace (c : Char) : Bool := c = ' ' || c = '\t'

def skipSpaces : Parse Unit := modify (·.dropWhile isSpace)

/-- May the character stand in a comment or, but for the quote, in a string? -/
def isVisible (c : Char) : Bool := c = '\t' || (' ' ≤ c && c != '\x7f')

/-- Passes a newline if one stands next. -/
def newline : Parse Bool := do
  if ← accept "\n" then return true else accept "\r\n"

/-- Passes a comment if one stands next. -/
def comment : Parse Unit := do
  if (← peek) = some '#' then
    modify (·.dropWhile isVisible)
    match ← get with
    | [] => return
    | '\n' :: _ => return
    | '\r' :: '\n' :: _ => return
    | _ => throw .controlCharacter

/-- Passes the rest of a line, which holds at most a comment. -/
def lineEnd : Parse Unit := do
  skipSpaces
  comment
  if (← get).isEmpty then return
  if !(← newline) then throw .unexpected

/-- Passes blanks, comments and line ends. -/
def skipLines : (fuel : Nat) → Parse Unit
  | 0 => return
  | fuel + 1 => do
    skipSpaces
    comment
    if ← newline then skipLines fuel

/-! ## Strings -/

def scalar (digits : List Char) : Parse Char := do
  match digits.mapM Pattern.Parse.hexValue? with
  | none => throw .badEscape
  | some values =>
    match Pattern.Parse.charOf? (values.foldl (fun n d => n * 16 + d) 0) with
    | some c => return c
    | none => throw .badEscape

/-- The character that an escape of `width` hexadecimal digits means. -/
def hexEscape (width : Nat) : Parse Char := do
  let digits := (← get).take width
  if digits.length < width then throw .badEscape
  modify (·.drop width)
  scalar digits

/-- What stands after a backslash in a string. -/
def escape : Parse Char := do
  match ← peek with
  | none => throw .unterminatedString
  | some c =>
    bump
    match c with
    | 'b' => return '\x08'
    | 't' => return '\t'
    | 'n' => return '\n'
    | 'f' => return '\x0c'
    | 'r' => return '\r'
    | 'e' => return '\x1b'
    | '"' => return '"'
    | '\\' => return '\\'
    | 'x' => hexEscape 2
    | 'u' => hexEscape 4
    | 'U' => hexEscape 8
    | _ => throw .badEscape

/-- A string of one line, after its opening quote. -/
def lineString (quote : Char) : (fuel : Nat) → (acc : List Char) → Parse String
  | 0, _ => throw .unterminatedString
  | fuel + 1, acc => do
    match ← peek with
    | none => throw .unterminatedString
    | some c =>
      bump
      if c = quote then return String.ofList acc.reverse
      else if c = '\\' && quote = '"' then lineString quote fuel ((← escape) :: acc)
      else if isVisible c then lineString quote fuel (c :: acc)
      else throw .controlCharacter

/-- A backslash at the end of a line takes away the line end and all blanks after it. -/
def joinLines? : Parse Bool := do
  let after := (← get).dropWhile isSpace
  match after with
  | '\n' :: rest => set (rest.dropWhile fun c => isSpace c || c = '\n' || c = '\r'); return true
  | '\r' :: '\n' :: rest =>
    set (rest.dropWhile fun c => isSpace c || c = '\n' || c = '\r'); return true
  | _ => return false

/-- A string of several lines, after its opening quotes. Up to two quotes may stand directly
before the closing ones. -/
def linesString (quote : Char) : (fuel : Nat) → (acc : List Char) → Parse String
  | 0, _ => throw .unterminatedString
  | fuel + 1, acc => do
    let cs ← get
    let quotes := (cs.takeWhile (· = quote)).length
    if 3 ≤ quotes then
      let extra := min (quotes - 3) 2
      set (cs.drop (3 + extra))
      return String.ofList (acc.reverse ++ List.replicate extra quote)
    else match cs with
      | [] => throw .unterminatedString
      | '\r' :: '\n' :: rest => set rest; linesString quote fuel ('\n' :: '\r' :: acc)
      | c :: rest =>
        set rest
        if c = '\\' && quote = '"' then
          if ← joinLines? then linesString quote fuel acc
          else linesString quote fuel ((← escape) :: acc)
        else if isVisible c || c = '\n' then linesString quote fuel (c :: acc)
        else throw .controlCharacter

/-- A string, from its opening quote on. -/
def string (quote : Char) : Parse String := do
  let fuel := (← get).length + 1
  if ← accept (String.ofList [quote, quote, quote]) then
    let _ ← newline
    linesString quote fuel []
  else
    bump
    lineString quote fuel []

/-! ## Keys -/

def isBareKeyChar (c : Char) : Bool := c.isAlphanum || c = '-' || c = '_'

/-- One part of a key. -/
def simpleKey : Parse String := do
  match ← peek with
  | some '"' => bump; lineString '"' ((← get).length + 1) []
  | some '\'' => bump; lineString '\'' ((← get).length + 1) []
  | _ =>
    let name := (← get).takeWhile isBareKeyChar
    if name.isEmpty then throw .unexpected
    modify (·.drop name.length)
    return String.ofList name

/-- The parts of a key with dots between them. -/
def keyPath : (fuel : Nat) → Parse (List String)
  | 0 => throw .unexpected
  | fuel + 1 => do
    skipSpaces
    let key ← simpleKey
    skipSpaces
    if ← accept "." then return key :: (← keyPath fuel) else return [key]

/-- A key: the parts before the last one, and the last one. -/
def key : Parse (List String × String) := do
  let path ← keyPath ((← get).length + 1)
  return (path.dropLast, path.getLastD "")

/-! ## Numbers and times -/

/-- Digits with single underscores between them. -/
def ungroup (isDigit : Char → Bool) : List Char → Option (List Char)
  | [] => none
  | [c] => if isDigit c then some [c] else none
  | c :: '_' :: d :: cs =>
    if isDigit c && isDigit d then (ungroup isDigit (d :: cs)).map (c :: ·) else none
  | c :: cs => if isDigit c then (ungroup isDigit cs).map (c :: ·) else none

def numberOf (base : Nat) (digits : List Char) : Nat :=
  digits.foldl (fun n c => n * base + (Pattern.Parse.hexValue? c).getD 0) 0

/-- Where the integers of a document end; its negative is the least one. -/
def integerBound : Int := 0x8000000000000000

def ofRange (n : Int) : Except Fault Value :=
  if -integerBound ≤ n && n < integerBound then .ok (.integer n) else .error .numberTooLarge

def based (base : Nat) (isDigit : Char → Bool) (cs : List Char) : Except Fault Value :=
  match ungroup isDigit cs with
  | some digits => ofRange (numberOf base digits)
  | none => .error .badNumber

/-- The digits of a whole decimal number, which begins with zero only if it is zero. -/
def wholeDigits (cs : List Char) : Option (List Char) :=
  match ungroup Char.isDigit cs with
  | some ('0' :: _ :: _) => none
  | other => other

def splitSign : List Char → Bool × List Char
  | '+' :: cs => (false, cs)
  | '-' :: cs => (true, cs)
  | cs => (false, cs)

/-- Digits after the point, and what comes after them. -/
def fractionPart : List Char → Option (List Char × List Char)
  | '.' :: cs =>
    let digits := cs.takeWhile fun c => c.isDigit || c = '_'
    (ungroup Char.isDigit digits).map fun ds => (ds, cs.drop digits.length)
  | cs => some ([], cs)

/-- The exponent of a number, `0` where there is none. -/
def exponentPart : List Char → Option Int
  | [] => some 0
  | c :: cs =>
    if c = 'e' || c = 'E' then
      let (negative, digits) := splitSign cs
      (ungroup Char.isDigit digits).map fun ds =>
        let n : Int := numberOf 10 ds
        if negative then -n else n
    else none

def floatOf (negative : Bool) (cs : List Char) : Except Fault Value :=
  let whole := cs.takeWhile fun c => c.isDigit || c = '_'
  match wholeDigits whole, fractionPart (cs.drop whole.length) with
  | some ds, some (fs, rest) =>
    match exponentPart rest with
    | some e =>
      match Decimal.ofDecimal? negative (numberOf 10 (ds ++ fs)) (e - fs.length) with
      | some x => .ok (.float x)
      | none => .error .numberTooLarge
    | none => .error .badNumber
  | _, _ => .error .badNumber

/-- Reads a number. -/
def number (cs : List Char) : Except Fault Value :=
  let (negative, body) := splitSign cs
  if body = "inf".toList then .ok (.float (.infinite negative))
  else if body = "nan".toList then .ok (.float .nan)
  else match cs with
    | '0' :: 'x' :: ds => based 16 (fun c => (Pattern.Parse.hexValue? c).isSome) ds
    | '0' :: 'o' :: ds => based 8 (fun c => '0' ≤ c && c ≤ '7') ds
    | '0' :: 'b' :: ds => based 2 (fun c => c = '0' || c = '1') ds
    | _ =>
      if body.all fun c => c.isDigit || c = '_' then
        match wholeDigits body with
        | some ds => ofRange (if negative then -(numberOf 10 ds : Int) else numberOf 10 ds)
        | none => .error .badNumber
      else floatOf negative body

/-- Two digits, if they are at most `most`. -/
def two (most : Nat) : List Char → Option (Nat × List Char)
  | a :: b :: cs =>
    if a.isDigit && b.isDigit && numberOf 10 [a, b] ≤ most then some (numberOf 10 [a, b], cs)
    else none
  | _ => none

def isLeapYear (y : Nat) : Bool := (y % 4 = 0 && y % 100 != 0) || y % 400 = 0

def daysOf (year month : Nat) : Nat :=
  if month = 2 then if isLeapYear year then 29 else 28
  else if month = 4 || month = 6 || month = 9 || month = 11 then 30 else 31

/-- Passes a date. -/
def date : List Char → Option (List Char)
  | a :: b :: c :: d :: '-' :: cs =>
    if [a, b, c, d].all Char.isDigit then
      match two 12 cs with
      | some (month, '-' :: cs) =>
        match two 31 cs with
        | some (day, cs) =>
          if 1 ≤ month && 1 ≤ day && day ≤ daysOf (numberOf 10 [a, b, c, d]) month then some cs
          else none
        | none => none
      | _ => none
    else none
  | _ => none

/-- Passes the fraction of a second. -/
def secondFraction : List Char → Option (List Char)
  | '.' :: cs =>
    let digits := cs.takeWhile Char.isDigit
    if digits.isEmpty then none else some (cs.drop digits.length)
  | cs => some cs

/-- Passes a time of day; the seconds may be left out. -/
def time (cs : List Char) : Option (List Char) :=
  match two 23 cs with
  | some (_, ':' :: cs) =>
    match two 59 cs with
    | some (_, ':' :: cs) => (two 60 cs).bind fun p => secondFraction p.2
    | some (_, cs) => some cs
    | none => none
  | _ => none

/-- Passes the distance from universal time. -/
def offset : List Char → Option (List Char)
  | [] => some []
  | c :: cs =>
    if c = 'Z' || c = 'z' then some cs
    else if c = '+' || c = '-' then
      match two 23 cs with
      | some (_, ':' :: cs) => (two 59 cs).map (·.2)
      | _ => none
    else none

/-- Is the text a date, a time or both? -/
def isDatetime (cs : List Char) : Bool :=
  match date cs with
  | some [] => true
  | some (c :: rest) =>
    (c = 'T' || c = 't' || c = ' ') && ((time rest).bind offset = some [])
  | none => time cs = some []

/-- Does a text look like a date or a time, and not like a number? -/
def looksLikeTime (cs : List Char) : Bool :=
  match cs with
  | a :: b :: ':' :: _ => a.isDigit && b.isDigit
  | a :: b :: c :: d :: '-' :: _ => [a, b, c, d].all Char.isDigit
  | _ => false

def isWordChar (c : Char) : Bool :=
  c.isAlphanum || c = '_' || c = '+' || c = '-' || c = '.' || c = ':'

/-- A value without quotes or brackets. A date may be followed by a blank and a time. -/
def word : Parse Value := do
  let cs ← get
  let first := cs.takeWhile isWordChar
  let rest := cs.drop first.length
  let (body, rest) := match rest with
    | ' ' :: d :: more =>
      if date first = some [] && d.isDigit then
        let second := (d :: more).takeWhile isWordChar
        (first ++ ' ' :: second, (d :: more).drop second.length)
      else (first, rest)
    | _ => (first, rest)
  set rest
  if body = "true".toList then return .boolean true
  else if body = "false".toList then return .boolean false
  else if looksLikeTime body then
    if isDatetime body then return .datetime (String.ofList body) else throw .badDatetime
  else match number body with
    | .ok v => return v
    | .error e => throw e

/-! ## Values -/

/-- How deeply arrays and inline tables may be nested. -/
def depthLimit : Nat := 80

mutual

/-- A value; `depth` counts the arrays and tables around it. -/
def value : (fuel depth : Nat) → Parse Value
  | 0, _ => throw .tooDeep
  | fuel + 1, depth => do
    match ← peek with
    | some '"' => return .string (← string '"')
    | some '\'' => return .string (← string '\'')
    | some '[' =>
      bump
      if depthLimit ≤ depth then throw .tooDeep
      return .array (← elements fuel (depth + 1) [])
    | some '\x7b' =>
      bump
      if depthLimit ≤ depth then throw .tooDeep
      inlineTable fuel (depth + 1) (.explicit, [])
    | _ => word

/-- The elements of an array up to and past its closing bracket. -/
def elements : (fuel depth : Nat) → (acc : List Value) → Parse (List Value)
  | 0, _, _ => throw .tooDeep
  | fuel + 1, depth, acc => do
    skipLines ((← get).length + 1)
    if ← accept "]" then return acc.reverse
    let v ← value fuel depth
    skipLines ((← get).length + 1)
    if ← accept "," then elements fuel depth (v :: acc)
    else
      expect "]"
      return (v :: acc).reverse

/-- The entries of an inline table up to and past its closing brace. -/
def inlineTable : (fuel depth : Nat) → Open → Parse Value
  | 0, _, _ => throw .tooDeep
  | fuel + 1, depth, entries => do
    skipLines ((← get).length + 1)
    if ← accept "\x7d" then return (Item.table entries.1 entries.2).close
    let (path, last) ← key
    expect "="
    skipSpaces
    let v ← value fuel depth
    let entries ← insertValue path last v entries
    skipLines ((← get).length + 1)
    if ← accept "," then inlineTable fuel depth entries
    else
      expect "\x7d"
      return (Item.table entries.1 entries.2).close

end

/-! ## Documents -/

/-- Reads the lines of a document. `header` leads to the table that the last header opened. -/
def document : (fuel : Nat) → (header : List String) → Open → Parse Open
  | 0, _, t => return t
  | fuel + 1, header, t => do
    skipLines ((← get).length + 1)
    match ← peek with
    | none => return t
    | some '[' =>
      bump
      let isElement ← accept "["
      let (path, last) ← key
      expect (if isElement then "]]" else "]")
      lineEnd
      let t ← if isElement then openElement path last t else openTable path last t
      document fuel (path ++ [last]) t
    | some _ =>
      let (path, last) ← key
      expect "="
      skipSpaces
      let v ← value ((← get).length + 1) 0
      lineEnd
      document fuel header (← insertBelow header path last v t)

end Parse

/-- The top-level table of a document. A mark of byte order at its beginning is passed over. -/
def parse (text : String) : Except Fault (List (String × Value)) := do
  let cs := match text.toList with
    | '\ufeff' :: cs => cs
    | cs => cs
  let ((_, entries), rest) ← (Parse.document (cs.length + 1) [] (.explicit, [])).run cs
  if rest.isEmpty then return closeEntries entries else throw .unexpected

end SourcePatch.Toml
