import SourcePatch.Pattern.Syntax
import SourcePatch.Unicode.Property

/-!
# Reading patterns

`parse` turns the text of a pattern into an `Expr`. The reader works on what is left of the
text; each part returns what it read together with the rest. Under the verbose flag blanks and
comments are skipped wherever the grammar allows them.
-/

namespace SourcePatch.Pattern

/-- What the reader knows: the text left, whether it is verbose, how many capture groups were
opened and which names they have. -/
structure Reader where
  rest : List Char
  verbose : Bool := false
  groups : Nat := 0
  names : List (List Char) := []

abbrev Parse := StateT Reader (Except PatternError)

namespace Parse

/-- Skips blanks and comments; `inComment` while a comment runs. -/
def skipInsignificant (inComment : Bool) : List Char → List Char
  | [] => []
  | c :: cs =>
    if inComment then skipInsignificant (c != '\n') cs
    else if Blank.isBlank c then skipInsignificant false cs
    else if c = '#' then skipInsignificant true cs
    else c :: cs

def skipBlanks : Parse Unit :=
  modify fun r => if r.verbose then { r with rest := skipInsignificant false r.rest } else r

def peek : Parse (Option Char) := return (← get).rest.head?

/-- Passes one character. -/
def bump : Parse Unit := modify fun r => { r with rest := r.rest.tail }

/-- Passes one character and the blanks after it. -/
def bumpSkip : Parse Unit := do bump; skipBlanks

/-- The next character, which has to be there. -/
def need (missing : PatternError) : Parse Char := do
  match ← peek with
  | some c => return c
  | none => throw missing

/-- Passes a fixed text if it stands next. -/
def accept (text : String) : Parse Bool := do
  let r ← get
  if text.toList.isPrefixOf r.rest then
    set { r with rest := r.rest.drop text.length }
    return true
  else return false

/-- The first significant character after the next one: past blanks and one comment mark when
verbose. -/
def peekPastBlanks : Parse (Option Char) := do
  let r ← get
  let after := r.rest.tail
  if r.verbose then
    match after.dropWhile Blank.isBlank with
    | [] => return after.head?
    | '#' :: more =>
      match more.dropWhile Blank.isBlank with
      | [] => return after.head?
      | c :: _ => return some c
    | c :: _ => return some c
  else return after.head?

/-! ## Numbers and escapes -/

def hexValue? (c : Char) : Option Nat :=
  if c.isDigit then some (c.toNat - 48)
  else if 'a' ≤ c && c ≤ 'f' then some (c.toNat - 87)
  else if 'A' ≤ c && c ≤ 'F' then some (c.toNat - 55)
  else none

/-- The character of a code point, unless that is a surrogate or too large. -/
def charOf? (n : Nat) : Option Char :=
  if h : n.isValidChar then some (Char.ofNatAux n h) else none

def charOf (n : Nat) : Parse Char :=
  match charOf? n with
  | some c => return c
  | none => throw .badCodePoint

/-- Exactly `count` hexadecimal digits. -/
def hexDigits : (count : Nat) → (value : Nat) → Parse Nat
  | 0, value => return value
  | count + 1, value => do
    match hexValue? (← need .badEscape) with
    | some d => bumpSkip; hexDigits count (value * 16 + d)
    | none => throw .badEscape

/-- Hexadecimal digits up to a closing brace; `seen` says whether there was one yet. -/
def hexUntilBrace : (fuel : Nat) → (seen : Bool) → (value : Nat) → Parse Nat
  | 0, _, _ => throw .badEscape
  | fuel + 1, seen, value => do
    let c ← need .badEscape
    bumpSkip
    if c = '}' then
      if seen then return value else throw .badEscape
    else match hexValue? c with
      | some d => hexUntilBrace fuel true (value * 16 + d)
      | none => throw .badEscape

/-- What follows `\x`, `\u` or `\U`, which take `width` digits unless there are braces. -/
def hexEscape (width : Nat) : Parse Literal := do
  if (← need .badEscape) = '{' then
    bumpSkip
    return ⟨← charOf (← hexUntilBrace ((← get).rest.length + 1) false 0), false⟩
  else
    return ⟨← charOf (← hexDigits width 0), width = 2⟩

/-- Splits at the first occurrence of a mark. -/
def cutAt? (mark : List Char) : List Char → Option (List Char × List Char)
  | [] => none
  | c :: cs =>
    if mark.isPrefixOf (c :: cs) then some ([], (c :: cs).drop mark.length)
    else (cutAt? mark cs).map fun (before, after) => (c :: before, after)

/-- Characters up to a closing brace. -/
def untilBrace : (fuel : Nat) → (acc : List Char) → Parse (List Char)
  | 0, _ => throw .badEscape
  | fuel + 1, acc => do
    let c ← need .badEscape
    if c = '}' then bump; return acc.reverse
    else bumpSkip; untilBrace fuel (c :: acc)

/-- What follows `\p` or `\P`. -/
def propertyEscape (negated : Bool) : Parse (PropertyName × Bool) := do
  let c ← need .badEscape
  if c = '{' then
    bumpSkip
    let body ← untilBrace ((← get).rest.length + 1) []
    match cutAt? ['!', '='] body with
    | some (property, value) => return (.withValue property value, !negated)
    | none =>
      match cutAt? [':'] body <|> cutAt? ['='] body with
      | some (property, value) => return (.withValue property value, negated)
      | none => return (.bare body, negated)
  else if c = '\\' then throw .badEscape
  else
    bumpSkip
    return (.bare [c], negated)

/-- Characters that an escape may protect. -/
def isEscapable (c : Char) : Bool :=
  c.toNat < 128 && !c.isAlphanum && c != '<' && c != '>'

def isBoundaryNameChar (c : Char) : Bool := c.isAlpha || c = '-'

/-- The letters and hyphens of a named word boundary. -/
def boundaryName : (fuel : Nat) → (acc : List Char) → Parse (List Char)
  | 0, acc => return acc.reverse
  | fuel + 1, acc => do
    match ← peek with
    | some c =>
      if isBoundaryNameChar c then bumpSkip; boundaryName fuel (c :: acc)
      else return acc.reverse
    | none => return acc.reverse

/-- What `\b` means: a brace after it may name a kind of word boundary, and is left alone where
it begins a repetition count. -/
def wordBoundary : Parse Anchor := do
  let saved ← get
  if (← peek) = some '{' then
    bumpSkip
    let c ← need .badEscape
    if isBoundaryNameChar c then
      let name ← boundaryName ((← get).rest.length) []
      if (← peek) = some '}' then
        bump
        match String.ofList name with
        | "start" => return .wordStart
        | "end" => return .wordEnd
        | "start-half" => return .wordStartHalf
        | "end-half" => return .wordEndHalf
        | _ => throw .badEscape
      else throw .badEscape
    else
      set saved
      return .wordBoundary
  else return .wordBoundary

/-- What stands after a backslash. -/
def escape : Parse Expr := do
  let c ← need .badEscape
  if c.isDigit then throw .unsupported
  else match c with
    | 'x' => bumpSkip; return .literal (← hexEscape 2)
    | 'u' => bumpSkip; return .literal (← hexEscape 4)
    | 'U' => bumpSkip; return .literal (← hexEscape 8)
    | 'p' => bumpSkip; return (fun q => .property q.1 q.2) (← propertyEscape false)
    | 'P' => bumpSkip; return (fun q => .property q.1 q.2) (← propertyEscape true)
    | 'd' => bump; return .shorthand .digit false
    | 's' => bump; return .shorthand .space false
    | 'w' => bump; return .shorthand .word false
    | 'D' => bump; return .shorthand .digit true
    | 'S' => bump; return .shorthand .space true
    | 'W' => bump; return .shorthand .word true
    | 'a' => bump; return .literal ⟨'\x07', false⟩
    | 'f' => bump; return .literal ⟨'\x0c', false⟩
    | 't' => bump; return .literal ⟨'\t', false⟩
    | 'n' => bump; return .literal ⟨'\n', false⟩
    | 'r' => bump; return .literal ⟨'\r', false⟩
    | 'v' => bump; return .literal ⟨'\x0b', false⟩
    | 'A' => bump; return .anchor .textStart
    | 'z' => bump; return .anchor .textEnd
    | 'b' => bump; return .anchor (← wordBoundary)
    | 'B' => bump; return .anchor .notWordBoundary
    | '<' => bump; return .anchor .wordStart
    | '>' => bump; return .anchor .wordEnd
    | c =>
      bump
      if isEscapable c then return .literal ⟨c, false⟩ else throw .badEscape

/-- A character that stands for itself unless the grammar gives it a meaning. -/
def primitive (c : Char) : Parse Expr := do
  bump
  match c with
  | '\\' => escape
  | '.' => return .dot
  | '^' => return .anchor .lineStart
  | '$' => return .anchor .lineEnd
  | c => return .literal ⟨c, false⟩

/-! ## Repetition -/

/-- Digits of a count, with the value so far. -/
def decimalDigits : (fuel : Nat) → (value : Option Nat) → Parse (Option Nat)
  | 0, value => return value
  | fuel + 1, value => do
    match ← peek with
    | some c =>
      if c.isDigit then
        bumpSkip
        decimalDigits fuel (some (value.getD 0 * 10 + (c.toNat - 48)))
      else return value
    | none => return value

def skipAllBlanks : Parse Unit :=
  modify fun r => { r with rest := r.rest.dropWhile Blank.isBlank }

/-- The greatest number in a pattern. -/
def maxCount : Nat := 0xFFFFFFFF

/-- A count with blanks around it; none where there is no digit. -/
def decimal? : Parse (Option Nat) := do
  skipAllBlanks
  let value ← decimalDigits ((← get).rest.length) none
  skipAllBlanks
  match value with
  | some n => if n ≤ maxCount then return some n else throw .badCount
  | none => return none

def decimal : Parse Nat := do
  match ← decimal? with
  | some n => return n
  | none => throw .badCount

/-- The counts between braces, from after the opening brace to past the closing one. -/
def counts : Parse (Nat × Option Nat) := do
  let _ ← need .badCount
  let first ← decimal?
  let c ← need .badCount
  let bounds ← do
    if c = ',' then
      bumpSkip
      let c ← need .badCount
      match first with
      | none => throw .badCount
      | some lo => if c = '}' then pure (lo, none) else pure (lo, some (← decimal))
    else match first with
      | none => throw .badCount
      | some n => pure (n, some n)
  if (← peek) = some '}' then
    match bounds.2 with
    | some hi => if hi < bounds.1 then throw .badCount else return bounds
    | none => return bounds
  else throw .badCount

/-- A question mark that makes a repetition lazy. -/
def lazyMark : Parse Bool := do
  if (← peek) = some '?' then bump; return true else return false

/-- What a repetition operator applies to: the last part, if it is something to repeat. -/
def repeatable : List Expr → Parse (Expr × List Expr)
  | [] => throw .nothingToRepeat
  | .empty :: _ => throw .nothingToRepeat
  | .flags _ :: _ => throw .nothingToRepeat
  | e :: es => return (e, es)

/-! ## Bracketed classes -/

def posixNames : List String :=
  ["alnum", "alpha", "ascii", "blank", "cntrl", "digit", "graph", "lower", "print", "punct",
    "space", "upper", "word", "xdigit"]

/-- Reads `[:name:]` or `[:^name:]`; otherwise nothing is read. -/
def posixClass? : Parse (Option SetExpr) := do
  let r ← get
  match r.rest with
  | '[' :: ':' :: more =>
    let (negated, body) := match more with
      | '^' :: body => (true, body)
      | _ => (false, more)
    let name := String.ofList (body.takeWhile (· != ':'))
    match body.dropWhile (· != ':') with
    | ':' :: ']' :: rest =>
      if posixNames.contains name then
        set { r with rest := rest }
        return some (.posix name negated)
      else return none
    | _ => return none
  | _ => return none

/-- One character or escape inside brackets. -/
def setItem : Parse Expr := do
  let c ← need .unclosedClass
  bump
  if c = '\\' then escape else return .literal ⟨c, false⟩

def setMember : Expr → Parse SetExpr
  | .literal l => return .literal l
  | .shorthand kind negated => return .shorthand kind negated
  | .property name negated => return .property name negated
  | _ => throw .badClassMember

def rangeEnd : Expr → Parse Literal
  | .literal l => return l
  | _ => throw .badClassRange

/-- A member or a range of members. -/
def setRange : Parse SetExpr := do
  let first ← setItem
  skipBlanks
  let c ← need .unclosedClass
  let after ← peekPastBlanks
  if c != '-' || after = some ']' || after = some '-' then setMember first
  else
    bumpSkip
    let _ ← need .unclosedClass
    let last ← setItem
    let first ← rangeEnd first
    let last ← rangeEnd last
    if first.char ≤ last.char then return .range first last else throw .badClassRange

/-- Hyphens that stand first in a class. -/
def leadingHyphens : (fuel : Nat) → Parse (List SetExpr)
  | 0 => return []
  | fuel + 1 => do
    if (← need .unclosedClass) = '-' then
      bumpSkip
      return .literal ⟨'-', false⟩ :: (← leadingHyphens fuel)
    else return []

/-- What stands between the opening bracket and the members: whether the class is negated, and
members that only count as such in first place. -/
def setOpening : Parse (Bool × List SetExpr) := do
  skipBlanks
  let negated := (← need .unclosedClass) = '^'
  if negated then bumpSkip
  let hyphens ← leadingHyphens ((← get).rest.length + 1)
  if hyphens.isEmpty && (← need .unclosedClass) = ']' then
    bumpSkip
    let _ ← need .unclosedClass
    return (negated, [.literal ⟨']', false⟩])
  else return (negated, hyphens.reverse)

/-- Joins what was read after an operator to what stands before it. -/
def closeOperand (pending : Option (SetOperation × SetExpr)) (members : List SetExpr) : SetExpr :=
  let operand := SetExpr.ofMembers members.reverse
  match pending with
  | some (op, lhs) => .operation op lhs operand
  | none => operand

/-- Reads the members of a class up to and past its closing bracket. `members` are those since
the last operator, latest first, and `pending` is that operator with its left side. -/
def setBody : (fuel : Nat) → (pending : Option (SetOperation × SetExpr)) →
    (members : List SetExpr) → Parse SetExpr
  | 0, _, _ => throw .unclosedClass
  | fuel + 1, pending, members => do
    skipBlanks
    let c ← need .unclosedClass
    if c = '[' then
      match ← posixClass? with
      | some cls => setBody fuel pending (cls :: members)
      | none =>
        bump
        let (negated, first) ← setOpening
        let inner ← setBody fuel none first
        setBody fuel pending (.bracket negated inner :: members)
    else if c = ']' then
      bump
      return closeOperand pending members
    else if ← accept "&&" then
      setBody fuel (some (.intersection, closeOperand pending members)) []
    else if ← accept "--" then
      setBody fuel (some (.difference, closeOperand pending members)) []
    else if ← accept "~~" then
      setBody fuel (some (.symmetricDifference, closeOperand pending members)) []
    else
      let item ← setRange
      setBody fuel pending (item :: members)

/-- A bracketed class, from after its opening bracket. -/
def bracketed : Parse Expr := do
  let (negated, first) ← setOpening
  return .bracket negated (← setBody ((← get).rest.length + 1) none first)

/-! ## Groups -/

def flagOf? : Char → Option Flag
  | 'i' => some .ignoreCase
  | 'm' => some .multiLine
  | 's' => some .dotMatchesNewline
  | 'U' => some .swapGreed
  | 'u' => some .unicode
  | 'R' => some .crlf
  | 'x' => some .verbose
  | _ => none

/-- Flags up to the colon or parenthesis after them. `off` once a minus was read, and `dangling`
while nothing follows it. -/
def flagChange : (fuel : Nat) → (off dangling : Bool) → FlagChange → Parse FlagChange
  | 0, _, _, _ => throw .badFlags
  | fuel + 1, off, dangling, change => do
    let c ← need .badFlags
    if c = ':' || c = ')' then
      if dangling then throw .badFlags else return change.reverse
    else if c = '-' then
      if off then throw .badFlags
      bump
      flagChange fuel true true change
    else match flagOf? c with
      | some flag =>
        if (change.lookup flag).isSome then throw .badFlags
        bump
        flagChange fuel off false ((flag, !off) :: change)
      | none => throw .badFlags

def isNameChar (first : Bool) (c : Char) : Bool :=
  c = '_' || if first then Unicode.alphabetic.contains c
    else c = '.' || c = '[' || c = ']' || Unicode.alphanumeric.contains c

/-- A group name up to and past the closing angle bracket. -/
def groupName : Parse Unit := do
  let r ← get
  let name := r.rest.takeWhile (· != '>')
  if !name.isEmpty && r.rest.length > name.length && isNameChar true (name.headD ' ')
      && name.tail.all (isNameChar false) then
    if r.names.contains name then throw .duplicateGroupName
    set { r with rest := r.rest.drop (name.length + 1), names := name :: r.names }
  else throw .badGroupName

/-- What the opening of a group says. -/
inductive Opening where
  | flagsOnly (change : FlagChange)
  | capture (index : Nat)
  | scoped (change : FlagChange)

def nextGroup : Parse Nat := do
  let r ← get
  set { r with groups := r.groups + 1 }
  return r.groups + 1

/-- Reads the opening of a group, from after its parenthesis. -/
def groupOpening : Parse Opening := do
  skipBlanks
  let r ← get
  if ["?=", "?!", "?<=", "?<!"].any (fun mark => mark.toList.isPrefixOf r.rest) then
    throw .unsupported
  if (← accept "?P<") || (← accept "?<") then
    let index ← nextGroup
    groupName
    return .capture index
  else if ← accept "?" then
    let change ← flagChange ((← get).rest.length + 1) false false []
    let c ← need .badFlags
    let bare := (← get).rest.length + 1 = r.rest.length
    bump
    if c = ')' then
      if bare then throw .nothingToRepeat else return .flagsOnly change
    else return .scoped change
  else return .capture (← nextGroup)

def applyVerbose (change : FlagChange) : Parse Unit :=
  modify fun r => { r with verbose := (change.get? .verbose).getD r.verbose }

/-- Passes the parenthesis that closes a group and goes back to the verbose flag outside it. -/
def closeGroup (outer : Bool) : Parse Unit := do
  if (← peek) = some ')' then
    bump
    modify fun r => { r with verbose := outer }
  else throw .unclosedGroup

/-! ## Whole patterns -/

/-- Reads up to a closing parenthesis or the end. `parts` are the parts of the current branch and
`branches` the branches before it, both latest first. -/
def expression : (fuel : Nat) → (parts branches : List Expr) → Parse Expr
  | 0, _, _ => throw .tooLarge
  | fuel + 1, parts, branches => do
    skipBlanks
    match ← peek with
    | none => return .ofBranches ((.ofParts parts.reverse :: branches).reverse)
    | some c =>
      match c with
      | ')' => return .ofBranches ((.ofParts parts.reverse :: branches).reverse)
      | '|' =>
        bump
        expression fuel [] (.ofParts parts.reverse :: branches)
      | '(' =>
        bump
        match ← groupOpening with
        | .flagsOnly change =>
          applyVerbose change
          expression fuel (.flags change :: parts) branches
        | .capture index =>
          let outer := (← get).verbose
          let body ← expression fuel [] []
          closeGroup outer
          expression fuel (.capture index body :: parts) branches
        | .scoped change =>
          let outer := (← get).verbose
          applyVerbose change
          let body ← expression fuel [] []
          closeGroup outer
          expression fuel (.scoped change body :: parts) branches
      | '[' =>
        bump
        let cls ← bracketed
        expression fuel (cls :: parts) branches
      | '?' =>
        let (e, es) ← repeatable parts
        bump
        let lzy ← lazyMark
        expression fuel (.repeated 0 (some 1) (!lzy) e :: es) branches
      | '*' =>
        let (e, es) ← repeatable parts
        bump
        let lzy ← lazyMark
        expression fuel (.repeated 0 none (!lzy) e :: es) branches
      | '+' =>
        let (e, es) ← repeatable parts
        bump
        let lzy ← lazyMark
        expression fuel (.repeated 1 none (!lzy) e :: es) branches
      | '{' =>
        let (e, es) ← repeatable parts
        bumpSkip
        let (lo, hi) ← counts
        bumpSkip
        let lzy ← lazyMark
        expression fuel (.repeated lo hi (!lzy) e :: es) branches
      | c =>
        let e ← primitive c
        expression fuel (e :: parts) branches

end Parse

/-- Reads a whole pattern. -/
def parse (pattern : List Char) : Except PatternError Expr := do
  let (e, r) ← (Parse.expression (pattern.length + 1) [] []).run ⟨pattern, false, 0, []⟩
  if !r.rest.isEmpty then throw .unopenedGroup
  if e.depth > depthLimit then throw .tooDeep
  return e

end SourcePatch.Pattern
