import SourcePatch.RustSyntax.Grammar.Expression

/-!
# Items

What files, modules, traits, impl blocks and foreign modules hold. Forms that only later stages of
a compiler refuse, such as a function without a body in an impl block, are items too.
-/

namespace SourcePatch.RustSyntax.Grammar

open Reader

variable (g : Grammar)

/-! ## Visibility -/

/-- Parentheses after `pub` that restrict it hold one word, or a path after `in`. -/
def startsRestriction : Lookahead
  | .group .paren [t] :: _ => Ahead.anyOf (["crate", "self", "super"].map Ahead.word) [t]
  | _ => false

def startsPathRestriction : Lookahead
  | .group .paren ts :: _ => Ahead.word "in" ts
  | _ => false

/-- The visibility of an item, if one is given. -/
def visibility? : Reader Bool := do
  if ← word? "pub" then
    if ← peek startsRestriction then skip 1
    else if ← peek startsPathRestriction then
      within .paren do
        word "in"
        g.modulePath
    return true
  else return false

/-! ## Functions -/

/-- Three points in place of further arguments end the list. -/
def lastArgument : Reader Unit := do
  if !(← peek Ahead.atEnd) then sign ","
  require Ahead.atEnd

/-- The argument `self` with what belongs to it. -/
def receiver : Reader Unit := do
  let reference ← sign? "&"
  if reference then
    let _ ← lifetime?
  let _ ← word? "mut"
  word "self"
  if !reference then
    if ← sign? ":" then g.anyType

/-- What an argument of a function is. -/
inductive ArgumentKind where
  | receiver
  | typed
  | variadic
deriving DecidableEq, Repr

/-- An argument with its type; three points may stand for the type. -/
def typedArgument : Reader ArgumentKind := do
  if ← peek fun ts => Ahead.name ts && Ahead.second (Ahead.sign "<") ts then
    g.anyType
    return .typed
  let _ ← g.pattern
  sign ":"
  if ← sign? "..." then return .variadic
  g.anyType
  return .typed

def argument : Reader ArgumentKind := do
  g.outerAttributes
  if ← sign? "..." then return .variadic
  orElse (do g.receiver; return .receiver) g.typedArgument

/-- The arguments of a function. Only the first one may be a receiver. -/
def arguments : (limit : Nat) → (first : Bool) → Reader Unit
  | 0, _ => failure
  | limit + 1, first => do
    if ← peek Ahead.atEnd then return ()
    match ← g.argument with
    | .variadic => lastArgument
    | .receiver => require fun _ => first
    | .typed => pure ()
    if ← peek Ahead.atEnd then return ()
    sign ","
    arguments limit false

/-- The word `safe`, where it is one of those before a function. -/
def safety (safeAllowed : Bool) : Reader Unit := do
  if !(← word? "unsafe") && safeAllowed then
    let _ ← word? "safe"

/-- The words before `fn`. -/
def qualifiers (safeAllowed : Bool) : Reader Unit := do
  let _ ← word? "const"
  let _ ← word? "async"
  safety safeAllowed
  abi?

/-- Is there a function, maybe after some words that qualify it? -/
def startsFunction (safeAllowed : Bool) : Lookahead := fun ts =>
  match (qualifiers safeAllowed).run ts with
  | some (_, rest) => Ahead.word "fn" rest
  | none => false

def signature (safeAllowed : Bool) : Reader Unit := do
  qualifiers safeAllowed
  word "fn"
  name
  g.generics
  within .paren (g.arguments g.limit true)
  g.returnType true
  g.whereClauses

/-- A function with its body or a semicolon. -/
def function (safeAllowed : Bool) : Reader Unit := do
  g.signature safeAllowed
  if !(← sign? ";") then g.body

/-! ## Constants and aliases -/

/-- A value after `=`, if it is there. -/
def optionalValue : Reader Unit := do
  if ← sign? "=" then g.anyExpr

def constant : Reader Unit := do
  word "const"
  nameOr ["_"]
  g.generics
  sign ":"
  g.anyType
  g.optionalValue
  g.whereClauses
  sign ";"

/-- Where the clauses of a type alias may stand. -/
inductive WherePlace where
  | beforeValue
  | afterValue
  | either
deriving DecidableEq, Repr

/-- A type alias or an associated type. -/
def typeAlias (place : WherePlace) : Reader Unit := do
  word "type"
  name
  g.generics
  if ← sign? ":" then
    separated g.limit (Ahead.anyOf [Ahead.word "where", Ahead.sign "=", Ahead.sign ";"]) "+"
      (g.anyBound true)
  let clausesFirst ← peek (Ahead.word "where")
  if place ≠ .afterValue then g.whereClauses
  if ← sign? "=" then g.anyType
  if place = .afterValue || (place = .either && !clausesFirst) then g.whereClauses
  sign ";"

def static : Reader Unit := do
  word "static"
  let _ ← word? "mut"
  name
  if ← sign? "=" then
    g.anyExpr
    sign ";"
  else
    sign ":"
    g.anyType
    if !(← sign? ";") then
      sign "="
      g.anyExpr
      sign ";"

/-! ## Imports -/

def crateImport : Reader Unit := do
  word "extern"
  word "crate"
  nameOr ["self"]
  if ← word? "as" then nameOr ["_"]
  sign ";"

/-- What stands in the braces of an import. -/
def useGroup (fromRoot : Bool) : Reader Unit :=
  commaSeparated g.limit do
    let root ← if fromRoot then sign? "::" else pure false
    g.useTree (fromRoot && !root)

def useTreeRule (fromRoot : Bool) : Reader Unit := do
  if ← peek (Ahead.anyOf (Ahead.name :: ["self", "super", "crate", "try"].map Ahead.word)) then
    anyWord
    if ← sign? "::" then g.useTree false
    else if ← word? "as" then nameOr ["_"]
  else if ← sign? "*" then return ()
  else within .brace (g.useGroup fromRoot)

def importItem : Reader Unit := do
  word "use"
  let root ← sign? "::"
  g.useTree !root
  sign ";"

/-! ## Data types -/

/-- A struct or a union without a name may be the type of a field without a name. -/
def namedField : Reader Unit := do
  g.outerAttributes
  let _ ← g.visibility?
  let nameless ← word? "_"
  if !nameless then name
  sign ":"
  if nameless && (← peek fun ts => Ahead.word "struct" ts ||
      (Ahead.word "union" ts && Ahead.second (Ahead.group .brace) ts)) then
    anyWord
    g.namedFields
  else g.anyType

def namedFieldsRule : Reader Unit := within .brace (commaSeparated g.limit g.namedField)

def tupleField : Reader Unit := do
  g.outerAttributes
  let _ ← g.visibility?
  g.anyType

def tupleFields : Reader Unit := within .paren (commaSeparated g.limit g.tupleField)

def struct : Reader Unit := do
  word "struct"
  name
  g.generics
  if ← peek (Ahead.group .paren) then
    g.tupleFields
    g.whereClauses
    sign ";"
  else
    g.whereClauses
    if !(← sign? ";") then g.namedFields

def variant : Reader Unit := do
  g.outerAttributes
  let _ ← g.visibility?
  name
  if ← peek (Ahead.group .brace) then g.namedFields
  else if ← peek (Ahead.group .paren) then g.tupleFields
  g.optionalValue

def enumeration : Reader Unit := do
  word "enum"
  name
  g.generics
  g.whereClauses
  within .brace (commaSeparated g.limit g.variant)

def union : Reader Unit := do
  word "union"
  name
  g.generics
  g.whereClauses
  g.namedFields

/-! ## Members -/

/-- What a macro call as an item begins with. -/
def startsMacroItem : Lookahead :=
  Ahead.anyOf ([Ahead.name, Ahead.sign "::"] ++ ["self", "super", "crate"].map Ahead.word)

/-- A macro call as an item; without braces it ends in a semicolon. Where a name is defined, it
stands before the delimiters. -/
def macroItem (named : Bool) : Reader Unit := do
  g.modulePath
  sign "!"
  if named && (← peek (Ahead.anyOf [Ahead.name, Ahead.word "try"])) then anyWord
  if (← anyGroup) ≠ .brace then sign ";"

/-- Members of one kind, in braces. -/
def members (member : Reader Unit) : Reader Unit :=
  within .brace do
    g.innerAttributes
    whileAhead g.limit (fun ts => !Ahead.atEnd ts) do
      g.outerAttributes
      member

/-- The word `default`, unless it is the name of a macro. -/
def startsDefault : Lookahead := fun ts =>
  Ahead.word "default" ts && !Ahead.second (Ahead.sign "!") ts

def startsFn (safeAllowed : Bool) : Lookahead := fun ts =>
  Ahead.word "fn" ts || startsFunction safeAllowed ts

def traitMember : Reader Unit := do
  let visible ← g.visibility?
  let isDefault ← word? "default"
  if ← peek (startsFn false) then g.function false
  else if ← peek (Ahead.word "const") then g.constant
  else if ← peek (Ahead.word "type") then g.typeAlias .afterValue
  else if !visible && !isDefault && (← peek startsMacroItem) then g.macroItem false
  else failure

def implMember : Reader Unit := do
  let visible ← g.visibility?
  let isDefault ← peek startsDefault
  if isDefault then skip 1
  if ← peek (startsFn false) then g.function false
  else if ← peek (Ahead.word "const") then g.constant
  else if ← peek (Ahead.word "type") then g.typeAlias .afterValue
  else if !visible && !isDefault && (← peek startsMacroItem) then g.macroItem false
  else failure

/-- Is there a static of a foreign module, maybe after a word on its safety? -/
def startsForeignStatic : Lookahead := fun ts =>
  Ahead.word "static" ts ||
    (Ahead.anyOf [Ahead.word "unsafe", Ahead.word "safe"] ts &&
      Ahead.second (Ahead.word "static") ts)

def foreignStatic : Reader Unit := do
  safety true
  word "static"
  let _ ← word? "mut"
  name
  sign ":"
  g.anyType
  g.optionalValue
  sign ";"

def foreignMember : Reader Unit := do
  let visible ← g.visibility?
  if ← peek (startsFn true) then g.function true
  else if ← peek startsForeignStatic then g.foreignStatic
  else if ← peek (Ahead.word "type") then g.typeAlias .either
  else if !visible && (← peek startsMacroItem) then g.macroItem false
  else failure

/-! ## Traits, impl blocks and modules -/

/-- Bounds up to a word or sign that ends them. -/
def boundsUntil (stop : Lookahead) : Reader Unit :=
  separated g.limit stop "+" (g.anyBound true)

def trait : Reader Unit := do
  let _ ← word? "unsafe"
  let _ ← word? "auto"
  word "trait"
  name
  g.generics
  if ← sign? ":" then
    g.boundsUntil (Ahead.anyOf [Ahead.word "where", Ahead.group .brace])
  g.whereClauses
  g.members g.traitMember

/-- A trait, or a name for a sum of bounds. -/
def traitOrAlias : Reader Unit := do
  word "trait"
  name
  g.generics
  if ← sign? "=" then
    g.boundsUntil (Ahead.anyOf [Ahead.word "where", Ahead.sign ";"])
    g.whereClauses
    sign ";"
  else
    if ← sign? ":" then
      g.boundsUntil (Ahead.anyOf [Ahead.word "where", Ahead.group .brace])
    g.whereClauses
    g.members g.traitMember

def implBlock : Reader Unit := do
  let _ ← word? "default"
  let _ ← word? "unsafe"
  word "impl"
  if ← peek startsGenerics then g.generics
  if ← peek fun ts => Ahead.word "const" ts ||
      (Ahead.sign "?" ts && Ahead.second (Ahead.word "const") ts) then
    let _ ← sign? "?"
    word "const"
  if ← peek fun ts => Ahead.sign "!" ts && !Ahead.second (Ahead.group .brace) ts then sign "!"
  g.anyType
  if ← word? "for" then g.anyType
  g.whereClauses
  g.members g.implMember

def foreignModule : Reader Unit := do
  let _ ← word? "unsafe"
  require (Ahead.word "extern")
  abi?
  g.members g.foreignMember

/-- An item with its attributes. -/
def attributedItem : Reader Unit := do
  g.outerAttributes
  g.item

/-- All items up to the end. -/
def items : Reader Unit := whileAhead g.limit (fun ts => !Ahead.atEnd ts) g.attributedItem

def module : Reader Unit := do
  let _ ← word? "unsafe"
  word "mod"
  nameOr ["try"]
  if !(← sign? ";") then
    within .brace do
      g.innerAttributes
      g.items

/-- A macro defined by one rule. -/
def macroDefinition : Reader Unit := do
  word "macro"
  name
  if ← peek (Ahead.group .paren) then skip 1
  require (Ahead.group .brace)
  skip 1

/-! ## Items -/

/-- An item that begins with `unsafe` and is no function. -/
def unsafeItem (visible : Bool) : Reader Unit := do
  let next ← get
  if Ahead.second (Ahead.word "trait") next ||
      (Ahead.second (Ahead.word "auto") next && Ahead.third (Ahead.word "trait") next) then g.trait
  else if Ahead.second (Ahead.word "impl") next then g.implBlock
  else if Ahead.second (Ahead.word "extern") next && !visible then g.foreignModule
  else if Ahead.second (Ahead.word "mod") next then g.module
  else failure

/-- An item that begins with `extern` and is no function. -/
def externItem (visible : Bool) : Reader Unit := do
  if ← peek (Ahead.second (Ahead.word "crate")) then crateImport
  else if visible then failure
  else g.foreignModule

def itemRule : Reader Unit := do
  let visible ← g.visibility?
  let next ← get
  if startsFn false next then g.function false
  else if Ahead.word "extern" next then g.externItem visible
  else if Ahead.word "use" next then g.importItem
  else if Ahead.word "static" next then g.static
  else if Ahead.word "const" next then g.constant
  else if Ahead.word "unsafe" next then g.unsafeItem visible
  else if Ahead.word "mod" next then g.module
  else if Ahead.word "type" next then g.typeAlias .beforeValue
  else if Ahead.word "struct" next then g.struct
  else if Ahead.word "enum" next then g.enumeration
  else if Ahead.word "union" next && Ahead.second Ahead.name next then g.union
  else if Ahead.word "trait" next then g.traitOrAlias
  else if Ahead.word "auto" next && Ahead.second (Ahead.word "trait") next then g.trait
  else if Ahead.word "impl" next || startsDefault next then g.implBlock
  else if Ahead.word "macro" next then macroDefinition
  else if !visible && startsMacroItem next then g.macroItem true
  else failure

end SourcePatch.RustSyntax.Grammar
