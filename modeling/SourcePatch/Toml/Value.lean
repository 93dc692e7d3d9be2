import SourcePatch.Decimal.Binary64

/-!
# TOML values

The values of a TOML document, and the faults that a text can have which is none.

`Item` is a value or a table under construction. How a table came to be decides how it may grow:
`TableKind` keeps that apart, and `insertValue`, `openTable` and `openElement` refuse what the
format does not allow.
-/

namespace SourcePatch.Toml

inductive Value where
  | string (text : String)
  | integer (n : Int)
  | float (x : Decimal.Binary64)
  | boolean (b : Bool)
  | datetime (text : String)
  | array (elements : List Value)
  | table (entries : List (String × Value))
deriving Repr, Inhabited

/-- Why a text is no TOML document. -/
inductive Fault where
  | unexpected
  | unterminatedString
  | badEscape
  | controlCharacter
  | badNumber
  | numberTooLarge
  | badDatetime
  | duplicateKey (key : String)
  | tooDeep
deriving DecidableEq, Repr

def Fault.message : Fault → String
  | .unexpected => "unexpected character"
  | .unterminatedString => "unterminated string"
  | .badEscape => "invalid escape sequence"
  | .controlCharacter => "control character"
  | .badNumber => "invalid number"
  | .numberTooLarge => "number out of range"
  | .badDatetime => "invalid date-time"
  | .duplicateKey key => s!"duplicate key `{key}`"
  | .tooDeep => "values are nested too deeply"

/-- How a table came to be: by its own header, as a step of another header, as a step of a dotted
key, or as a step of a dotted key inside braces. -/
inductive TableKind where
  | explicit
  | implicit
  | dotted
deriving DecidableEq, Repr

/-- A value, a table or an array of tables under construction. -/
inductive Item where
  | value (v : Value)
  | table (kind : TableKind) (entries : List (String × Item))
  | tables (elements : List (List (String × Item)))
deriving Inhabited

abbrev Entries := List (String × Item)

/-- Puts an item under a key that has one already. -/
def replaceItem (es : Entries) (key : String) (item : Item) : Entries :=
  es.map fun e => if e.1 = key then (key, item) else e

/-- A table with its kind. -/
abbrev Open := TableKind × Entries

/-- Changes the table that a path of keys leads to. Tables on the way that do not exist yet are
made; steps of dotted keys may not enter a table that a header defined. An array of tables stands
for its last table. -/
def descend (dotted : Bool) (change : Open → Except Fault Open) :
    (path : List String) → Open → Except Fault Open
  | [], t => change t
  | key :: path, (kind, es) =>
    match es.lookup key with
    | none => do
      let (k, sub) ← descend dotted change path (if dotted then .dotted else .implicit, [])
      return (kind, es ++ [(key, .table k sub)])
    | some (.value _) => throw (.duplicateKey key)
    | some (.tables elements) =>
      if dotted then throw (.duplicateKey key)
      else do
        let (_, sub) ← descend dotted change path (.explicit, elements.getLastD [])
        return (kind, replaceItem es key (.tables (elements.dropLast ++ [sub])))
    | some (.table k sub) =>
      if dotted && k = .explicit then throw (.duplicateKey key)
      else do
        let (k, sub) ← descend dotted change path (k, sub)
        return (kind, replaceItem es key (.table k sub))

/-- Gives a dotted key a value in a table. -/
def insertValue (path : List String) (key : String) (v : Value) (t : Open) :
    Except Fault Open :=
  descend true (fun (kind, es) =>
    if (kind = .dotted) = (path = []) || (es.lookup key).isSome then throw (.duplicateKey key)
    else return (kind, es ++ [(key, .value v)])) path t

/-- Opens the table of a header. A table that was only a step of another header is opened once. -/
def openTable (path : List String) (key : String) (t : Open) : Except Fault Open :=
  descend false (fun (kind, es) =>
    match es.lookup key with
    | none => return (kind, es ++ [(key, .table .explicit [])])
    | some (.table .implicit sub) =>
      return (kind, (es.filter fun e => e.1 != key) ++ [(key, .table .explicit sub)])
    | some _ => throw (.duplicateKey key)) path t

/-- Adds a table to the array of tables of a header. -/
def openElement (path : List String) (key : String) (t : Open) : Except Fault Open :=
  descend false (fun (kind, es) =>
    match es.lookup key with
    | none => return (kind, es ++ [(key, .tables [[]])])
    | some (.tables elements) =>
      return (kind, replaceItem es key (.tables (elements ++ [[]])))
    | some _ => throw (.duplicateKey key)) path t

/-- Inserts into the table that the last header opened. -/
def insertBelow (header : List String) (path : List String) (key : String) (v : Value) (t : Open) :
    Except Fault Open :=
  descend false (insertValue path key v) header t

mutual

/-- The value that an item is in the end. -/
def Item.close : Item → Value
  | .value v => v
  | .table _ entries => .table (closeEntries entries)
  | .tables elements => .array (closeElements elements)

def closeEntries : List (String × Item) → List (String × Value)
  | [] => []
  | (key, item) :: es => (key, item.close) :: closeEntries es

def closeElements : List (List (String × Item)) → List Value
  | [] => []
  | es :: rest => .table (closeEntries es) :: closeElements rest

end

end SourcePatch.Toml
