import SourcePatch.Text.Blank
import SourcePatch.Unicode.CategoryData
import SourcePatch.Unicode.ScriptData
import SourcePatch.Unicode.PropertyData
import SourcePatch.Unicode.SegmentationData
import SourcePatch.Unicode.CaseOrbitData

/-!
# Character properties by name

The character sets that a pattern names with `\p`: general categories, scripts, binary
properties, segmentation classes and ages.

* `looseName` is the spelling under which names are compared: ASCII letters in lower case, without
  blanks, hyphens, underscores and a leading `is`.
* `named?` finds the set of a bare name, `valued?` that of a property together with a value.
* `foldCase` closes a set under simple case folding.
-/

namespace SourcePatch.Unicode

/-- Looks a key up in rows that carry several names. -/
def findRow? (rows : List (List String × List String)) (name : String) : Option CharSet :=
  (rows.find? fun r => r.1.contains name).map fun r => CharSet.ofRuns r.2

/-- Drops what loose comparison ignores and lowers ASCII letters. -/
def squeeze (cs : List Char) : List Char :=
  (cs.filter fun c => c.toNat < 128 && c != ' ' && c != '_' && c != '-').map Char.toLower

/-- The spelling under which property names are compared. A leading `is` does not count, except
that `isc` stays as it is. -/
def looseName (name : List Char) : String :=
  match name with
  | i :: s :: rest =>
    if (i == 'i' || i == 'I') && (s == 's' || s == 'S') then
      let body := squeeze rest
      if body = ['c'] then "isc" else String.ofList body
    else String.ofList (squeeze name)
  | _ => String.ofList (squeeze name)

/-! ## General categories -/

def category (short : String) : CharSet :=
  match categoryRuns.lookup short with
  | some runs => CharSet.ofRuns runs
  | none => CharSet.empty

def categories (shorts : List String) : CharSet :=
  CharSet.unions (shorts.map category)

/-- Code points that stand for no character on their own. -/
def surrogates : CharSet := CharSet.range 0xD800 0xDFFF

def assigned : CharSet := categories (categoryRuns.map (·.1))

def unassigned : CharSet := (assigned.union surrogates).compl

/-- Long names of the two-letter categories. -/
def categoryNames : List (String × String) := [
  ("control", "cc"), ("cntrl", "cc"), ("format", "cf"), ("privateuse", "co"),
  ("lowercaseletter", "ll"), ("modifierletter", "lm"), ("otherletter", "lo"),
  ("titlecaseletter", "lt"), ("uppercaseletter", "lu"), ("spacingmark", "mc"),
  ("enclosingmark", "me"), ("nonspacingmark", "mn"), ("decimalnumber", "nd"), ("digit", "nd"),
  ("letternumber", "nl"), ("othernumber", "no"), ("connectorpunctuation", "pc"),
  ("dashpunctuation", "pd"), ("closepunctuation", "pe"), ("finalpunctuation", "pf"),
  ("initialpunctuation", "pi"), ("otherpunctuation", "po"), ("openpunctuation", "ps"),
  ("currencysymbol", "sc"), ("modifiersymbol", "sk"), ("mathsymbol", "sm"),
  ("othersymbol", "so"), ("lineseparator", "zl"), ("paragraphseparator", "zp"),
  ("spaceseparator", "zs")]

/-- The categories that a one-letter name or its long form stands for. -/
def categoryGroup? (name : String) : Option (List String) :=
  if name = "l" || name = "letter" then some ["ll", "lm", "lo", "lt", "lu"]
  else if name = "lc" || name = "casedletter" then some ["ll", "lt", "lu"]
  else if name = "m" || name = "mark" || name = "combiningmark" then some ["mc", "me", "mn"]
  else if name = "n" || name = "number" then some ["nd", "nl", "no"]
  else if name = "p" || name = "punctuation" || name = "punct" then
    some ["pc", "pd", "pe", "pf", "pi", "po", "ps"]
  else if name = "s" || name = "symbol" then some ["sc", "sk", "sm", "so"]
  else if name = "z" || name = "separator" then some ["zl", "zp", "zs"]
  else none

/-- The general category of a loose name. -/
def category? (name : String) : Option CharSet :=
  if name = "any" then some CharSet.full
  else if name = "assigned" then some assigned
  else if name = "ascii" then some (CharSet.range 0 127)
  else if name = "cn" || name = "unassigned" then some unassigned
  else if name = "c" || name = "other" then
    some ((categories ["cc", "cf", "co"]).union unassigned)
  else match categoryGroup? name with
    | some shorts => some (categories shorts)
    | none =>
      let short := (categoryNames.lookup name).getD name
      (categoryRuns.lookup short).map CharSet.ofRuns

/-! ## Scripts, properties and segmentation classes -/

def scriptRow? (name : String) : Option ScriptRow :=
  scriptRows.find? fun r => r.names.contains name

def script? (name : String) : Option CharSet :=
  (scriptRow? name).map fun r => CharSet.ofRuns r.runs

def scriptExtensions? (name : String) : Option CharSet :=
  (scriptRow? name).map fun r => CharSet.ofRuns (r.extensionRuns.getD r.runs)

def property? (name : String) : Option CharSet :=
  if name = "whitespace" || name = "wspace" || name = "space" then some Blank.blanks
  else findRow? propertyRuns name

/-- Everything assigned up to and including the version of that name. -/
def age? (name : String) : Option CharSet :=
  if (ageRuns.find? fun r => r.1.contains name).isSome then
    let earlier := ageRuns.takeWhile fun r => !r.1.contains name
    (findRow? ageRuns name).map fun last =>
      (CharSet.unions (earlier.map fun r => CharSet.ofRuns r.2)).union last
  else none

/-- The set of a bare name: a binary property, a general category or a script. The names `cf`,
`sc` and `lc` are categories. -/
def named? (name : List Char) : Option CharSet :=
  let name := looseName name
  property? name <|> category? name <|> script? name

/-- The set of a property that takes values. -/
def valued? (property value : List Char) : Option CharSet :=
  let property := looseName property
  let value := looseName value
  if property = "gc" || property = "generalcategory" then category? value
  else if property = "sc" || property = "script" then script? value
  else if property = "scx" || property = "scriptextensions" then scriptExtensions? value
  else if property = "age" then age? value
  else if property = "gcb" || property = "graphemeclusterbreak" then
    findRow? graphemeBreakRuns value
  else if property = "wb" || property = "wordbreak" then findRow? wordBreakRuns value
  else if property = "sb" || property = "sentencebreak" then findRow? sentenceBreakRuns value
  else none

/-! ## Classes with a short name -/

def property (name : String) : CharSet := (property? name).getD CharSet.empty

def decimalDigits : CharSet := category "nd"

/-- Letters, marks, decimal digits, connectors and join controls. -/
def wordChars : CharSet :=
  CharSet.unions [property "alphabetic", categories ["mc", "me", "mn", "nd", "pc"],
    property "joincontrol"]

def alphabetic : CharSet := property "alphabetic"

def alphanumeric : CharSet := alphabetic.union (categories ["nd", "nl", "no"])

/-! ## Case folding -/

/-- Code points of an orbit, from the distances between them. -/
def pointsFrom (base : Nat) : List Nat → List Nat
  | [] => []
  | step :: steps => (base + step) :: pointsFrom (base + step) steps

def readOrbits (base : Nat) : List (List Nat) → List (List Nat)
  | [] => []
  | word :: words =>
    match pointsFrom base word with
    | [] => readOrbits base words
    | first :: others => (first :: others) :: readOrbits first words

/-- All orbits of simple case folding. -/
def caseOrbits : List (List Nat) :=
  readOrbits 0 ((CharSet.words caseOrbitLines).map fun word =>
    (word.splitOn '+').map CharSet.readNumber)

/-- Adds the other members of every orbit that meets the set. -/
def foldCase (s : CharSet) : CharSet :=
  (caseOrbits.filter fun orbit => orbit.any s.containsPoint).foldl
    (fun acc orbit => orbit.foldl (fun acc n => acc.union (CharSet.range n n)) acc) s

/-- Adds to each ASCII letter its other case. -/
def foldAsciiCase (s : CharSet) : CharSet :=
  (List.range 26).foldl (fun acc i =>
    if s.containsPoint (65 + i) || s.containsPoint (97 + i) then
      (acc.union (CharSet.range (65 + i) (65 + i))).union (CharSet.range (97 + i) (97 + i))
    else acc) s

end SourcePatch.Unicode
