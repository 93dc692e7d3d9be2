import SourcePatch.CommandLine.Style
import SourcePatch.Patch.Patcher

/-!
# The log

What is told about a patch while it is made, if one asks for it: a line for each match, one for
the plan, and one or two for what became of it.
-/

namespace SourcePatch.CommandLine

inductive LogLevel where
  | info
  | debug
deriving DecidableEq, Repr

structure LogEntry where
  level : LogLevel
  text : String
  fields : List (String × String)
deriving DecidableEq, Repr

namespace LogEntry

def levelText (coloured : Bool) : LogLevel → String
  | .info => Style.green.paint coloured "INFO"
  | .debug => Style.blue.paint coloured "DEBUG"

def fieldText (coloured : Bool) (field : String × String) : String :=
  Style.italic.paint coloured field.1 ++ Style.dimmed.paint coloured "=" ++ field.2

/-- The entry as a line. -/
def render (coloured : Bool) (e : LogEntry) : String :=
  " ".intercalate ([levelText coloured e.level, e.text] ++ e.fields.map (fieldText coloured))
    ++ "\n"

/-- What is told of a match. -/
def ofHit (hit : MatchSpan) : LogEntry where
  level := .debug
  text := if hit.skipped then "guard present, skipping match" else "inserting after match"
  fields := [("line", toString hit.line)]

/-- What is told of a plan. -/
def ofPlan (p : Plan) : List LogEntry :=
  p.transform.hits.map ofHit ++
    [{ level := .debug
       text := "planned patch"
       fields := [("file", p.file), ("matched", toString p.transform.hits.length),
         ("inserted", toString p.transform.inserted)] }]

/-- What is told of a plan that was committed. -/
def ofReport (r : PatchReport) : List LogEntry :=
  match r.bytes with
  | none =>
    [{ level := .debug
       text := "nothing to insert, leaving file untouched"
       fields := [("file", r.file)] }]
  | some bytes =>
    [{ level := .info
       text := "wrote patched file"
       fields := [("file", r.file), ("edits", toString r.inserted), ("bytes", toString bytes)] },
     { level := .debug
       text := "committed patch"
       fields := [("file", r.file), ("edits", toString r.inserted)] }]

end LogEntry

end SourcePatch.CommandLine
