/-!
# Styles

Colours and weights of text on a terminal, as control sequences around it.
-/

namespace SourcePatch.CommandLine

inductive Style where
  | dimmed
  | italic
  | red
  | green
  | yellow
  | blue
  | cyan
deriving DecidableEq, Repr

namespace Style

def code : Style → String
  | .dimmed => "2"
  | .italic => "3"
  | .red => "31"
  | .green => "32"
  | .yellow => "33"
  | .blue => "34"
  | .cyan => "36"

/-- Begins a style. -/
def opening (s : Style) : String := "\x1b[" ++ s.code ++ "m"

/-- Ends every style. -/
def closing : String := "\x1b[0m"

/-- A text in a style. Where the text itself ends all styles, this one begins anew. -/
def paint (s : Style) (coloured : Bool) (text : String) : String :=
  if coloured then s.opening ++ text.replace closing (closing ++ s.opening) ++ closing else text

end Style

end SourcePatch.CommandLine
