import SourcePatch.Edit.FileEdits
import SourcePatch.Rule.Insertion

/-!
# Edits of a transform

A transform lands in its file as edits: one for each replacement, verified against the text that
the rule matched.
-/

namespace SourcePatch

def Replacement.toEdit (r : Replacement) : Edit :=
  .ofText r.byteStart r.byteEnd r.replacement r.replaced

def Transform.edits (t : Transform) : List Edit := t.replacements.map Replacement.toEdit

end SourcePatch
