import SourcePatch.Edit.AtomicWrite
import SourcePatch.Edit.Verification

/-!
# Edits of files

An `Edit` replaces a span of octets, provided that the span still holds what it held when the edit
was made. `FileEdits` are edits of one file that land together or not at all.

* `FileEdits.resultOn` is the new content of the file, or the reason why the edits do not fit it.
* `FileEdits.apply` reads the file, and if they fit, replaces it and marks it as changed.
-/

namespace SourcePatch

structure Edit where
  byteStart : Nat
  byteEnd : Nat
  newText : String
  expected : Verification
deriving DecidableEq, Repr

/-- Why edits do not land. -/
inductive EditError where
  | beforeTextMismatch (file : String) (byteStart byteEnd : Nat) (expected : Verification)
      (found : String)
  | invalidByteRange (byteStart byteEnd fileLength : Nat)
  | overlapping (firstEnd secondStart : Nat)
  | io (cause : OsError)
  | utf8 (cause : Utf8.DecodeError)
  | sourceChanged (file : String)
  | invalidUtf8Edit
deriving DecidableEq, Repr

def EditError.message : EditError → String
  | .beforeTextMismatch file first last _ _ =>
    s!"{file} changed since it was read: span [{first}, {last}) no longer matches"
  | .invalidByteRange first last length =>
    s!"Invalid byte range: [{first}, {last}) in file of length {length}"
  | .overlapping firstEnd secondStart =>
    s!"Overlapping edits: span ending at {firstEnd} runs past span starting at {secondStart}"
  | .io cause => s!"File I/O error: {cause.message}"
  | .utf8 cause => s!"UTF-8 validation error: {cause.message}"
  | .sourceChanged file => s!"{file} changed since it was read"
  | .invalidUtf8Edit => "Invalid edit would create malformed UTF-8"

/-- What applying edits did. -/
inductive EditResult where
  | applied (file : String) (edits bytes : Nat)
  | unchanged (file : String)
deriving DecidableEq, Repr

namespace Edit

/-- An edit of a span that holds a known text. -/
def ofText (byteStart byteEnd : Nat) (newText before : String) : Edit :=
  ⟨byteStart, byteEnd, newText, .ofText before⟩

/-- Checks that the span lies in the content and holds what is expected. -/
def validate (e : Edit) (file : String) (content : Bytes) : Except EditError Unit :=
  if e.byteStart > e.byteEnd ∨ e.byteEnd > content.length then
    .error (.invalidByteRange e.byteStart e.byteEnd content.length)
  else
    match Utf8.decodeString ((content.drop e.byteStart).take (e.byteEnd - e.byteStart)) with
    | .error cause => .error (.utf8 cause)
    | .ok current =>
      if e.expected.accepts current then .ok ()
      else .error (.beforeTextMismatch file e.byteStart e.byteEnd e.expected current)

/-- The content with the span replaced. -/
def splice (content : Bytes) (e : Edit) : Bytes :=
  content.take e.byteStart ++ Utf8.octets e.newText ++ content.drop e.byteEnd

end Edit

/-- Edits of one file. The pin, if there is one, has to accept the whole file. -/
structure FileEdits where
  file : String
  edits : List Edit := []
  pin : Option Verification := none
deriving DecidableEq, Repr

namespace FileEdits

def push (b : FileEdits) (e : Edit) : FileEdits := { b with edits := b.edits ++ [e] }

/-- Edits that are pushed one after another keep this order. -/
theorem foldl_push (b : FileEdits) (es : List Edit) :
    es.foldl push b = { b with edits := b.edits ++ es } := by
  induction es generalizing b with
  | nil => rw [List.foldl_nil, List.append_nil]
  | cons e es ih =>
    rw [List.foldl_cons, ih, push]
    simp

/-- Requires the whole file to be a known text. -/
def pinSource (b : FileEdits) (source : String) : FileEdits :=
  { b with pin := some (.ofText source) }

/-- The edits from the end of the file to its beginning, so that no splice moves a later one. -/
def descending (b : FileEdits) : List Edit :=
  b.edits.mergeSort fun a b => decide (b.byteStart ≤ a.byteStart)

def checkPin (b : FileEdits) (content : Bytes) : Except EditError Unit :=
  match b.pin with
  | none => .ok ()
  | some pin =>
    match Utf8.decodeString content with
    | .error cause => .error (.utf8 cause)
    | .ok current => if pin.accepts current then .ok () else .error (.sourceChanged b.file)

def validateAll (file : String) (content : Bytes) : List Edit → Except EditError Unit
  | [] => .ok ()
  | e :: es => do
    e.validate file content
    validateAll file content es

/-- Checks that no edit runs into the one that follows it in the file. Edits come from the end of
the file to its beginning. -/
def checkOverlap : List Edit → Except EditError Unit
  | later :: earlier :: es =>
    if earlier.byteEnd > later.byteStart then
      .error (.overlapping earlier.byteEnd later.byteStart)
    else checkOverlap (earlier :: es)
  | _ => .ok ()

/-- What the edits make of a content that they fit. -/
def resultOn (b : FileEdits) (content : Bytes) : Except EditError Bytes := do
  b.checkPin content
  validateAll b.file content b.descending
  checkOverlap b.descending
  let result := b.descending.foldl Edit.splice content
  if Utf8.isText result then return result else throw .invalidUtf8Edit

variable {m : Type → Type} [Monad m] [Host m]

/-- Reads the file and, if all edits fit, replaces it. The time of the change is set in the end, and
if this fails the file has been replaced all the same. No edits leave the file alone. -/
def apply (b : FileEdits) : m (Except EditError EditResult) := do
  if b.edits.isEmpty then return .ok (.unchanged b.file)
  match ← Host.read b.file with
  | .error cause => return .error (.io cause)
  | .ok content =>
    match b.resultOn content with
    | .error cause => return .error cause
    | .ok result =>
      match ← atomicWrite b.file result with
      | .error cause => return .error (.io cause)
      | .ok () =>
        match ← Host.stamp b.file with
        | .error cause => return .error (.io cause)
        | .ok () => return .ok (.applied b.file b.edits.length result.length)

end FileEdits

end SourcePatch
