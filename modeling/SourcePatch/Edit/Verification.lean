import SourcePatch.Hash.Xxh3
import SourcePatch.Text.Quoted

/-!
# Verification of texts

What a text has to be for an edit to land: equal to a known text or, for a long one, of a known
hash.
-/

namespace SourcePatch

inductive Verification where
  | exact (text : String)
  | hash (value : UInt64)
deriving DecidableEq, Repr

namespace Verification

/-- The longest text, in octets, that is kept as it is. -/
def exactLimit : Nat := 1024

/-- Does a text pass? -/
def accepts (v : Verification) (text : String) : Bool :=
  match v with
  | .exact expected => text = expected
  | .hash value => Xxh3.hash (Utf8.octets text) = value

/-- What only a given text passes, up to texts of the same hash. -/
def ofText (text : String) : Verification :=
  if (Utf8.octets text).length > exactLimit then .hash (Xxh3.hash (Utf8.octets text))
  else .exact text

/-- How a verification is shown in reports. -/
def shown : Verification → String
  | .exact text => "ExactMatch(" ++ Quoted.encode text ++ ")"
  | .hash value => s!"Hash({value.toNat})"

/-- A text passes the verification made of it. -/
theorem accepts_ofText (text : String) : (ofText text).accepts text = true := by
  unfold ofText
  split <;> simp [accepts]

end Verification

end SourcePatch
