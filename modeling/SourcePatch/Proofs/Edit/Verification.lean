import SourcePatch.Edit.Verification
import SourcePatch.Proofs.Text.Octets

/-!
# What verifications accept

A verification that is made of a text accepts this text. What else it accepts is a matter of
hashes: nothing, as long as no hash is shared.
-/

namespace SourcePatch

/-- Do two different texts have the same hash? -/
def Xxh3.Collide (a b : String) : Prop :=
  a ≠ b ∧ Xxh3.hash (Utf8.octets a) = Xxh3.hash (Utf8.octets b)

namespace Verification

theorem ofText_of_long {text : String} (h : exactLimit < (Utf8.octets text).length) :
    ofText text = .hash (Xxh3.hash (Utf8.octets text)) := if_pos h

theorem ofText_of_short {text : String} (h : ¬ exactLimit < (Utf8.octets text).length) :
    ofText text = .exact text := if_neg h

/-- What passes the verification made of a text is this text, unless the text is a long one and
the two collide. -/
theorem eq_of_accepts {text found : String}
    (hhash : exactLimit < (Utf8.octets text).length → ¬ Xxh3.Collide found text)
    (h : (ofText text).accepts found = true) : found = text := by
  by_cases hlong : exactLimit < (Utf8.octets text).length
  · rw [ofText_of_long hlong, accepts, decide_eq_true_iff] at h
    apply Decidable.byContradiction
    intro hne
    exact hhash hlong ⟨hne, h⟩
  · rw [ofText_of_short hlong, accepts, decide_eq_true_iff] at h
    exact h

end Verification

end SourcePatch
