import OutOfDomain.Constraint.Error
import OutOfDomain.Json.Codec
import OutOfDomain.Parameters.Basic
import OutOfDomain.Residue.Basic

/-!
# Residues and words in documents

Documents hold residues and words as plain numbers. A residue has one spelling only, its canonical
representative: a number at or above the modulus is refused, never reduced, so that a document cannot
say the same thing in two ways.

`Refusal` lists all the reasons for which a value of the right kind is turned down.
-/

set_option autoImplicit false

namespace OutOfDomain

/-- Why a value in a document is turned down. -/
inductive Refusal where
  | notCanonical
  | frame (e : ConstraintError)
  | parameters (e : ParameterError)
  deriving DecidableEq, Repr

/-- The text that reports a refusal. -/
def Refusal.message : Refusal → String
  | notCanonical => "field element deserialization failed: non-canonical input"
  | frame e => e.message
  | parameters e => e.message

/-- A way to write and read values of a type in this library's documents. -/
abbrev Encoding (α : Type) := Json.Codec Refusal α

/-- Why a text does not hold what was wanted in it. -/
abbrev DecodeError := Json.Fault Refusal

/-- The text that reports why a document does not hold what was wanted; there is none for a text
that is no JSON. -/
def DecodeError.message? : DecodeError → Option String
  | .malformed => none
  | .mismatch m => some (m.message Refusal.message)

namespace Encoding

/-- Residues, by their canonical representatives. -/
def residue (q : Modulus) : Encoding (Residue q) :=
  Json.Codec.refine (Json.Codec.word "u64")
    (fun w => match Residue.ofCanonical? w with
      | some a => .ok a
      | none => .error .notCanonical)
    Residue.word

/-- Lists of residues. -/
def residues (q : Modulus) : Encoding (List (Residue q)) := (residue q).list

/-- Counts, degrees, rows and columns. -/
def count : Encoding UInt64 := Json.Codec.word "usize"

end Encoding

end OutOfDomain
