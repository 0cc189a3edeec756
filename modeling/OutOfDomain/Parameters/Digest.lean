import OutOfDomain.Blake3
import OutOfDomain.Parameters.Basic

/-!
# The digest of a parameter set

Two parties that agree on a digest agree on the parameters. The bytes that are hashed are a
definition of their own, `Parameters.preimage`: a tag of fixed length that keeps these digests apart
from all others, then the five words at eight bytes each. No word is longer than another, so no two
parameter sets share their bytes, and what is left to trust is the hash.
-/

set_option autoImplicit false

namespace OutOfDomain

/-- A number in `count` bytes, the low one first. -/
def littleEndian : (count : Nat) → Nat → List UInt8
  | 0, _ => []
  | count + 1, n => n.toUInt8 :: littleEndian count (n / 256)

namespace Parameters

/-- The tag that a parameter set is hashed under. -/
def digestTag : List UInt8 := "RPP-OOD-PARAMS-V1".toList.map fun c => c.toNat.toUInt8

/-- The bytes that stand for a parameter set: the tag and the five words in order. -/
def preimage (p : Parameters) : List UInt8 :=
  digestTag ++
    [p.traceLength, p.traceWidth, p.assertionCount, p.blowup, p.publicInputCount].flatMap
      fun w => littleEndian 8 w.toNat

/-- The digest of a parameter set. -/
def digest (p : Parameters) : List UInt8 := Blake3.hash p.preimage

end Parameters

end OutOfDomain
