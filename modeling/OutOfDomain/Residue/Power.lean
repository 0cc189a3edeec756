import OutOfDomain.BitWidth
import OutOfDomain.Residue.Basic

/-!
# Powers, inverses and roots of unity

All exponentiation is one function, `Residue.raise`: it reads a fixed number of bits off the
exponent, the highest first, squaring for each and multiplying for each that is set. The number of
steps depends on the declared width alone, never on the exponent.

A declared width that the exponent does not fit is refused by `Residue.powBounded`; an empty
product is one, so anything to the power zero is one, zero included.

The inverse of `a` is *defined* as `a` to the power of the modulus less two. For a prime modulus
that is the inverse; for a composite one it is merely a residue, and whoever divides has to
multiply back (see `Check.checkedQuotient`).
-/

set_option autoImplicit false

namespace OutOfDomain

/-- An exponent with a bit set at or above the declared width, or a width beyond a word. -/
structure ExponentOverflow where
  exponent : UInt64
  bits : UInt32
  deriving DecidableEq, Repr

/-- The text that reports an exponent overflow. -/
def ExponentOverflow.message (e : ExponentOverflow) : String :=
  s!"exponent {e.exponent} does not fit in {e.bits} bits"

namespace Residue

variable {q : Modulus}

/-! ## Powers -/

/-- The power of `base` to the number that the low `bits` bits of `exponent` spell. -/
def raise (base : Residue q) (exponent : Nat) : (bits : Nat) → Residue q
  | 0 => 1
  | bits + 1 =>
    let high := (raise base (exponent / 2) bits).square
    if exponent % 2 = 1 then high * base else high

/-- The power to any word. -/
def pow (base : Residue q) (exponent : UInt64) : Residue q :=
  raise base exponent.toNat 64

/-- The power to an exponent whose width is known: no step is spent above its highest bit. -/
def powFixed (base : Residue q) (exponent : UInt64) : Residue q :=
  raise base exponent.toNat (bitWidth exponent).toNat

/-- The power to an exponent of at most `bits` bits. -/
def powBounded (base : Residue q) (exponent : UInt64) (bits : UInt32) :
    Except ExponentOverflow (Residue q) :=
  if 64 < bits then .error ⟨exponent, bits⟩
  else if bits < 64 ∧ exponent >>> bits.toUInt64 ≠ 0 then .error ⟨exponent, bits⟩
  else .ok (raise base exponent.toNat bits.toNat)

/-! ## Inverses and roots -/

/-- The inverse of a non-zero residue, for a prime modulus. Zero has none. The word subtraction
wraps for modulus one only, where zero is the one residue there is. -/
def inverse? (a : Residue q) : Option (Residue q) :=
  if a = 0 then none else some (raise a (q.word - 2).toNat 64)

/-- The power of the generator whose order is `order`, if that divides the order of the group of
units of a prime modulus. -/
def rootOfUnity? (order : UInt64) : Option (Residue q) :=
  if order = 0 ∨ (q.word - 1) % order ≠ 0 then none
  else some (generator.pow ((q.word - 1) / order))

end Residue

end OutOfDomain
