/-!
# Bits of a word

How many bits a 64-bit word needs. Every exponent that the check raises to is read off a declared
number of bits, and those widths are the widths of the largest exponents that can arise.
-/

set_option autoImplicit false

namespace OutOfDomain

/-- The number of bits that a word needs; zero needs none. -/
def bitWidth (w : UInt64) : UInt32 :=
  if w = 0 then 0 else (w.toNat.log2 + 1).toUInt32

end OutOfDomain
