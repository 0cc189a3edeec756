import OutOfDomain.DensePoly.Basic

/-!
# Interpolation on a coset

A list of `n` values on the points `s`, `s r`, `s r²`, … of a coset determines the polynomial with
`n` coefficients that takes them, provided that `r` has order `n`. The coefficients come from the
inverse transform: the values are themselves read as a polynomial and evaluated at the powers of
`r⁻¹`, then scaled by `n⁻¹` and by the powers of `s⁻¹`.

The order of `r` is the caller's promise. What is checked is that `n`, `r` and `s` are not zero,
since that is all that `Residue.inverse?` can refuse.
-/

set_option autoImplicit false

namespace OutOfDomain.DensePoly

variable {q : Modulus}

/-- The polynomial with as many coefficients as there are values that takes them in turn at the
points `shift * root ^ j`. -/
def interpolateCoset? (values : List (Residue q)) (shift root : Residue q) :
    Option (DensePoly q) := do
  let sizeInv ← Residue.inverse? (.ofWord values.length.toUInt64)
  let rootInv ← root.inverse?
  let shiftInv ← shift.inverse?
  let twiddles := Residue.progression 1 rootInv values.length
  let shifts := Residue.progression 1 shiftInv values.length
  return ⟨(twiddles.zip shifts).map fun (twiddle, unshift) =>
    evaluate ⟨values⟩ twiddle * sizeInv * unshift⟩

end OutOfDomain.DensePoly
