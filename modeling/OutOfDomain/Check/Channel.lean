import OutOfDomain.Check.Error
import OutOfDomain.Residue.Progression

/-!
# The channel

The composition polynomial is committed to column by column, and opened column by column. The
channel carries the opened values; put back together with the powers of the point, they are the
value of the polynomial. A check ends by comparing that with the value of the constraints.
-/

set_option autoImplicit false

namespace OutOfDomain

variable {q : Modulus}

/-- The sum of the channel values, each times a power of the point, in ascending order. -/
def combineChannel (channel : List (Residue q)) (z : Residue q) : Residue q :=
  Residue.sum (List.zipWith (· * ·) channel (Residue.progression 1 z channel.length))

/-- Compare the two sides of a check. -/
def checkConsistency (channel constraints : Residue q) : Except CheckError Unit :=
  if channel = constraints then .ok ()
  else .error (.consistencyViolation channel.toNat constraints.toNat)

end OutOfDomain
