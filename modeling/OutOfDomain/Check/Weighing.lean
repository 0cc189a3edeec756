import OutOfDomain.Check.Error
import OutOfDomain.Constraint.Evaluation

/-!
# Weighing residues

Residues of different degrees are brought to one degree before they are added up, so that a random
combination of them bounds the degree of each. A residue of degree `d` counts once as it is and
once multiplied by `z` to the power that lifts it to the highest degree; its weight says how much of
each.

An assertion of divisor degree `d` has a residue of the degree of a trace polynomial, and loses `d`
by its division, so it is lifted by that much more.
-/

set_option autoImplicit false

namespace OutOfDomain

variable {q : Modulus}

namespace Parameters

/-- The exponent that lifts the residue of a column from its degree to the highest. -/
def transitionExponent (p : Parameters) (column : Nat) (degree : UInt64) :
    Except CheckError UInt64 :=
  if p.maxDegree < degree then
    .error (.degreeOutOfRange .transitionConstraint column degree.toNat p.maxDegree.toNat)
  else .ok (p.maxDegree - degree)

/-- The exponent that lifts the residue of an assertion from the degree of a trace polynomial, less
that of its divisor, to the highest. -/
def boundaryExponent (p : Parameters) (assertion : Nat) (divisorDegree : UInt64) :
    Except CheckError UInt64 :=
  let lastRow := p.traceLength - 1
  if lastRow < divisorDegree then
    .error (.degreeOutOfRange .boundaryDivisor assertion divisorDegree.toNat lastRow.toNat)
  else .ok (p.maxDegree - lastRow + divisorDegree)

/-- The power of the point that lifts a residue. -/
def adjustment (p : Parameters) (z : Residue q) (exponent : UInt64) :
    Except CheckError (Residue q) :=
  CheckError.ofOverflow (z.powBounded exponent p.degreeBits)

/-- The weighed residue of a column. -/
def transitionTerm (p : Parameters) (z : Residue q) (column : Nat) (weight : Weight q)
    (residue : Residue q) (degree : UInt64) : Except CheckError (Residue q) := do
  let exponent ← p.transitionExponent column degree
  return weight.at (← p.adjustment z exponent) * residue

/-- The weighed residue of an assertion, not yet divided. -/
def boundaryTerm (p : Parameters) (z : Residue q) (assertion : Nat) (weight : Weight q)
    (evaluation : AssertionEvaluation q) : Except CheckError (Residue q) := do
  let exponent ← p.boundaryExponent assertion evaluation.divisorDegree
  return weight.at (← p.adjustment z exponent) * evaluation.residue

end Parameters

end OutOfDomain
