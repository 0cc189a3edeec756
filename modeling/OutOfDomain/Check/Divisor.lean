import OutOfDomain.Check.Error

/-!
# Divisors and division

The constraints of a trace hold on rows, that is, on points of the trace domain. A residue that
vanishes on those rows is a multiple of the polynomial that vanishes on them, and the quotient is a
polynomial too. At the one point of a check the quotient is just a quotient of residues, with two
things to look out for.

The divisor may be zero: the point then lies on the rows in question, and says nothing. And the
inverse may be none: modulo a composite number, `Residue.inverse?` returns a residue that need not
undo the division. So every quotient is multiplied back, and a quotient that does not give its
numerator back is an error, never a value.
-/

set_option autoImplicit false

namespace OutOfDomain

variable {q : Modulus}

/-- The quotient of two residues, multiplied back before it is returned. -/
def checkedQuotient (numerator divisor : Residue q) (kind : DivisorKind) :
    Except CheckError (Residue q) :=
  match divisor.inverse? with
  | none => .error (.degenerateDivisor kind)
  | some inverse =>
    let quotient := numerator * inverse
    if quotient * divisor = numerator then .ok quotient else .error (.quotientMismatch kind)

/-! ## The divisor of the transition constraints -/

/-- The value of the polynomial that vanishes on every row but the last. -/
structure TransitionDivisor (q : Modulus) where
  value : Residue q
  deriving DecidableEq

namespace TransitionDivisor

/-- The divisor at `z`: the polynomial that vanishes on the trace domain, `zⁿ - 1`, over the factor
for the last row. It must not be zero, nor may the factor, and so `z` lies on no row at all. -/
def evaluate (z generator : Residue q) (p : Parameters) :
    Except CheckError (TransitionDivisor q) := do
  let power ← CheckError.ofOverflow (z.powBounded p.traceLength p.stepBits)
  let last ← CheckError.ofOverflow (generator.powBounded (p.traceLength - 1) p.stepBits)
  let value ← checkedQuotient (power - 1) (z - last) .transition
  if value = 0 then throw (.degenerateDivisor .transition)
  return ⟨value⟩

/-- Divide by the divisor. -/
def divide (d : TransitionDivisor q) (numerator : Residue q) : Except CheckError (Residue q) :=
  checkedQuotient numerator d.value .transition

end TransitionDivisor

/-! ## The divisor of an assertion -/

/-- What belongs to one assertion: a value to divide by, a name for errors, and a way to divide,
which need not be `checkedQuotient`. Whoever uses a quotient multiplies it back. -/
structure BoundaryDivisor (q : Modulus) where
  value : Residue q
  kind : DivisorKind
  divide : Residue q → Except CheckError (Residue q)

namespace BoundaryDivisor

/-- The divisor that divides by `checkedQuotient`. -/
def ofValue (value : Residue q) (kind : DivisorKind) : BoundaryDivisor q where
  value
  kind
  divide numerator := checkedQuotient numerator value kind

/-- The divisor of an assertion that is pinned to one row: the distance of `z` from that row. It may
be zero here; only a division by it is an error. -/
def singlePole (z generator : Residue q) (assertion : Nat) (step : UInt64) (p : Parameters) :
    Except CheckError (BoundaryDivisor q) := do
  if p.traceLength ≤ step then
    throw (.assertionStepOutOfRange assertion step.toNat p.traceLength.toNat)
  let row ← CheckError.ofOverflow (generator.powBounded step p.stepBits)
  return ofValue (z - row) (.boundary assertion step.toNat)

end BoundaryDivisor

end OutOfDomain
