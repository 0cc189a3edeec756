import OutOfDomain.Constraint.Error
import OutOfDomain.Parameters.Basic
import OutOfDomain.Residue.Power

/-!
# How a check can fail

A check has three ways to say no, and they must not be confused. Only
`CheckError.consistencyViolation` *rejects* a proof: the two sides were computed and differ. A
`CheckError.degenerateDivisor` says that the point was chosen where nothing can be computed, and
that another point should be drawn. All others say that what was handed in does not fit the
parameters, or that arithmetic did not come out as it must in a field.
-/

set_option autoImplicit false

namespace OutOfDomain

/-! ## Divisors, counts and degrees by name -/

/-- The divisor that an error is about. -/
inductive DivisorKind where
  | transition
  | boundary (assertion step : Nat)
  deriving DecidableEq, Repr

/-- The name that a divisor has in reports. -/
def DivisorKind.label : DivisorKind → String
  | transition => "transition divisor"
  | boundary assertion step => s!"boundary divisor of assertion {assertion} (step {step})"

/-- The part of the input that has been counted. -/
inductive Part where
  | channel
  | transitionResidues
  | transitionDegrees
  | transitionWeights
  | boundaryAssertions
  | boundaryWeights
  | systemWidth
  | systemLength
  | systemAssertions
  | systemPublicInputs
  | frameWidth
  | publicInputs
  deriving DecidableEq, Repr

/-- The name that a part has in reports. -/
def Part.label : Part → String
  | channel => "channel evaluations"
  | transitionResidues => "transition residues"
  | transitionDegrees => "transition degrees"
  | transitionWeights => "transition coefficients"
  | boundaryAssertions => "boundary assertions"
  | boundaryWeights => "boundary coefficients"
  | systemWidth => "air trace width"
  | systemLength => "air trace length"
  | systemAssertions => "air assertion count"
  | systemPublicInputs => "air public input count"
  | frameWidth => "frame width"
  | publicInputs => "public inputs"

/-- What has a degree that can be too high. -/
inductive Graded where
  | transitionConstraint
  | boundaryDivisor
  deriving DecidableEq, Repr

/-- The name that it has in reports. -/
def Graded.label : Graded → String
  | transitionConstraint => "transition constraint"
  | boundaryDivisor => "boundary divisor"

/-! ## Errors -/

/-- Why a check has failed. -/
inductive CheckError where
  | consistencyViolation (channel constraints : Nat)
  | degenerateDivisor (divisor : DivisorKind)
  | shapeMismatch (what : Part) (expected actual : Nat)
  | degreeOutOfRange (what : Graded) (index degree max : Nat)
  | assertionStepOutOfRange (assertion step traceLength : Nat)
  | exponentOutOfRange (overflow : ExponentOverflow)
  | quotientMismatch (divisor : DivisorKind)
  | constraint (e : ConstraintError)
  | parameters (e : ParameterError)
  deriving DecidableEq, Repr

namespace CheckError

/-- The text that reports a failed check. -/
def message : CheckError → String
  | consistencyViolation channel constraints =>
    s!"ood consistency violated: channel {channel} != constraints {constraints}"
  | degenerateDivisor divisor => s!"{divisor.label} vanishes at the ood point"
  | shapeMismatch what expected actual =>
    s!"shape mismatch for {what.label}: expected {expected}, got {actual}"
  | degreeOutOfRange what index degree max =>
    s!"{what.label} {index} has degree {degree} above {max}"
  | assertionStepOutOfRange assertion step traceLength =>
    s!"assertion {assertion} pinned to step {step} outside trace of length {traceLength}"
  | exponentOutOfRange overflow => overflow.message
  | quotientMismatch divisor => s!"quotient re-check failed for {divisor.label}"
  | constraint e => s!"air evaluation failed: {e.message}"
  | parameters e => s!"invalid verifier parameters: {e.message}"

/-- Whether the proof itself is at fault. -/
def isRejection : CheckError → Bool
  | consistencyViolation .. => true
  | _ => false

/-- Whether the point is at fault. -/
def isDegeneratePoint : CheckError → Bool
  | degenerateDivisor _ => true
  | _ => false

/-- The text of the error that this one passes on, if it passes one on. -/
def cause? : CheckError → Option String
  | constraint e => some e.message
  | parameters e => some e.message
  | _ => none

/-- Pass on an error of the evaluators. -/
def ofConstraint {α : Type} (x : Except ConstraintError α) : Except CheckError α :=
  x.mapError constraint

/-- Pass on an exponent overflow. -/
def ofOverflow {α : Type} (x : Except ExponentOverflow α) : Except CheckError α :=
  x.mapError exponentOutOfRange

end CheckError

end OutOfDomain
