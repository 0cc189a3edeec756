import OutOfDomain.Constraint.Evaluation
import OutOfDomain.Parameters.Basic

/-!
# Constraint systems

The check never looks at a constraint. What it is given is a *system*: two functions that evaluate
all constraints on a frame, and the four numbers that say what to expect of them. Any two functions
make a system, whether or not they keep to those numbers; the check compares.
-/

set_option autoImplicit false

namespace OutOfDomain

/-- What a constraint system says about itself. -/
structure Layout where
  traceWidth : UInt64
  traceLength : UInt64
  assertionCount : UInt64
  publicInputCount : UInt64
  deriving DecidableEq, Repr

/-- A name, a layout and two evaluators. -/
structure ConstraintSystem (q : Modulus) where
  id : String
  layout : Layout
  transitions : (frame : Frame q) → Except ConstraintError (TransitionEvaluation q)
  /-- The residues and divisors of the assertions that the public inputs imply. The generator of
  the trace domain and the point are there for residues that depend on them. -/
  boundaries : (frame : Frame q) → (publicInputs : List (Residue q)) →
    (generator z : Residue q) → Except ConstraintError (BoundaryEvaluation q)

/-- The parameters of a check of this system, for a blowup of the caller's choice. -/
def ConstraintSystem.parameters {q : Modulus} (s : ConstraintSystem q) (blowup : UInt64) :
    Except ParameterError Parameters :=
  Draft.validate
    { traceLength := s.layout.traceLength
      traceWidth := s.layout.traceWidth
      assertionCount := s.layout.assertionCount
      blowup
      publicInputCount := s.layout.publicInputCount }

end OutOfDomain
