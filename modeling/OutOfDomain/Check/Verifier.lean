import OutOfDomain.Check.Channel
import OutOfDomain.Check.Fold
import OutOfDomain.Constraint.System
import OutOfDomain.Schedule

/-!
# The consistency check

At one point outside the trace domain, two values must agree: that of the composition polynomial,
which the channel carries, and that of the constraints, folded from their residues there. A verifier
is bound to one set of parameters and compares every size with them before it computes anything.

There are two ways in. `Verifier.verify` takes residues as they are; `Verifier.verifySystem` takes a
frame and lets a constraint system evaluate it. Both end in `Verifier.accumulate`, where all
arithmetic is.
-/

set_option autoImplicit false

namespace OutOfDomain

variable {q : Modulus}

/-! ## Inputs -/

/-- What a check of evaluated constraints looks at. -/
structure EvaluatedInputs (q : Modulus) where
  z : Residue q
  generator : Residue q
  transitionWeights : List (Weight q)
  boundaryWeights : List (Weight q)
  transition : TransitionEvaluation q
  boundary : BoundaryEvaluation q
  channel : List (Residue q)
  deriving DecidableEq

/-- What a check looks at that has yet to evaluate the constraints. -/
structure FrameInputs (q : Modulus) where
  z : Residue q
  generator : Residue q
  frame : Frame q
  publicInputs : List (Residue q)
  transitionWeights : List (Weight q)
  boundaryWeights : List (Weight q)
  channel : List (Residue q)
  deriving DecidableEq

/-! ## Verifiers -/

/-- The values that the constraints fold to. -/
structure Accumulation (q : Modulus) where
  transitionResult : Residue q
  finalValue : Residue q
  deriving DecidableEq

/-- A set of parameters, and a way to carry out a check. -/
structure Verifier where
  parameters : Parameters
  strategy : FoldStrategy := .sequential
  /-- Carried only: there are no workers (`Schedule.hasWorkers`), and no function reads it. -/
  schedule : Schedule := .standard
  deriving DecidableEq

namespace Verifier

/-- Compare all sizes with the parameters, then fold the constraints. -/
def accumulate (v : Verifier) (z generator : Residue q)
    (transitionWeights boundaryWeights : List (Weight q))
    (transition : TransitionEvaluation q) (boundary : BoundaryEvaluation q) :
    Except CheckError (Accumulation q) := do
  let p := v.parameters
  let width := p.traceWidth.toNat
  let assertions := p.assertionCount.toNat
  expectSize .transitionResidues width transition.residues.length
  expectSize .transitionDegrees width transition.degrees.length
  expectSize .transitionWeights width transitionWeights.length
  expectSize .boundaryAssertions assertions boundary.assertions.length
  expectSize .boundaryWeights assertions boundaryWeights.length
  let divisor ← TransitionDivisor.evaluate z generator p
  let transitionResult ← foldTransitions p z transitionWeights transition divisor v.strategy
  let finalValue ←
    foldBoundaries p z generator boundaryWeights boundary transitionResult v.strategy
  return { transitionResult, finalValue }

/-- Fold evaluated constraints; the channel is not looked at. -/
def evaluateConstraints (v : Verifier) (inputs : EvaluatedInputs q) :
    Except CheckError (Accumulation q) :=
  v.accumulate inputs.z inputs.generator inputs.transitionWeights inputs.boundaryWeights
    inputs.transition inputs.boundary

/-- Compare the channel with the folded constraints. -/
def finish (channel : List (Residue q)) (z : Residue q) (a : Accumulation q) :
    Except CheckError Unit :=
  checkConsistency (combineChannel channel z) a.finalValue

/-- Check evaluated constraints against the channel. -/
def verify (v : Verifier) (inputs : EvaluatedInputs q) : Except CheckError Unit := do
  expectSize .channel v.parameters.traceWidth.toNat inputs.channel.length
  finish inputs.channel inputs.z (← v.evaluateConstraints inputs)

/-- Evaluate the constraints of a system on a frame, and check them against the channel. -/
def verifySystem (v : Verifier) (system : ConstraintSystem q) (inputs : FrameInputs q) :
    Except CheckError Unit := do
  let p := v.parameters
  let layout := system.layout
  expectSize .systemWidth p.traceWidth.toNat layout.traceWidth.toNat
  expectSize .systemLength p.traceLength.toNat layout.traceLength.toNat
  expectSize .systemAssertions p.assertionCount.toNat layout.assertionCount.toNat
  expectSize .systemPublicInputs p.publicInputCount.toNat layout.publicInputCount.toNat
  expectSize .frameWidth p.traceWidth.toNat inputs.frame.width
  expectSize .publicInputs p.publicInputCount.toNat inputs.publicInputs.length
  expectSize .channel p.traceWidth.toNat inputs.channel.length
  let transition ← CheckError.ofConstraint (system.transitions inputs.frame)
  let boundary ← CheckError.ofConstraint
    (system.boundaries inputs.frame inputs.publicInputs inputs.generator inputs.z)
  finish inputs.channel inputs.z (← v.accumulate inputs.z inputs.generator
    inputs.transitionWeights inputs.boundaryWeights transition boundary)

end Verifier

end OutOfDomain
