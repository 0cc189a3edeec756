import OutOfDomain.Check.Verifier
import OutOfDomain.Encoding.Refusal

/-!
# Check inputs in documents

Whatever a check looks at can be written down as a test vector and read back. The records keep the
order of their members, and a frame is only read if its two rows make one.
-/

set_option autoImplicit false

namespace OutOfDomain.Encoding

open Json (Codec)
open Json.Fields (field)

/-! ## Constraints -/

/-- Weights. -/
def weight (q : Modulus) : Encoding (Weight q) :=
  .record "CoefficientPair" <|
    Weight.mk <$> field "c0" Weight.c0 (residue q) <*> field "c1" Weight.c1 (residue q)

/-- The two rows of a frame, before they are compared. -/
structure Rows (q : Modulus) where
  current : List (Residue q)
  next : List (Residue q)

/-- Two rows. -/
def rows (q : Modulus) : Encoding (Rows q) :=
  .record "RawFrame" <|
    Rows.mk <$> field "current" Rows.current (residues q) <*> field "next" Rows.next (residues q)

/-- Frames: two rows that are compared at the closing bracket. -/
def frame (q : Modulus) : Encoding (Frame q) :=
  (rows q).refine (fun r => (Frame.ofRows r.current r.next).mapError .frame)
    fun f => ⟨f.current, f.next⟩

/-- Evaluated transition constraints. The two lists are not compared. -/
def transitionEvaluation (q : Modulus) : Encoding (TransitionEvaluation q) :=
  .record "TransitionEvaluation" <|
    TransitionEvaluation.mk
      <$> field "residues" TransitionEvaluation.residues (residues q)
      <*> field "degrees" TransitionEvaluation.degrees count.list

/-- One evaluated assertion. -/
def assertionEvaluation (q : Modulus) : Encoding (AssertionEvaluation q) :=
  .record "AssertionEvaluation" <|
    AssertionEvaluation.mk
      <$> field "residue" AssertionEvaluation.residue (residue q)
      <*> field "divisor_degree" AssertionEvaluation.divisorDegree count
      <*> field "step" AssertionEvaluation.step count

/-- Evaluated assertions. -/
def boundaryEvaluation (q : Modulus) : Encoding (BoundaryEvaluation q) :=
  .record "BoundaryEvaluation" <|
    BoundaryEvaluation.mk
      <$> field "assertions" BoundaryEvaluation.assertions (assertionEvaluation q).list

/-- Assertions. -/
def assertion (q : Modulus) : Encoding (Assertion q) :=
  .record "Assertion" <|
    Assertion.mk
      <$> field "column" Assertion.column count
      <*> field "step" Assertion.step count
      <*> field "value" Assertion.value (residue q)

/-! ## Inputs -/

/-- Inputs with evaluated constraints. -/
def evaluatedInputs (q : Modulus) : Encoding (EvaluatedInputs q) :=
  .record "OodInputs" <|
    EvaluatedInputs.mk
      <$> field "z" EvaluatedInputs.z (residue q)
      <*> field "g_trace" EvaluatedInputs.generator (residue q)
      <*> field "transition_coeffs" EvaluatedInputs.transitionWeights (weight q).list
      <*> field "boundary_coeffs" EvaluatedInputs.boundaryWeights (weight q).list
      <*> field "transition" EvaluatedInputs.transition (transitionEvaluation q)
      <*> field "boundary" EvaluatedInputs.boundary (boundaryEvaluation q)
      <*> field "channel_ood_evaluations" EvaluatedInputs.channel (residues q)

/-- Inputs with a frame. -/
def frameInputs (q : Modulus) : Encoding (FrameInputs q) :=
  .record "FrameInputs" <|
    FrameInputs.mk
      <$> field "z" FrameInputs.z (residue q)
      <*> field "g_trace" FrameInputs.generator (residue q)
      <*> field "frame" FrameInputs.frame (frame q)
      <*> field "public_inputs" FrameInputs.publicInputs (residues q)
      <*> field "transition_coeffs" FrameInputs.transitionWeights (weight q).list
      <*> field "boundary_coeffs" FrameInputs.boundaryWeights (weight q).list
      <*> field "channel_ood_evaluations" FrameInputs.channel (residues q)

/-! ## Choices -/

/-- Fold strategies, by name. -/
def foldStrategy : Encoding FoldStrategy :=
  .choice [.sequential, .reduction] FoldStrategy.name

/-- Schedules, by name. -/
def schedule : Encoding Schedule :=
  .choice [.serial, .parallel] Schedule.name

end OutOfDomain.Encoding
