import OutOfDomain.Proofs.Check.Missized
import OutOfDomain.Proofs.Recurrence.System

/-!
# Evaluating a recurrence

The evaluators of a recurrence fail on two occasions: the frame is not as wide as the rule, or the
public inputs are not as many as the rule publishes. A frame check compares both sizes before it
evaluates anything. So the evaluated inputs of a recurrence can be written down without a condition
(`Recurrence.evaluated`), and a frame check is the comparison of the sizes of its entry, followed by a
check of these (`verifySystem_eq_bind_verify`). No evaluator has a part in it any more.

This needs no trace and no domain. The frame may be any two rows, the point and the generator may be
anything, and the modulus too.
-/

set_option autoImplicit false

namespace OutOfDomain

variable {q : Modulus}

namespace Recurrence

section Evaluators

variable (r : Recurrence) (f : Frame q) (publicInputs : List (Residue q))

/-- The assertions that public inputs imply: the fixed ones, then one for each published cell. -/
def assertionsOn : List (Assertion q) :=
  r.fixedAssertions ++
    (r.publishedCells.zip publicInputs).map fun (cell, value) => ⟨cell.1, cell.2, value⟩

/-- The assertions that public inputs imply, on a frame. -/
def boundaryOn : BoundaryEvaluation q := ⟨(r.assertionsOn publicInputs).map (·.on f)⟩

variable {r f publicInputs}

theorem assertions_eq_ok (h : publicInputs.length = r.rule.publicInputCount) :
    r.assertions publicInputs = .ok (r.assertionsOn publicInputs) :=
  assertions_eq_ok_iff.2 ⟨(length_publishedCells r).trans h.symm, rfl⟩

theorem boundaries_eq_ok (hwidth : f.width = r.rule.width)
    (hinputs : publicInputs.length = r.rule.publicInputCount) :
    r.boundaries f publicInputs = .ok (r.boundaryOn f publicInputs) := by
  have hassertions := assertions_eq_ok hinputs
  refine bind_eq_ok_iff.2 ⟨_, hassertions, Assertion.evaluateAll_eq_ok fun a ha => ?_⟩
  rw [hwidth]
  exact (pins_of_assertions hassertions).column_lt a ha

end Evaluators

/-! ## Frame checks -/

/-- The inputs of a frame check with the constraints evaluated. -/
def evaluated (r : Recurrence) (inputs : FrameInputs q) : EvaluatedInputs q :=
  inputs.evaluated (r.transitionOn inputs.frame) (r.boundaryOn inputs.frame inputs.publicInputs)

section Checks

variable {r : Recurrence} {v : Verifier} {p : Parameters} {inputs : FrameInputs q}

theorem evaluate_eq_ok (hfits : (r.system q).layout.Fits p) (h : inputs.EntrySized p) :
    (r.system q).evaluate inputs = .ok (r.evaluated inputs) := by
  have hwidth : inputs.frame.width = r.rule.width :=
    h.width_frame.trans (toNat_traceWidth_of_fits hfits)
  have hinputs : inputs.publicInputs.length = r.rule.publicInputCount :=
    h.length_publicInputs.trans (toNat_publicInputCount_of_fits hfits)
  exact bind_eq_ok_iff.2 ⟨_, transitions_eq_ok hwidth,
    bind_eq_ok_iff.2 ⟨_, boundaries_eq_ok hwidth hinputs, rfl⟩⟩

/-- A frame check of a recurrence compares the sizes of its entry and checks the evaluated inputs. -/
theorem verifySystem_eq_bind_verify (hfits : (r.system q).layout.Fits v.parameters) :
    v.verifySystem (r.system q) inputs = (do
      reportFirst (sizeFaults (inputs.entrySizes v.parameters)) ()
      v.verify (r.evaluated inputs)) := by
  rw [verifySystem_eq_bind hfits]
  cases hsizes : sizeFaults (inputs.entrySizes v.parameters) with
  | cons e es => rfl
  | nil =>
    have hentry := FrameInputs.sizeFaults_entrySizes_eq_nil_iff.1 hsizes
    have hchannel : expectSize .channel v.parameters.traceWidth.toNat inputs.channel.length =
        .ok () := expectSize_eq_ok_iff.2 hentry.length_channel.symm
    rw [evaluate_eq_ok hfits hentry]
    change _ = v.verify (r.evaluated inputs)
    unfold Verifier.verify
    change _ = expectSize _ _ inputs.channel.length >>= _
    rw [hchannel]
    rfl

theorem verifySystem_eq_verify (hfits : (r.system q).layout.Fits v.parameters)
    (h : inputs.EntrySized v.parameters) :
    v.verifySystem (r.system q) inputs = v.verify (r.evaluated inputs) := by
  rw [verifySystem_eq_bind_verify hfits, FrameInputs.sizeFaults_entrySizes_eq_nil_iff.2 h]
  rfl

/-- What an accepted check has gone through. -/
theorem verifySystem_accepts (h : v.verifySystem (r.system q) inputs = .ok ()) :
    (r.system q).layout.Fits v.parameters ∧ inputs.EntrySized v.parameters ∧
      v.verify (r.evaluated inputs) = .ok () := by
  have hfits := (Verifier.verifySystem_eq_ok_iff.1 h).1
  rw [verifySystem_eq_bind_verify hfits] at h
  cases hsizes : sizeFaults (inputs.entrySizes v.parameters) with
  | cons e es =>
    rw [hsizes] at h
    cases h
  | nil =>
    rw [hsizes] at h
    exact ⟨hfits, FrameInputs.sizeFaults_entrySizes_eq_nil_iff.1 hsizes, h⟩

end Checks

end Recurrence

end OutOfDomain
