import OutOfDomain.Proofs.Check.Faults

/-!
# Sizes of a frame check

A frame check compares the sizes of its inputs in two places. Frame, public inputs and channel are
counted before the evaluators of the system run, the weights after, together with what the evaluators
have returned. So inputs of a wrong size are not always reported as such: where it is the weights that
are missized and an evaluator fails, the check ends in that failure
(`evaluator_failure_before_missing_weights`). `verifySystem_missized` says that there is no other
exception, whatever the evaluators return and wherever the point lies.
-/

set_option autoImplicit false

namespace OutOfDomain

variable {q : Modulus}

/-! ## The sizes of the entry -/

namespace FrameInputs

/-- The sizes of a frame check that are compared before the constraints are evaluated. -/
def entrySizes (inputs : FrameInputs q) (p : Parameters) : List Size :=
  [⟨.frameWidth, p.traceWidth.toNat, inputs.frame.width⟩,
    ⟨.publicInputs, p.publicInputCount.toNat, inputs.publicInputs.length⟩,
    ⟨.channel, p.traceWidth.toNat, inputs.channel.length⟩]

/-- The frame, the public inputs and the channel have the sizes that the parameters ask for. -/
structure EntrySized (inputs : FrameInputs q) (p : Parameters) : Prop where
  width_frame : inputs.frame.width = p.traceWidth.toNat
  length_publicInputs : inputs.publicInputs.length = p.publicInputCount.toNat
  length_channel : inputs.channel.length = p.traceWidth.toNat

/-- And so do the weights. -/
structure Sized (inputs : FrameInputs q) (p : Parameters) : Prop extends
    inputs.EntrySized p where
  length_transitionWeights : inputs.transitionWeights.length = p.traceWidth.toNat
  length_boundaryWeights : inputs.boundaryWeights.length = p.assertionCount.toNat

theorem sizeFaults_entrySizes_eq_nil_iff {inputs : FrameInputs q} {p : Parameters} :
    sizeFaults (inputs.entrySizes p) = [] ↔ inputs.EntrySized p := by
  rw [sizeFaults_eq_nil_iff]
  simp only [entrySizes, List.forall_mem_cons, List.not_mem_nil, false_imp_iff, implies_true,
    and_true]
  constructor
  · rintro ⟨hframe, hinputs, hchannel⟩
    exact ⟨hframe.symm, hinputs.symm, hchannel.symm⟩
  · rintro ⟨hframe, hinputs, hchannel⟩
    exact ⟨hframe.symm, hinputs.symm, hchannel.symm⟩

end FrameInputs

/-! ## Evaluating, and what is left -/

/-- Evaluate the constraints of a system on the frame of the inputs. -/
def ConstraintSystem.evaluate (system : ConstraintSystem q) (inputs : FrameInputs q) :
    Except ConstraintError (EvaluatedInputs q) := do
  let transition ← system.transitions inputs.frame
  let boundary ← system.boundaries inputs.frame inputs.publicInputs inputs.generator inputs.z
  return inputs.evaluated transition boundary

section Frames

variable {v : Verifier} {system : ConstraintSystem q} {inputs : FrameInputs q}

/-- A frame check of a system that fits compares the sizes of its entry, evaluates, and folds what it
has evaluated. -/
theorem verifySystem_eq_bind (hfits : system.layout.Fits v.parameters) :
    v.verifySystem system inputs = (do
      reportFirst (sizeFaults (inputs.entrySizes v.parameters)) ()
      let evaluated ← CheckError.ofConstraint (system.evaluate inputs)
      let a ← v.evaluateConstraints evaluated
      Verifier.finish inputs.channel inputs.z a) := by
  unfold Verifier.verifySystem ConstraintSystem.evaluate
  simp only [FrameInputs.entrySizes, expectSizes_bind]
  rw [hfits.traceWidth, hfits.traceLength, hfits.assertionCount, hfits.publicInputCount]
  have hok : ∀ (f : Unit → Except CheckError Unit), (Except.ok () >>= f) = f () := fun _ => rfl
  simp only [expectSize_eq_ok_iff (u := ()).2 rfl, hok]
  refine bind_congr fun _ => bind_congr fun _ => bind_congr fun _ => ?_
  cases system.transitions inputs.frame with
  | error e => rfl
  | ok transition =>
    cases system.boundaries inputs.frame inputs.publicInputs inputs.generator inputs.z with
    | error e => rfl
    | ok boundary => rfl

theorem verifySystem_of_not_entrySized (hfits : system.layout.Fits v.parameters)
    (h : ¬ inputs.EntrySized v.parameters) :
    ∃ what expected actual,
      v.verifySystem system inputs = .error (.shapeMismatch what expected actual) := by
  rw [← FrameInputs.sizeFaults_entrySizes_eq_nil_iff] at h
  obtain ⟨what, expected, actual, hfirst⟩ := exists_shapeMismatch_of_sizeFaults () h
  refine ⟨what, expected, actual, ?_⟩
  rw [verifySystem_eq_bind hfits, hfirst]
  rfl

theorem verifySystem_of_evaluate_eq_error (hfits : system.layout.Fits v.parameters)
    (hentry : inputs.EntrySized v.parameters) {e : ConstraintError}
    (he : system.evaluate inputs = .error e) :
    v.verifySystem system inputs = .error (.constraint e) := by
  rw [verifySystem_eq_bind hfits, FrameInputs.sizeFaults_entrySizes_eq_nil_iff.2 hentry, he]
  rfl

/-- If the entry is sized and the evaluators succeed, missing or surplus weights are found among what
is folded. -/
theorem verifySystem_of_evaluate_eq_ok (hfits : system.layout.Fits v.parameters)
    (hentry : inputs.EntrySized v.parameters) (h : ¬ inputs.Sized v.parameters)
    {evaluated : EvaluatedInputs q} (he : system.evaluate inputs = .ok evaluated) :
    ∃ what expected actual,
      v.verifySystem system inputs = .error (.shapeMismatch what expected actual) := by
  have hfold : sizeFaults (evaluated.foldSizes v.parameters) ≠ [] := by
    obtain ⟨transition, -, h'⟩ := bind_eq_ok_iff.1 he
    obtain ⟨boundary, -, ⟨⟩⟩ := bind_eq_ok_iff.1 h'
    intro hnil
    have hsized := EvaluatedInputs.sizeFaults_foldSizes_eq_nil_iff.1 hnil
    exact h ⟨hentry, hsized.length_transitionWeights, hsized.length_boundaryWeights⟩
  obtain ⟨what, expected, actual, hfirst⟩ := exists_shapeMismatch_of_sizeFaults () hfold
  refine ⟨what, expected, actual, ?_⟩
  rw [verifySystem_eq_bind hfits, FrameInputs.sizeFaults_entrySizes_eq_nil_iff.2 hentry, he]
  change (v.evaluateConstraints evaluated >>= _) = _
  rw [Verifier.evaluateConstraints_eq_bind, hfirst]
  rfl

/-- **A missized frame check is reported as such, unless the evaluators fail.** If some vector of the
inputs has the wrong size, whatever the point and the evaluators are, the check ends in a fault of
shape; only where frame, public inputs and channel are sized, so that it is the weights that are not,
and an evaluator fails, it ends in the failure of the evaluator. -/
theorem verifySystem_missized (v : Verifier) (system : ConstraintSystem q) (inputs : FrameInputs q)
    (hfits : system.layout.Fits v.parameters) (h : ¬ inputs.Sized v.parameters) :
    ((∃ what expected actual,
        v.verifySystem system inputs = .error (.shapeMismatch what expected actual)) ↔
      ¬ (inputs.EntrySized v.parameters ∧ ∃ e, system.evaluate inputs = .error e)) ∧
    (inputs.EntrySized v.parameters → ∀ e, system.evaluate inputs = .error e →
      v.verifySystem system inputs = .error (.constraint e)) := by
  refine ⟨⟨?_, fun hnot => ?_⟩, fun hentry _ => verifySystem_of_evaluate_eq_error hfits hentry⟩
  · rintro ⟨what, expected, actual, hshape⟩ ⟨hentry, e, he⟩
    rw [verifySystem_of_evaluate_eq_error hfits hentry he] at hshape
    cases hshape
  · by_cases hentry : inputs.EntrySized v.parameters
    · cases he : system.evaluate inputs with
      | error e => exact absurd ⟨hentry, e, he⟩ hnot
      | ok evaluated => exact verifySystem_of_evaluate_eq_ok hfits hentry h he
    · exact verifySystem_of_not_entrySized hfits hentry

end Frames

/-- A system of one column whose transition evaluator ends as it is told to. -/
def scriptedSystem (outcome : Except ConstraintError (TransitionEvaluation Modulus.small)) :
    ConstraintSystem Modulus.small where
  id := "scripted"
  layout := ⟨1, 2, 1, 0⟩
  transitions _ := outcome
  boundaries _ _ _ _ := .ok ⟨[⟨.ofWord 5, 0, 0⟩]⟩

/-- Inputs without a weight for their one column. All other sizes are those of the parameters. -/
def unweighedInputs : FrameInputs Modulus.small where
  z := .ofWord 5
  generator := .ofWord 96
  frame := ⟨[.ofWord 1], [.ofWord 2], nofun, rfl⟩
  publicInputs := []
  transitionWeights := []
  boundaryWeights := [⟨.ofWord 1, .ofWord 1⟩]
  channel := [.ofWord 31]

/-- The missing weight is reported if the evaluators succeed, and the evaluator if it fails. -/
theorem verifySystem_unweighedInputs :
    (∃ what expected actual,
      Verifier.verifySystem ⟨workedParameters, .sequential, .standard⟩
        (scriptedSystem (.ok ⟨[.ofWord 10], [1]⟩)) unweighedInputs =
          .error (.shapeMismatch what expected actual)) ∧
      Verifier.verifySystem ⟨workedParameters, .sequential, .standard⟩
        (scriptedSystem (.error (.layoutViolation .tooFewRows))) unweighedInputs =
          .error (.constraint (.layoutViolation .tooFewRows)) := by
  have hfits : ∀ outcome, (scriptedSystem outcome).layout.Fits workedParameters :=
    fun _ => ⟨rfl, rfl, rfl, rfl⟩
  have hmissized : ¬ unweighedInputs.Sized workedParameters :=
    fun h => absurd h.length_transitionWeights (by decide)
  refine ⟨(verifySystem_missized _ _ _ (hfits _) hmissized).1.2 ?_,
    (verifySystem_missized _ _ _ (hfits _) hmissized).2 ⟨rfl, rfl, rfl⟩ _ rfl⟩
  rintro ⟨-, e, he⟩
  cases he

/-- A check of missized inputs can end in something else than a fault of shape: the weights are
counted after the evaluators have run. -/
theorem evaluator_failure_before_missing_weights :
    (scriptedSystem (.error (.layoutViolation .tooFewRows))).layout.Fits workedParameters ∧
      unweighedInputs.transitionWeights.length ≠ workedParameters.traceWidth.toNat ∧
      ∀ what expected actual,
        Verifier.verifySystem ⟨workedParameters, .sequential, .standard⟩
          (scriptedSystem (.error (.layoutViolation .tooFewRows))) unweighedInputs ≠
            .error (.shapeMismatch what expected actual) :=
  ⟨⟨rfl, rfl, rfl, rfl⟩, by decide, fun _ _ _ => nofun⟩

end OutOfDomain
