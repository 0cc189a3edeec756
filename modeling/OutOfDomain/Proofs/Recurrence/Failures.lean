import OutOfDomain.Proofs.Check.Strategy
import OutOfDomain.Proofs.Recurrence.Evaluation
import OutOfDomain.Proofs.Recurrence.Rows

/-!
# How a check of a recurrence can fail

A frame check can end in many errors, and most of them are not for a recurrence. Its layout is that of
the parameters derived from it, its evaluators fail on no frame whose size has been compared, what
they return has the sizes that are compared next, and its assertions are about single rows of the
trace. What is left are five sizes of the caller's, the point, and the two sides of the check. And the
degree of the cubic rule: three times that of the trace is more than a small blowup allows, and then
no inputs at all are accepted.

`verifySystem_eq_reportFirst` says so in an equation, for either strategy: a check of a recurrence
ends in the first of its failures (`Recurrence.failures`). An assertion is not among them, although it
has a divisor that may vanish. It does so on the first row and on the last, and there the divisor of
the transition constraints is refused before.
-/

set_option autoImplicit false

namespace OutOfDomain

variable {q : Modulus}

/-! ## Either strategy -/

/-- Both strategies report the first fault, if every assertion names a row of the trace. -/
theorem verify_eq_reportFirst_of_step_lt [Fact q.toNat.Prime] {v : Verifier}
    {inputs : EvaluatedInputs q}
    (h : ∀ a ∈ inputs.boundary.assertions, a.step.toNat < v.parameters.traceLength.toNat) :
    v.verify inputs = reportFirst (inputs.faults v.parameters) () := by
  obtain ⟨p, strategy, s⟩ := v
  cases strategy with
  | sequential => exact verify_eq_reportFirst s
  | reduction =>
    rw [← verify_eq_reportFirst s]
    exact verify_reduction_eq (fun a ha => .inr (h a ha)) s s

/-! ## Errors by their occasion -/

/-- The sizes that a caller is responsible for, in the order in which they are compared. -/
def FrameInputs.sizes (inputs : FrameInputs q) (p : Parameters) : List Size :=
  inputs.entrySizes p ++
    [⟨.transitionWeights, p.traceWidth.toNat, inputs.transitionWeights.length⟩,
      ⟨.boundaryWeights, p.assertionCount.toNat, inputs.boundaryWeights.length⟩]

namespace Recurrence

/-- The errors of a check of a recurrence, each with what has to be wrong for it. -/
inductive Failure (r : Recurrence) (p : Parameters) (inputs : FrameInputs q) : CheckError → Prop
  | size {s : Size} (hs : s ∈ inputs.sizes p) (hne : s.expected ≠ s.actual) :
    Failure r p inputs (.shapeMismatch s.what s.expected s.actual)
  | point (h : inputs.z ^ r.length.toNat = 1 ∨
      inputs.z = inputs.generator ^ (r.length.toNat - 1)) :
    Failure r p inputs (.degenerateDivisor .transition)
  | degree (hrule : r.rule = .cubic) (h : p.maxDegree.toNat < 3 * (r.length.toNat - 1)) :
    Failure r p inputs (.degreeOutOfRange .transitionConstraint 0 (3 * (r.length.toNat - 1))
      p.maxDegree.toNat)
  | disagreement {channel constraints : ℕ} (hne : channel ≠ constraints) :
    Failure r p inputs (.consistencyViolation channel constraints)

variable {r : Recurrence} {p : Parameters} {inputs : FrameInputs q}

theorem failure_of_mem_sizeFaults {e : CheckError} (he : e ∈ sizeFaults (inputs.sizes p)) :
    r.Failure p inputs e := by
  obtain ⟨s, hs, hfault⟩ := List.mem_flatMap.1 he
  obtain ⟨hne, rfl⟩ := mem_faultIf.1 hfault
  exact .size hs hne

/-- Three times the degree of a trace is too much for the two smallest blowups, except that two rows
need no more than the second. -/
theorem maxDegree_lt_iff {blowup : UInt64} (hparameters : (r.system q).parameters blowup = .ok p) :
    p.maxDegree.toNat < 3 * (r.length.toNat - 1) ↔
      2 < r.length.toNat ∧ blowup.toNat ≤ 2 ∨ r.length.toNat = 2 ∧ blowup.toNat = 1 := by
  have hlength := toNat_traceLength_of_fits (fits_of_parameters hparameters)
  have htwo := r.two_le_length
  have hblowup := Nat.pos_of_isPowerOfTwo p.isPowerOfTwo_blowup
  rw [p.toNat_maxDegree, hlength]
  rw [blowup_of_parameters hparameters] at hblowup ⊢
  generalize r.length.toNat = n at htwo ⊢
  rcases Nat.lt_or_ge 2 blowup.toNat with hlarge | hsmall
  · have hproduct := Nat.mul_le_mul_left n hlarge
    omega
  · have hcases : blowup.toNat = 1 ∨ blowup.toNat = 2 := by omega
    rcases hcases with h | h <;>
    · rw [h]
      omega

/-! ## Faults of the evaluated inputs -/

/-- The degree of the cubic rule is above the highest. -/
def degreeFaults (r : Recurrence) (p : Parameters) : List CheckError :=
  faultIf (r.rule = .cubic ∧ p.maxDegree.toNat < 3 * (r.length.toNat - 1))
    (.degreeOutOfRange .transitionConstraint 0 (3 * (r.length.toNat - 1)) p.maxDegree.toNat)

theorem assertionCount_eq (hinputs : inputs.publicInputs.length = r.rule.publicInputCount) :
    (r.boundaryOn inputs.frame inputs.publicInputs).assertions.length = r.rule.assertionCount :=
  (List.length_map _).trans (pins_of_assertions (assertions_eq_ok hinputs)).length_assertions

/-- Of the sizes of what is folded, a recurrence brings three along. -/
theorem sizeFaults_evaluated (hfits : (r.system q).layout.Fits p) (hentry : inputs.EntrySized p) :
    sizeFaults ((r.evaluated inputs).sizes p) =
      sizeFaults [⟨.transitionWeights, p.traceWidth.toNat, inputs.transitionWeights.length⟩,
        ⟨.boundaryWeights, p.assertionCount.toNat, inputs.boundaryWeights.length⟩] := by
  have hwidth := toNat_traceWidth_of_fits hfits
  have hchannel : p.traceWidth.toNat = (r.evaluated inputs).channel.length :=
    hentry.length_channel.symm
  have hresidues : p.traceWidth.toNat = (r.evaluated inputs).transition.residues.length :=
    hentry.width_frame.symm.trans length_residues_transitionOn.symm
  have hdegrees : p.traceWidth.toNat = (r.evaluated inputs).transition.degrees.length :=
    hwidth.trans (List.length_replicate ..).symm
  have hassertions : p.assertionCount.toNat = (r.evaluated inputs).boundary.assertions.length :=
    (toNat_assertionCount_of_fits hfits).trans (assertionCount_eq
      (hentry.length_publicInputs.trans (toNat_publicInputCount_of_fits hfits))).symm
  rw [EvaluatedInputs.sizes, EvaluatedInputs.foldSizes]
  simp only [sizeFaults_cons]
  rw [Size.faults_of_eq hchannel, Size.faults_of_eq hresidues, Size.faults_of_eq hdegrees,
    Size.faults_of_eq hassertions]
  rfl

/-- The linear rules declare the degree of a trace polynomial, which is never above the highest. -/
theorem columnFaults_evaluated (hfits : (r.system q).layout.Fits p)
    (hword : r.rule = .cubic → 3 * (r.length.toNat - 1) < 2 ^ 64) :
    (r.evaluated inputs).columnFaults p = r.degreeFaults p := by
  have hlength := toNat_traceLength_of_fits hfits
  have hlast := p.lastRow_le_maxDegree
  have hlinear : r.rule.degree = 1 →
      ¬ p.maxDegree.toNat < (r.rule.degree * r.lastRow).toNat := by
    intro h
    rw [h, UInt64.one_mul, toNat_lastRow, Nat.not_lt, ← hlength]
    exact hlast
  unfold EvaluatedInputs.columnFaults degreeFaults
  change (List.replicate r.rule.width (r.rule.degree * r.lastRow)).zipIdx.flatMap _ = _
  cases hrule : r.rule with
  | affine =>
    rw [hrule] at hlinear
    change faultIf _ _ ++ [] = _
    rw [faultIf_eq_nil_iff.2 (hlinear rfl), faultIf_eq_nil_iff.2 fun h => nomatch h.1]
    rfl
  | fibonacci =>
    rw [hrule] at hlinear
    change faultIf _ _ ++ (faultIf _ _ ++ []) = _
    rw [faultIf_eq_nil_iff.2 (hlinear rfl), faultIf_eq_nil_iff.2 (hlinear rfl),
      faultIf_eq_nil_iff.2 fun h => nomatch h.1]
    rfl
  | cubic =>
    have hdegree : (Rule.cubic.degree * r.lastRow).toNat = 3 * (r.length.toNat - 1) := by
      rw [UInt64.toNat_mul, toNat_lastRow]
      exact Nat.mod_eq_of_lt (hword hrule)
    change faultIf _ (.degreeOutOfRange _ 0 _ _) ++ [] = _
    rw [hdegree, List.append_nil]
    unfold faultIf
    simp only [true_and]

/-- What an evaluated assertion is about: a single row, the first or the last. -/
theorem mem_assertions_evaluated (hinputs : inputs.publicInputs.length = r.rule.publicInputCount)
    {a : AssertionEvaluation q} (ha : a ∈ (r.evaluated inputs).boundary.assertions) :
    a.divisorDegree = singlePoleDegree ∧
      (a.step.toNat = 0 ∨ a.step.toNat = r.length.toNat - 1) := by
  obtain ⟨assertion, hmem, rfl⟩ := List.mem_map.1 ha
  exact ⟨rfl, (pins_of_assertions (assertions_eq_ok hinputs)).step_eq hmem⟩

/-! ## The first failure -/

variable [Fact q.toNat.Prime] {v : Verifier}

/-- The failures of a check of a recurrence, in the order in which they are reported. -/
def failures (r : Recurrence) (p : Parameters) (inputs : FrameInputs q) :
    List CheckError :=
  sizeFaults (inputs.sizes p) ++ ((r.evaluated inputs).pointFaults p ++
    (r.degreeFaults p ++ (r.evaluated inputs).disagreement p))

/-- At a point that the transition divisor admits, the assertions have no fault. -/
theorem assertionFaults_evaluated (hfits : (r.system q).layout.Fits p)
    (hinputs : inputs.publicInputs.length = r.rule.publicInputCount)
    (hpoint : (r.evaluated inputs).pointFaults p = []) :
    (r.evaluated inputs).assertionFaults p = [] := by
  have hlength := toNat_traceLength_of_fits hfits
  have htwo := p.two_le_traceLength
  obtain ⟨hpow, hlast⟩ := not_or.1 (faultIf_eq_nil_iff.1 hpoint)
  refine List.flatMap_eq_nil_iff.2 ?_
  rintro ⟨a, assertion⟩ hitem
  obtain ⟨hdegree, hstep⟩ := mem_assertions_evaluated hinputs
    (List.mem_of_getElem? (List.mk_mem_zipIdx_iff_getElem?.1 hitem))
  rw [← hlength] at hstep
  have hone : (singlePoleDegree).toNat = 1 := rfl
  have hrow : (r.evaluated inputs).z ≠ (r.evaluated inputs).generator ^ a.step.toNat := by
    rcases hstep with h | h
    · -- The first row is the power zero, and a root of unity.
      rw [h, pow_zero]
      exact fun hz => hpow (by rw [hz, one_pow])
    · rwa [h]
  change (r.evaluated inputs).faultsOf p a assertion = []
  unfold EvaluatedInputs.faultsOf
  rw [faultIf_eq_nil_iff.2 (by rw [hdegree, hone]; omega), faultIf_eq_nil_iff.2 (by omega),
    faultIf_eq_nil_iff.2 hrow]
  rfl

/-- **A check of a recurrence ends in its first failure**, or accepts if there is none. -/
theorem verifySystem_eq_reportFirst (hfits : (r.system q).layout.Fits v.parameters)
    (hword : r.rule = .cubic → 3 * (r.length.toNat - 1) < 2 ^ 64) :
    v.verifySystem (r.system q) inputs = reportFirst (r.failures v.parameters inputs) () := by
  rw [verifySystem_eq_bind_verify hfits, failures, FrameInputs.sizes, sizeFaults_append,
    List.append_assoc]
  refine bind_eq_reportFirst rfl fun hsizes => ?_
  have hentry := FrameInputs.sizeFaults_entrySizes_eq_nil_iff.1 hsizes
  have hinputs := hentry.length_publicInputs.trans (toNat_publicInputCount_of_fits hfits)
  have htwo := r.two_le_length
  have hstep : ∀ a ∈ (r.evaluated inputs).boundary.assertions,
      a.step.toNat < v.parameters.traceLength.toNat := by
    intro a ha
    rw [toNat_traceLength_of_fits hfits]
    rcases (mem_assertions_evaluated hinputs ha).2 with h | h <;> omega
  rw [verify_eq_reportFirst_of_step_lt hstep, EvaluatedInputs.faults,
    sizeFaults_evaluated hfits hentry, columnFaults_evaluated hfits hword]
  refine reportFirst_append_congr fun _ => reportFirst_append_congr fun hpoint => ?_
  rw [assertionFaults_evaluated hfits hinputs hpoint, List.nil_append]

theorem failure_of_mem_failures (hlength : p.traceLength.toNat = r.length.toNat) {e : CheckError}
    (he : e ∈ r.failures p inputs) : r.Failure p inputs e := by
  rcases List.mem_append.1 he with he | he
  · exact failure_of_mem_sizeFaults he
  rcases List.mem_append.1 he with he | he
  · obtain ⟨h, rfl⟩ := mem_faultIf.1 he
    exact .point (hlength ▸ h)
  rcases List.mem_append.1 he with he | he
  · obtain ⟨⟨hrule, h⟩, rfl⟩ := mem_faultIf.1 he
    exact .degree hrule h
  · obtain ⟨hne, rfl⟩ := mem_faultIf.1 he
    exact .disagreement fun h => hne (Residue.ext h)

/-- With too small a blowup for its degree, a check of the cubic rule accepts nothing. -/
theorem verifySystem_ne_ok_of_steep (hfits : (r.system q).layout.Fits v.parameters)
    (hword : 3 * (r.length.toNat - 1) < 2 ^ 64) (hrule : r.rule = .cubic)
    (hdegree : v.parameters.maxDegree.toNat < 3 * (r.length.toNat - 1)) :
    v.verifySystem (r.system q) inputs ≠ .ok () := by
  have hmem : CheckError.degreeOutOfRange .transitionConstraint 0 (3 * (r.length.toNat - 1))
      v.parameters.maxDegree.toNat ∈ r.failures v.parameters inputs :=
    List.mem_append_right _ (List.mem_append_right _ (List.mem_append_left _
      (mem_faultIf.2 ⟨⟨hrule, hdegree⟩, rfl⟩)))
  rw [verifySystem_eq_reportFirst hfits fun _ => hword]
  obtain ⟨e, es, hfailures⟩ := List.exists_cons_of_ne_nil (List.ne_nil_of_mem hmem)
  rw [hfailures]
  exact nofun

/-- **How a check of a recurrence can fail.** Over a prime field, with parameters that are derived
from the recurrence, of whatever inputs and with either strategy: a size of the caller's differs, the
point is on a row or on what is taken for the last one, or the two sides differ. Only the cubic rule
has one more failure, the degree of its one column, and only if three times the degree of the trace is
above the highest; that is with a blowup of at most two for more than two rows, and of one for two
rows. -/
theorem verifySystem_failure {blowup : UInt64} (r : Recurrence) (v : Verifier)
    (inputs : FrameInputs q) (hparameters : (r.system q).parameters blowup = .ok v.parameters)
    (hword : r.rule = .cubic → 3 * (r.length.toNat - 1) < 2 ^ 64) :
    OnlyRaises (r.Failure v.parameters inputs) (v.verifySystem (r.system q) inputs) ∧
      v.parameters.maxDegree.toNat = r.length.toNat * blowup.toNat - 1 ∧
      (v.parameters.maxDegree.toNat < 3 * (r.length.toNat - 1) ↔
        2 < r.length.toNat ∧ blowup.toNat ≤ 2 ∨ r.length.toNat = 2 ∧ blowup.toNat = 1) := by
  have hfits := fits_of_parameters hparameters
  have hlength := toNat_traceLength_of_fits hfits
  refine ⟨?_, ?_, maxDegree_lt_iff hparameters⟩
  · rw [verifySystem_eq_reportFirst hfits hword]
    exact onlyRaises_reportFirst fun e => failure_of_mem_failures hlength
  · rw [Parameters.toNat_maxDegree, hlength, blowup_of_parameters hparameters]

/-! ## Four cubes -/

/-- Inputs of a check of one column, of as many weights of it as are given. -/
def cubeInputs (weights : List (Weight Modulus.small)) : FrameInputs Modulus.small where
  z := .ofWord 5
  generator := .ofWord 22
  frame := ⟨[.ofWord 2], [.ofWord 19], nofun, rfl⟩
  publicInputs := [.ofWord 2, .ofWord 3]
  transitionWeights := weights
  boundaryWeights := [⟨1, 1⟩, ⟨1, .ofWord 2⟩]
  channel := [1]

/-- A blowup of two is too small for four rows. The degree is only looked at if the sizes match. -/
theorem verifySystem_failure_cubeInputs :
    Verifier.verifySystem ⟨fourRowsParameters, .reduction, .standard⟩ (fourCubes.system _)
        (cubeInputs [⟨1, 1⟩]) = .error (.degreeOutOfRange .transitionConstraint 0 9 7) ∧
      fourCubes.Failure fourRowsParameters (cubeInputs [⟨1, 1⟩])
        (.degreeOutOfRange .transitionConstraint 0 9 7) ∧
      fourCubes.Failure fourRowsParameters (cubeInputs [])
        (.shapeMismatch .transitionWeights 1 0) := by
  have hparameters : (fourCubes.system Modulus.small).parameters 2 = .ok fourRowsParameters := rfl
  have hfailure := fun weights => (verifySystem_failure fourCubes
    ⟨fourRowsParameters, .reduction, .standard⟩ (cubeInputs weights) hparameters fun _ => by decide).1
  have hdegree : Verifier.verifySystem ⟨fourRowsParameters, .reduction, .standard⟩
      (fourCubes.system _) (cubeInputs [⟨1, 1⟩]) =
        .error (.degreeOutOfRange .transitionConstraint 0 9 7) := by decide +kernel
  exact ⟨hdegree, hfailure _ _ hdegree, hfailure _ _ (by decide +kernel)⟩

end Recurrence

end OutOfDomain
