import OutOfDomain.Proofs.Check.Accumulation

/-!
# When a check accepts

For a prime modulus the whole check is one equation in the field, between two closed expressions.
`EvaluatedInputs.channelValue` is the sum of the channel values times the powers of the point.
`EvaluatedInputs.constraintValue` is the weighed sum of the transition residues over the polynomial
that vanishes on every row but the last, plus each weighed assertion over the distance from its row.
A check accepts exactly if the sizes match, the point and the metadata are in range
(`EvaluatedInputs.Regular`) and the two expressions agree.

The way there is the strategy-free description of an accumulation
(`Verifier.evaluateConstraints_eq_ok_iff`), in which every checked quotient is now a quotient of the
field. `Verifier.verifySystem_eq_ok_iff` brings the other entry point down to the same equation.
-/

set_option autoImplicit false

namespace OutOfDomain

variable {q : Modulus}

/-! ## The conditions and the two sides -/

namespace EvaluatedInputs

/-- What is folded has the sizes that the parameters ask for. -/
structure Sized (inputs : EvaluatedInputs q) (p : Parameters) : Prop where
  length_residues : inputs.transition.residues.length = p.traceWidth.toNat
  length_degrees : inputs.transition.degrees.length = p.traceWidth.toNat
  length_transitionWeights : inputs.transitionWeights.length = p.traceWidth.toNat
  length_assertions : inputs.boundary.assertions.length = p.assertionCount.toNat
  length_boundaryWeights : inputs.boundaryWeights.length = p.assertionCount.toNat

/-- The point lies on no row that is divided by, and all degrees and rows are in range. -/
structure Regular (inputs : EvaluatedInputs q) (p : Parameters) : Prop where
  pow_ne_one : inputs.z ^ p.traceLength.toNat ≠ 1
  ne_lastRow : inputs.z ≠ inputs.generator ^ (p.traceLength.toNat - 1)
  degree_le : ∀ degree ∈ inputs.transition.degrees, degree.toNat ≤ p.maxDegree.toNat
  divisorDegree_le : ∀ a ∈ inputs.boundary.assertions,
    a.divisorDegree.toNat ≤ p.traceLength.toNat - 1
  step_lt : ∀ a ∈ inputs.boundary.assertions, a.step.toNat < p.traceLength.toNat
  ne_row : ∀ a ∈ inputs.boundary.assertions, inputs.z ≠ inputs.generator ^ a.step.toNat

/-- The value that the channel carries. -/
def channelValue (inputs : EvaluatedInputs q) : Residue q :=
  (inputs.channel.zipIdx.map fun (value, i) => value * inputs.z ^ i).sum

section Prime

variable [Fact q.toNat.Prime]

/-- The transition part of the constraints: the weighed sum, times the factor for the last row, over
the polynomial that vanishes on all rows. -/
def transitionValue (inputs : EvaluatedInputs q) (p : Parameters) : Residue q :=
  p.transitionSum inputs.z inputs.transitionWeights inputs.transition *
      (inputs.z - inputs.generator ^ (p.traceLength.toNat - 1)) /
    (inputs.z ^ p.traceLength.toNat - 1)

/-- The part of one assertion: its weighed residue over the distance from its row. -/
def assertionValue (inputs : EvaluatedInputs q) (p : Parameters) (weight : Weight q)
    (a : AssertionEvaluation q) : Residue q :=
  p.boundaryWeight inputs.z weight a.divisorDegree * a.residue /
    (inputs.z - inputs.generator ^ a.step.toNat)

/-- The value of all constraints. -/
def constraintValue (inputs : EvaluatedInputs q) (p : Parameters) : Residue q :=
  inputs.transitionValue p +
    ((inputs.boundaryWeights.zip inputs.boundary.assertions).map fun (weight, a) =>
      inputs.assertionValue p weight a).sum

end Prime

end EvaluatedInputs

theorem combineChannel_eq_sum (channel : List (Residue q)) (z : Residue q) :
    combineChannel channel z = (channel.zipIdx.map fun (value, i) => value * z ^ i).sum := by
  rw [combineChannel, Residue.sum_eq_list_sum]
  congr 1
  apply List.ext_getElem (by simp)
  intro i h h'
  simp only [List.getElem_zipWith, Residue.getElem_progression, List.getElem_map,
    List.getElem_zipIdx, one_mul, Nat.zero_add]

theorem checkConsistency_eq_ok_iff {channel constraints : Residue q} {u : Unit} :
    checkConsistency channel constraints = .ok u ↔ channel = constraints := by
  unfold checkConsistency
  split
  · rename_i h
    exact iff_of_true rfl h
  · rename_i h
    exact iff_of_false nofun h

/-- Once the constraints have a value, for any modulus, what is left of a check is to compare it. -/
theorem Verifier.verify_of_evaluateConstraints {v : Verifier} {inputs : EvaluatedInputs q}
    {a : Accumulation q} (hchannel : inputs.channel.length = v.parameters.traceWidth.toNat)
    (ha : v.evaluateConstraints inputs = .ok a) :
    v.verify inputs = checkConsistency inputs.channelValue a.finalValue := by
  have hsize : expectSize .channel v.parameters.traceWidth.toNat inputs.channel.length = .ok () :=
    expectSize_eq_ok_iff.2 hchannel.symm
  unfold Verifier.verify
  rw [hsize, ha]
  change checkConsistency (combineChannel _ _) _ = _
  rw [combineChannel_eq_sum]
  rfl

/-! ## Evaluated inputs -/

section Prime

variable [Fact q.toNat.Prime]

/-- Dividing by the transition divisor is multiplying by the factor for the last row and dividing by
the polynomial that vanishes on all rows; it is possible exactly off the rows. -/
theorem exists_transitionDivisor_iff {power last sum r : Residue q} :
    (∃ divisor, divisor ≠ 0 ∧ IsCheckedQuotient power last divisor ∧
        IsCheckedQuotient sum divisor r) ↔
      power ≠ 0 ∧ last ≠ 0 ∧ r = sum * last / power := by
  simp only [isCheckedQuotient_iff]
  constructor
  · rintro ⟨_, hne, ⟨hlast, rfl⟩, -, rfl⟩
    exact ⟨fun h => hne (by rw [h, zero_div]), hlast, div_div_eq_mul_div _ _ _⟩
  · rintro ⟨hpower, hlast, rfl⟩
    have hne : power / last ≠ 0 := div_ne_zero hpower hlast
    exact ⟨power / last, hne, ⟨hlast, rfl⟩, hne, (div_div_eq_mul_div _ _ _).symm⟩

theorem isAssertionTerm_iff {p : Parameters} {inputs : EvaluatedInputs q} {weight : Weight q}
    {a : AssertionEvaluation q} {t : Residue q} :
    IsAssertionTerm p inputs.z inputs.generator weight a t ↔
      (a.divisorDegree.toNat ≤ p.traceLength.toNat - 1 ∧ a.step.toNat < p.traceLength.toNat ∧
        inputs.z ≠ inputs.generator ^ a.step.toNat) ∧
      t = inputs.assertionValue p weight a := by
  constructor
  · rintro ⟨hdegree, hstep, h⟩
    obtain ⟨hne, ht⟩ := isCheckedQuotient_iff.1 h
    exact ⟨⟨hdegree, hstep, sub_ne_zero.1 hne⟩, ht⟩
  · rintro ⟨⟨hdegree, hstep, hne⟩, ht⟩
    exact ⟨hdegree, hstep, isCheckedQuotient_iff.2 ⟨sub_ne_zero.2 hne, ht⟩⟩

theorem EvaluatedInputs.foldsTo_iff {inputs : EvaluatedInputs q} {p : Parameters}
    {a : Accumulation q} :
    inputs.FoldsTo p a ↔ inputs.Sized p ∧ inputs.Regular p ∧
      a = ⟨inputs.transitionValue p, inputs.constraintValue p⟩ := by
  let InRange : AssertionEvaluation q → Prop := fun a =>
    a.divisorDegree.toNat ≤ p.traceLength.toNat - 1 ∧ a.step.toNat < p.traceLength.toNat ∧
      inputs.z ≠ inputs.generator ^ a.step.toNat
  constructor
  · intro h
    obtain ⟨hpower, hlast, hr⟩ := exists_transitionDivisor_iff.1 h.transitionResult
    obtain ⟨terms, hterms, hf⟩ := h.finalValue
    obtain ⟨hrange, rfl⟩ := forall₂_and_eq_iff.1 (hterms.imp fun _ _ => isAssertionTerm_iff.1)
    have hlength := h.length_boundaryWeights.trans h.length_assertions.symm
    have hall := (forall_mem_zip_snd hlength InRange).1 hrange
    refine ⟨⟨h.length_residues, h.length_degrees, h.length_transitionWeights, h.length_assertions,
      h.length_boundaryWeights⟩, ⟨sub_ne_zero.1 hpower, sub_ne_zero.1 hlast, h.degree_le,
      fun a ha => (hall a ha).1, fun a ha => (hall a ha).2.1, fun a ha => (hall a ha).2.2⟩, ?_⟩
    rw [show a = ⟨a.transitionResult, a.finalValue⟩ from rfl, hf, hr]
    rfl
  · rintro ⟨hsized, hregular, rfl⟩
    refine ⟨hsized.length_residues, hsized.length_degrees, hsized.length_transitionWeights,
      hsized.length_assertions, hsized.length_boundaryWeights, hregular.degree_le, ?_, _,
      (forall₂_and_eq_iff.2 ⟨?_, rfl⟩).imp fun _ _ => isAssertionTerm_iff.2, rfl⟩
    · exact exists_transitionDivisor_iff.2
        ⟨sub_ne_zero.2 hregular.pow_ne_one, sub_ne_zero.2 hregular.ne_lastRow, rfl⟩
    · have hlength := hsized.length_boundaryWeights.trans hsized.length_assertions.symm
      apply (forall_mem_zip_snd hlength InRange).2
      intro a ha
      exact ⟨hregular.divisorDegree_le a ha, hregular.step_lt a ha, hregular.ne_row a ha⟩

/-- Sized and regular inputs come as far as the comparison of the two sides. -/
theorem Verifier.verify_eq_checkConsistency {v : Verifier} {inputs : EvaluatedInputs q}
    (hchannel : inputs.channel.length = v.parameters.traceWidth.toNat)
    (hsized : inputs.Sized v.parameters) (hregular : inputs.Regular v.parameters) :
    v.verify inputs =
      checkConsistency inputs.channelValue (inputs.constraintValue v.parameters) := by
  have hvalues : v.evaluateConstraints inputs =
      .ok ⟨inputs.transitionValue v.parameters, inputs.constraintValue v.parameters⟩ :=
    Verifier.evaluateConstraints_eq_ok_iff.2
      (EvaluatedInputs.foldsTo_iff.2 ⟨hsized, hregular, rfl⟩)
  rw [Verifier.verify_of_evaluateConstraints hchannel hvalues]

theorem Verifier.verify_eq_ok_iff {v : Verifier} {inputs : EvaluatedInputs q} :
    v.verify inputs = .ok () ↔
      inputs.channel.length = v.parameters.traceWidth.toNat ∧ inputs.Sized v.parameters ∧
        inputs.Regular v.parameters ∧
        inputs.channelValue = inputs.constraintValue v.parameters := by
  constructor
  · -- A check that accepts has come as far as the comparison, so its inputs are sized and regular.
    intro h
    obtain ⟨_, hsize, h'⟩ := bind_eq_ok_iff.1 h
    obtain ⟨a, ha, -⟩ := bind_eq_ok_iff.1 h'
    have hchannel := (expectSize_eq_ok_iff.1 hsize).symm
    obtain ⟨hsized, hregular, -⟩ :=
      EvaluatedInputs.foldsTo_iff.1 (Verifier.evaluateConstraints_eq_ok_iff.1 ha)
    rw [Verifier.verify_eq_checkConsistency hchannel hsized hregular,
      checkConsistency_eq_ok_iff] at h
    exact ⟨hchannel, hsized, hregular, h⟩
  · rintro ⟨hchannel, hsized, hregular, h⟩
    rw [Verifier.verify_eq_checkConsistency hchannel hsized hregular]
    exact checkConsistency_eq_ok_iff.2 h

/-- **The acceptance condition, exactly.** For a prime modulus and either strategy, a check of
evaluated constraints accepts if and only if all six sizes match, the point, the degrees and the rows
are in range, and the sum of the channel values times powers of the point is the closed expression
of the constraints. If only the last of these fails, the error carries the two sides. -/
theorem verify_iff_closed_form (v : Verifier) (inputs : EvaluatedInputs q) :
    (v.verify inputs = .ok () ↔
      inputs.channel.length = v.parameters.traceWidth.toNat ∧ inputs.Sized v.parameters ∧
        inputs.Regular v.parameters ∧
        inputs.channelValue = inputs.constraintValue v.parameters) ∧
    (inputs.channel.length = v.parameters.traceWidth.toNat → inputs.Sized v.parameters →
      inputs.Regular v.parameters → inputs.channelValue ≠ inputs.constraintValue v.parameters →
      v.verify inputs = .error (.consistencyViolation inputs.channelValue.toNat
        (inputs.constraintValue v.parameters).toNat)) := by
  refine ⟨Verifier.verify_eq_ok_iff, fun hchannel hsized hregular hne => ?_⟩
  rw [Verifier.verify_eq_checkConsistency hchannel hsized hregular]
  exact if_neg hne

end Prime

/-- The parameters of the smallest check: two rows of one column, and one assertion. -/
def workedParameters : Parameters where
  traceLength := 2
  traceWidth := 1
  assertionCount := 1
  blowup := 2
  publicInputCount := 0
  faultless := by decide

/-- A check small enough to be followed by hand, for any value of the channel. The point is five, the
rows are the square roots of one. -/
def workedInputs (channel : UInt64) : EvaluatedInputs Modulus.small where
  z := .ofWord 5
  generator := .ofWord 96
  transitionWeights := [⟨.ofWord 2, .ofWord 3⟩]
  boundaryWeights := [⟨.ofWord 1, .ofWord 1⟩]
  transition := ⟨[.ofWord 10], [1]⟩
  boundary := ⟨[⟨.ofWord 5, 0, 0⟩]⟩
  channel := [.ofWord channel]

theorem sized_workedInputs (channel : UInt64) : (workedInputs channel).Sized workedParameters :=
  ⟨rfl, rfl, rfl, rfl, rfl⟩

theorem regular_workedInputs (channel : UInt64) :
    (workedInputs channel).Regular workedParameters := by
  have hrow : ∀ i < 2, (Residue.ofWord 5 : Residue Modulus.small) ≠ Residue.ofWord 96 ^ i := by
    decide +kernel
  refine ⟨?_, hrow 1 (by decide), ?_, ?_, ?_, ?_⟩
  · change (Residue.ofWord 5 : Residue Modulus.small) ^ 2 ≠ 1
    decide +kernel
  · exact List.forall_mem_singleton.2 (by decide)
  · exact List.forall_mem_singleton.2 (by decide)
  · exact List.forall_mem_singleton.2 (by decide)
  · exact List.forall_mem_singleton.2 (hrow 0 (by decide))

/-- The constraints of the worked check are worth 31, so the channel has to carry that, and nothing
else. -/
theorem verify_workedInputs :
    Verifier.verify ⟨workedParameters, .sequential, .standard⟩ (workedInputs 31) = .ok () ∧
      Verifier.verify ⟨workedParameters, .reduction, .standard⟩ (workedInputs 30) =
        .error (.consistencyViolation 30 31) := by
  have haccept := verify_iff_closed_form ⟨workedParameters, .sequential, .standard⟩ (workedInputs 31)
  have hreject := verify_iff_closed_form ⟨workedParameters, .reduction, .standard⟩ (workedInputs 30)
  have hchannel : (workedInputs 30).channelValue.toNat = 30 := by decide +kernel
  have hvalue : ((workedInputs 30).constraintValue workedParameters).toNat = 31 := by
    decide +kernel
  refine ⟨haccept.1.2 ⟨rfl, sized_workedInputs 31, regular_workedInputs 31, ?_⟩, ?_⟩
  · decide +kernel
  · rw [hreject.2 rfl (sized_workedInputs 30) (regular_workedInputs 30) (by decide +kernel), hchannel,
      hvalue]

/-! ## Frames -/

/-- A system describes itself by the numbers of the parameters. -/
structure Layout.Fits (layout : Layout) (p : Parameters) : Prop where
  traceWidth : layout.traceWidth = p.traceWidth
  traceLength : layout.traceLength = p.traceLength
  assertionCount : layout.assertionCount = p.assertionCount
  publicInputCount : layout.publicInputCount = p.publicInputCount

/-- A frame check with the constraints evaluated. -/
def FrameInputs.evaluated (inputs : FrameInputs q) (transition : TransitionEvaluation q)
    (boundary : BoundaryEvaluation q) : EvaluatedInputs q where
  z := inputs.z
  generator := inputs.generator
  transitionWeights := inputs.transitionWeights
  boundaryWeights := inputs.boundaryWeights
  transition
  boundary
  channel := inputs.channel

/-- A frame check accepts exactly if the system fits, the frame and the public inputs have the right
sizes, both evaluators succeed, and what they return is accepted. -/
theorem Verifier.verifySystem_eq_ok_iff {v : Verifier} {system : ConstraintSystem q}
    {inputs : FrameInputs q} :
    v.verifySystem system inputs = .ok () ↔
      system.layout.Fits v.parameters ∧
      inputs.frame.width = v.parameters.traceWidth.toNat ∧
      inputs.publicInputs.length = v.parameters.publicInputCount.toNat ∧
      ∃ transition boundary, system.transitions inputs.frame = .ok transition ∧
        system.boundaries inputs.frame inputs.publicInputs inputs.generator inputs.z
          = .ok boundary ∧
        v.verify (inputs.evaluated transition boundary) = .ok () := by
  -- The size of the channel is compared before anything is evaluated, as `verify` compares it.
  have hverify : ∀ {transition : TransitionEvaluation q} {boundary : BoundaryEvaluation q},
      v.verify (inputs.evaluated transition boundary) = .ok () ↔
        v.parameters.traceWidth.toNat = inputs.channel.length ∧
        ∃ a, v.accumulate inputs.z inputs.generator inputs.transitionWeights
            inputs.boundaryWeights transition boundary = .ok a ∧
          Verifier.finish inputs.channel inputs.z a = .ok () := by
    intro transition boundary
    unfold Verifier.verify
    rw [bind_eq_ok_iff]
    simp only [expectSize_eq_ok_iff, exists_const]
    exact and_congr_right fun _ => bind_eq_ok_iff
  simp only [hverify]
  unfold Verifier.verifySystem
  simp only [bind_eq_ok_iff, expectSize_eq_ok_iff, ofConstraint_eq_ok_iff, exists_const,
    UInt64.toNat_inj]
  constructor
  · rintro ⟨hw, hl, ha, hp, hframe, hinputs, hchannel, t, ht, b, hb, a, haccumulate, hfinish⟩
    exact ⟨⟨hw.symm, hl.symm, ha.symm, hp.symm⟩, hframe.symm, hinputs.symm, t, b, ht, hb, hchannel,
      a, haccumulate, hfinish⟩
  · rintro ⟨⟨hw, hl, ha, hp⟩, hframe, hinputs, t, b, ht, hb, hchannel, a, haccumulate, hfinish⟩
    exact ⟨hw.symm, hl.symm, ha.symm, hp.symm, hframe.symm, hinputs.symm, hchannel, t, ht, b, hb,
      a, haccumulate, hfinish⟩

end OutOfDomain
