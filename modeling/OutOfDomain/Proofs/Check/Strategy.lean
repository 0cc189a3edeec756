import OutOfDomain.Proofs.Check.Errors

/-!
# Where the strategies differ

Both strategies fold the transition constraints alike, whatever happens. They look at one assertion
in different orders, though: the sequential fold weighs its residue before it looks at its row, the
reduction after. So they can disagree on the *error*, and on nothing else, where an assertion is out
of range twice, in degree and in row (`strategies_disagree_out_of_range_twice`). That assertion has
to be the first with a fault, since both stop there.

`verify_reduction_eq_mapError` says that there is no other disagreement. What the reduction reports
is a function of what the sequential fold reports, and of the rows of the assertions
(`CheckError.rowFirst`); it is the identity if no assertion is out of range twice. All this holds
for any modulus: division comes last in either order.
-/

set_option autoImplicit false

namespace OutOfDomain

variable {q : Modulus}

/-- What the reduction reports where the sequential fold reports an error: of an assertion whose
degree is out of range, the row if that is out of range too, and all other errors as they are. -/
def CheckError.rowFirst (p : Parameters) (assertions : List (AssertionEvaluation q)) :
    CheckError → CheckError
  | .degreeOutOfRange .boundaryDivisor index degree max =>
    match assertions[index]? with
    | some a =>
      if a.step.toNat < p.traceLength.toNat then .degreeOutOfRange .boundaryDivisor index degree max
      else .assertionStepOutOfRange index a.step.toNat p.traceLength.toNat
    | none => .degreeOutOfRange .boundaryDivisor index degree max
  | e => e

/-! ## One assertion -/

section Assertion

variable {p : Parameters} {z generator : Residue q} {assertion : ℕ} {weight : Weight q}
  {a : AssertionEvaluation q}

/-- The strategies agree on an assertion that is not out of range twice. -/
theorem assertionQuotient_reduction_eq
    (h : a.divisorDegree.toNat ≤ p.traceLength.toNat - 1 ∨ a.step.toNat < p.traceLength.toNat) :
    assertionQuotient p z generator .reduction assertion weight a =
      assertionQuotient p z generator .sequential assertion weight a := by
  by_cases hdegree : a.divisorDegree.toNat ≤ p.traceLength.toNat - 1
  · by_cases hstep : a.step.toNat < p.traceLength.toNat
    · rw [assertionQuotient_of_inRange assertion hdegree hstep,
        assertionQuotient_of_inRange assertion hdegree hstep]
    · rw [assertionQuotient_of_step assertion hstep (.inl rfl),
        assertionQuotient_of_step assertion hstep (.inr hdegree)]
  · rw [assertionQuotient_of_degree assertion hdegree (.inr (h.resolve_left hdegree)),
      assertionQuotient_of_degree assertion hdegree (.inl rfl)]

theorem CheckError.rowFirst_degree {assertions : List (AssertionEvaluation q)}
    (ha : assertions[assertion]? = some a) (degree max : ℕ) :
    CheckError.rowFirst p assertions (.degreeOutOfRange .boundaryDivisor assertion degree max) =
      if a.step.toNat < p.traceLength.toNat then
        .degreeOutOfRange .boundaryDivisor assertion degree max
      else .assertionStepOutOfRange assertion a.step.toNat p.traceLength.toNat := by
  simp only [rowFirst, ha]

theorem assertionQuotient_reduction_eq_mapError {assertions : List (AssertionEvaluation q)}
    (ha : assertions[assertion]? = some a) :
    assertionQuotient p z generator .reduction assertion weight a =
      (assertionQuotient p z generator .sequential assertion weight a).mapError
        (.rowFirst p assertions) := by
  by_cases hstep : a.step.toNat < p.traceLength.toNat
  · rw [assertionQuotient_reduction_eq (.inr hstep), mapError_eq_self]
    refine onlyRaises_assertionQuotient (fun degree max => ?_) (fun _ _ => rfl) fun _ _ => ?_
    · rw [CheckError.rowFirst_degree ha, if_pos hstep]
    · exact onlyRaises_checkedQuotient rfl rfl
  · rw [assertionQuotient_of_step assertion hstep (.inl rfl)]
    by_cases hdegree : a.divisorDegree.toNat ≤ p.traceLength.toNat - 1
    · rw [assertionQuotient_of_step assertion hstep (.inr hdegree)]
      rfl
    · rw [assertionQuotient_of_degree assertion hdegree (.inl rfl)]
      change _ = Except.error (CheckError.rowFirst p assertions _)
      rw [CheckError.rowFirst_degree ha, if_neg hstep]

end Assertion

/-! ## All assertions, and the check -/

/-- A change of errors that leaves all errors as they are but those of single assertions. -/
structure CheckError.OnlyChangesAssertions (h : CheckError → CheckError) : Prop where
  shapeMismatch : ∀ what expected actual,
    h (.shapeMismatch what expected actual) = .shapeMismatch what expected actual
  transitionDegree : ∀ column degree max,
    h (.degreeOutOfRange .transitionConstraint column degree max) =
      .degreeOutOfRange .transitionConstraint column degree max
  degenerateDivisor : h (.degenerateDivisor .transition) = .degenerateDivisor .transition
  quotientMismatch : h (.quotientMismatch .transition) = .quotientMismatch .transition
  consistencyViolation : ∀ channel constraints,
    h (.consistencyViolation channel constraints) = .consistencyViolation channel constraints

section Check

variable {p : Parameters} {h : CheckError → CheckError} {inputs : EvaluatedInputs q}
  {z generator : Residue q} {weights : List (Weight q)}

theorem foldTransitions_reduction_eq (evaluation : TransitionEvaluation q)
    (divisor : TransitionDivisor q) :
    foldTransitions p z weights evaluation divisor .reduction =
      foldTransitions p z weights evaluation divisor .sequential := by
  rw [foldTransitions_eq, foldTransitions_eq]

theorem expectSize_eq_mapError (hh : CheckError.OnlyChangesAssertions h) {what : Part}
    {expected actual : ℕ} :
    expectSize what expected actual = (expectSize what expected actual).mapError h :=
  (mapError_eq_self (onlyRaises_expectSize (hh.shapeMismatch _ _ _))).symm

/-- The strategies differ by a change of errors on all assertions if they do on each. -/
theorem foldBoundaries_reduction_eq_mapError (hh : CheckError.OnlyChangesAssertions h)
    {evaluation : BoundaryEvaluation q}
    (hassertion : ∀ assertion weight a, evaluation.assertions[assertion]? = some a →
      assertionQuotient p z generator .reduction assertion weight a =
        (assertionQuotient p z generator .sequential assertion weight a).mapError h)
    (seed : Residue q) :
    foldBoundaries p z generator weights evaluation seed .reduction =
      (foldBoundaries p z generator weights evaluation seed .sequential).mapError h := by
  rw [foldBoundaries_eq, foldBoundaries_eq]
  refine bind_eq_mapError (expectSize_eq_mapError hh) fun _ => ?_
  refine bind_eq_mapError (mapM_eq_mapError fun item hitem => ?_) fun _ => rfl
  have hzip := List.mk_mem_zipIdx_iff_getElem?.1 hitem
  exact hassertion _ _ _ (List.getElem?_zip_eq_some.1 hzip).2

theorem Verifier.finish_eq_mapError (hh : CheckError.OnlyChangesAssertions h)
    (channel : List (Residue q)) (a : Accumulation q) :
    Verifier.finish channel z a = (Verifier.finish channel z a).mapError h := by
  unfold finish checkConsistency
  split
  · rfl
  · exact congrArg Except.error (hh.consistencyViolation _ _).symm

/-- The strategies differ by a change of errors on a whole check if they do on each assertion: the
transition constraints are folded alike, and no other part depends on a strategy. -/
theorem verify_reduction_eq_mapError_of_assertions (hh : CheckError.OnlyChangesAssertions h)
    (hassertion : ∀ assertion weight a, inputs.boundary.assertions[assertion]? = some a →
      assertionQuotient p inputs.z inputs.generator .reduction assertion weight a =
        (assertionQuotient p inputs.z inputs.generator .sequential assertion weight a).mapError h)
    (s s' : Schedule) :
    Verifier.verify ⟨p, .reduction, s'⟩ inputs =
      (Verifier.verify ⟨p, .sequential, s⟩ inputs).mapError h := by
  have hsize : ∀ {what : Part} {expected actual : ℕ},
      expectSize what expected actual = (expectSize what expected actual).mapError h :=
    expectSize_eq_mapError hh
  have hdivide : ∀ numerator divisor : Residue q,
      OnlyRaises (fun e => h e = e) (checkedQuotient numerator divisor .transition) :=
    fun _ _ => onlyRaises_checkedQuotient hh.degenerateDivisor hh.quotientMismatch
  have hdivisor : OnlyRaises (fun e => h e = e)
      (TransitionDivisor.evaluate inputs.z inputs.generator p) :=
    onlyRaises_evaluate hh.degenerateDivisor hdivide
  have htransitions : ∀ divisor : TransitionDivisor q, OnlyRaises (fun e => h e = e)
      (foldTransitions p inputs.z inputs.transitionWeights inputs.transition divisor
        .sequential) := fun divisor =>
    onlyRaises_foldTransitions hh.shapeMismatch hh.transitionDegree fun numerator =>
      hdivide numerator divisor.value
  refine bind_eq_mapError hsize fun _ =>
    bind_eq_mapError ?_ (Verifier.finish_eq_mapError hh inputs.channel)
  unfold Verifier.evaluateConstraints Verifier.accumulate
  refine bind_eq_mapError hsize fun _ => bind_eq_mapError hsize fun _ => ?_
  refine bind_eq_mapError hsize fun _ => bind_eq_mapError hsize fun _ => ?_
  refine bind_eq_mapError hsize fun _ => ?_
  refine bind_eq_mapError (mapError_eq_self hdivisor).symm fun divisor => ?_
  refine bind_eq_mapError ?_ fun result => ?_
  · rw [mapError_eq_self (htransitions divisor)]
    exact foldTransitions_reduction_eq _ divisor
  · exact bind_eq_mapError (foldBoundaries_reduction_eq_mapError hh hassertion result) fun _ => rfl

/-- The strategies agree on a whole check in which no assertion is out of range twice. -/
theorem verify_reduction_eq
    (hrange : ∀ a ∈ inputs.boundary.assertions,
      a.divisorDegree.toNat ≤ p.traceLength.toNat - 1 ∨ a.step.toNat < p.traceLength.toNat)
    (s s' : Schedule) :
    Verifier.verify ⟨p, .reduction, s'⟩ inputs = Verifier.verify ⟨p, .sequential, s⟩ inputs := by
  -- No error has to change, so the change of errors is the identity.
  rw [← mapError_id (Verifier.verify ⟨p, .sequential, s⟩ inputs)]
  refine verify_reduction_eq_mapError_of_assertions ?_ (fun assertion weight a ha => ?_) s s'
  · exact ⟨fun _ _ _ => rfl, fun _ _ _ => rfl, rfl, rfl, fun _ _ => rfl⟩
  · rw [mapError_id, assertionQuotient_reduction_eq (hrange a (List.mem_of_getElem? ha))]

/-- **The strategies agree on failure, up to an assertion that is out of range twice.** For any
modulus and any inputs, the reduction ends as the sequential fold does, but reports the row where
that reports the degree of an assertion whose row is out of range too. If no assertion is out of
range in both, the outcomes are equal. -/
theorem verify_reduction_eq_mapError (p : Parameters) (s s' : Schedule)
    (inputs : EvaluatedInputs q) :
    Verifier.verify ⟨p, .reduction, s'⟩ inputs =
        (Verifier.verify ⟨p, .sequential, s⟩ inputs).mapError
          (.rowFirst p inputs.boundary.assertions) ∧
      ((∀ a ∈ inputs.boundary.assertions,
          a.divisorDegree.toNat ≤ p.traceLength.toNat - 1 ∨
            a.step.toNat < p.traceLength.toNat) →
        Verifier.verify ⟨p, .reduction, s'⟩ inputs =
          Verifier.verify ⟨p, .sequential, s⟩ inputs) := by
  refine ⟨?_, fun hrange => verify_reduction_eq hrange s s'⟩
  refine verify_reduction_eq_mapError_of_assertions ?_ (fun assertion weight a ha => ?_) s s'
  · exact ⟨fun _ _ _ => rfl, fun _ _ _ => rfl, rfl, rfl, fun _ _ => rfl⟩
  · exact assertionQuotient_reduction_eq_mapError ha

end Check

/-- Inputs whose one assertion, of a trace of two rows, names a divisor of degree two and the row
`step`. The degree is out of range, and so is the row if it is not one of the first two. -/
def steepInputs (step : UInt64) : EvaluatedInputs Modulus.small :=
  { workedInputs 31 with boundary := ⟨[⟨.ofWord 5, 2, step⟩]⟩ }

/-- The strategies report the same error of an assertion that is out of range once. -/
theorem verify_reduction_eq_out_of_range_once :
    Verifier.verify ⟨workedParameters, .reduction, .standard⟩ (steepInputs 1) =
        .error (.degreeOutOfRange .boundaryDivisor 0 2 1) ∧
      Verifier.verify ⟨workedParameters, .reduction, .standard⟩ (steepInputs 1) =
        Verifier.verify ⟨workedParameters, .sequential, .standard⟩ (steepInputs 1) := by
  refine ⟨by decide +kernel, ?_⟩
  refine (verify_reduction_eq_mapError workedParameters .standard .standard (steepInputs 1)).2 ?_
  exact List.forall_mem_singleton.2 (.inr (by decide))

/-- The strategies report different errors of an assertion that is out of range twice. -/
theorem strategies_disagree_out_of_range_twice :
    Verifier.verify ⟨workedParameters, .sequential, .standard⟩ (steepInputs 2) =
        .error (.degreeOutOfRange .boundaryDivisor 0 2 1) ∧
      Verifier.verify ⟨workedParameters, .reduction, .standard⟩ (steepInputs 2) =
        .error (.assertionStepOutOfRange 0 2 2) := by
  decide +kernel

end OutOfDomain
