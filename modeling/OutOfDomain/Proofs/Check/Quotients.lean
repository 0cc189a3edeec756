import OutOfDomain.Proofs.Check.Acceptance

/-!
# Divisions that are multiplied back

Modulo a composite number, the power that is tried as an inverse need not be one, and a divisor other
than zero may have no inverse at all. A value that a verifier returns is a quotient all the same, in
the one sense that is left: multiplied with its divisor, it gives its numerator
(`EvaluatedInputs.MultipliesBack`). All divisions of an accumulation are of this kind, the one that
forms the transition divisor, the one by it and one for each assertion, so a wrong inverse can only
show as an error.

What such equations say about the values depends on the modulus. If the divisors are units, and for a
prime modulus they are, there is one solution, the closed expression of `verify_iff_closed_form`. A
zero divisor leaves several solutions or none.
-/

set_option autoImplicit false

namespace OutOfDomain

variable {q : Modulus}

/-- The two values of an accumulation, with a transition divisor and one quotient for each assertion,
in equations without a division. -/
structure EvaluatedInputs.MultipliesBack (inputs : EvaluatedInputs q) (p : Parameters)
    (a : Accumulation q) (divisor : Residue q) (quotients : List (Residue q)) : Prop where
  divisor_ne_zero : divisor ≠ 0
  divisor_mul : divisor * (inputs.z - inputs.generator ^ (p.traceLength.toNat - 1)) =
    inputs.z ^ p.traceLength.toNat - 1
  transitionResult_mul : a.transitionResult * divisor =
    p.transitionSum inputs.z inputs.transitionWeights inputs.transition
  quotient_mul : List.Forall₂
    (fun (weight, assertion) quotient =>
      quotient * (inputs.z - inputs.generator ^ assertion.step.toNat) =
        p.boundaryWeight inputs.z weight assertion.divisorDegree * assertion.residue)
    (inputs.boundaryWeights.zip inputs.boundary.assertions) quotients
  finalValue_eq : a.finalValue = a.transitionResult + quotients.sum

theorem EvaluatedInputs.FoldsTo.sized {inputs : EvaluatedInputs q} {p : Parameters}
    {a : Accumulation q} (h : inputs.FoldsTo p a) : inputs.Sized p :=
  ⟨h.length_residues, h.length_degrees, h.length_transitionWeights, h.length_assertions,
    h.length_boundaryWeights⟩

/-- **Division is sound for any modulus.** Whatever verifier returns whatever values: the inputs have
the sizes of the parameters and no degree exceeds the highest, so that no item is left out of a sum
and no exponent is cut off, and there are a divisor other than zero and a quotient for each assertion
with which the values satisfy the equations of the check. -/
theorem multipliesBack_of_evaluateConstraints {v : Verifier} {inputs : EvaluatedInputs q}
    {a : Accumulation q} (h : v.evaluateConstraints inputs = .ok a) :
    inputs.Sized v.parameters ∧
      (∀ degree ∈ inputs.transition.degrees, degree.toNat ≤ v.parameters.maxDegree.toNat) ∧
      ∃ divisor quotients, quotients.length = v.parameters.assertionCount.toNat ∧
        inputs.MultipliesBack v.parameters a divisor quotients := by
  have hfolds := Verifier.evaluateConstraints_eq_ok_iff.1 h
  obtain ⟨divisor, hne, hdivisor, hresult⟩ := hfolds.transitionResult
  obtain ⟨quotients, hquotients, hfinal⟩ := hfolds.finalValue
  have hlength : quotients.length = v.parameters.assertionCount.toNat := by
    rw [← hquotients.length_eq, List.length_zip, hfolds.length_boundaryWeights,
      hfolds.length_assertions, Nat.min_self]
  refine ⟨hfolds.sized, hfolds.degree_le, divisor, quotients, hlength, hne, hdivisor.mul_eq,
    hresult.mul_eq, ?_, hfinal⟩
  exact hquotients.imp fun item quotient hterm => hterm.quotient.mul_eq

/-! ## Fifteen -/

/-- A composite modulus: three and five are not zero, and their product is. -/
def Modulus.fifteen : Modulus := ⟨15, 2, by decide⟩

/-- Inputs whose divisors are all multiples of three, for any transition residue. -/
def tripleInputs (residue : UInt64) : EvaluatedInputs Modulus.fifteen where
  z := .ofWord 5
  generator := .ofWord 14
  transitionWeights := [⟨.ofWord 2, .ofWord 3⟩]
  boundaryWeights := [⟨1, 1⟩]
  transition := ⟨[.ofWord residue], [1]⟩
  boundary := ⟨[⟨.ofWord 3, 0, 1⟩]⟩
  channel := [.ofWord 12]

/-- The numerators are multiples of three as well, and so there are quotients although nothing has an
inverse. -/
theorem multipliesBack_tripleInputs :
    Verifier.evaluateConstraints ⟨workedParameters, .sequential, .standard⟩ (tripleInputs 3) =
        .ok ⟨.ofWord 9, .ofWord 12⟩ ∧
      ∃ divisor quotients, quotients.length = 1 ∧
        (tripleInputs 3).MultipliesBack workedParameters ⟨.ofWord 9, .ofWord 12⟩ divisor
          quotients := by
  have h : Verifier.evaluateConstraints ⟨workedParameters, .sequential, .standard⟩ (tripleInputs 3) =
      .ok ⟨.ofWord 9, .ofWord 12⟩ := by decide +kernel
  exact ⟨h, (multipliesBack_of_evaluateConstraints h).2.2⟩

/-- A numerator that is no multiple of three has no quotient. What was tried as one is refused. -/
example : Verifier.evaluateConstraints ⟨workedParameters, .reduction, .standard⟩ (tripleInputs 1) =
    .error (.quotientMismatch .transition) := by
  decide +kernel

end OutOfDomain
