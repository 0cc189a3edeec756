import OutOfDomain.Check.Verifier
import OutOfDomain.Proofs.Check.Fold

/-!
# What evaluated constraints accumulate to

`EvaluatedInputs.FoldsTo` describes a successful accumulation without a strategy and without an
order of evaluation: the sizes are those of the parameters, the degrees are in range, the transition
divisor is a checked quotient that does not vanish, the transition result is the checked quotient of
the weighed sum and that divisor, and every assertion has a term that is added to it.

`Verifier.evaluateConstraints_eq_ok_iff` says that this is exactly when a verifier returns those two
values, for every modulus, prime or not. That the strategies agree on success is then no
comparison of two loops any more: both are compared with the same description.
-/

set_option autoImplicit false

namespace OutOfDomain

variable {q : Modulus}

/-- The inputs have the sizes of the parameters, the channel aside, and accumulate to the two
values. -/
structure EvaluatedInputs.FoldsTo (inputs : EvaluatedInputs q) (p : Parameters)
    (a : Accumulation q) : Prop where
  length_residues : inputs.transition.residues.length = p.traceWidth.toNat
  length_degrees : inputs.transition.degrees.length = p.traceWidth.toNat
  length_transitionWeights : inputs.transitionWeights.length = p.traceWidth.toNat
  length_assertions : inputs.boundary.assertions.length = p.assertionCount.toNat
  length_boundaryWeights : inputs.boundaryWeights.length = p.assertionCount.toNat
  degree_le : ∀ degree ∈ inputs.transition.degrees, degree.toNat ≤ p.maxDegree.toNat
  transitionResult : ∃ divisor, divisor ≠ 0 ∧
    IsCheckedQuotient (inputs.z ^ p.traceLength.toNat - 1)
      (inputs.z - inputs.generator ^ (p.traceLength.toNat - 1)) divisor ∧
    IsCheckedQuotient (p.transitionSum inputs.z inputs.transitionWeights inputs.transition) divisor
      a.transitionResult
  finalValue : ∃ terms,
    List.Forall₂ (fun item t => IsAssertionTerm p inputs.z inputs.generator item.1 item.2 t)
      (inputs.boundaryWeights.zip inputs.boundary.assertions) terms ∧
    a.finalValue = a.transitionResult + terms.sum

/-- A verifier returns the values that the inputs fold to, and no others, whatever its strategy. -/
theorem Verifier.evaluateConstraints_eq_ok_iff {v : Verifier} {inputs : EvaluatedInputs q}
    {a : Accumulation q} :
    v.evaluateConstraints inputs = .ok a ↔ inputs.FoldsTo v.parameters a := by
  unfold Verifier.evaluateConstraints Verifier.accumulate
  simp only [bind_eq_ok_iff, expectSize_eq_ok_iff, exists_const,
    TransitionDivisor.evaluate_eq_ok_iff, foldTransitions_eq_ok_iff, foldBoundaries_eq_ok_iff]
  constructor
  · rintro ⟨hr, hd, hw, ha, hb, divisor, ⟨hdivisor, hne⟩, r, ⟨-, -, hle, hresult⟩, f, ⟨-, hf⟩, h⟩
    cases h
    exact ⟨hr.symm, hd.symm, hw.symm, ha.symm, hb.symm, hle, ⟨_, hne, hdivisor, hresult⟩, hf⟩
  · rintro ⟨hr, hd, hw, ha, hb, hle, ⟨divisor, hne, hdivisor, hresult⟩, hf⟩
    exact ⟨hr.symm, hd.symm, hw.symm, ha.symm, hb.symm, ⟨divisor⟩, ⟨hdivisor, hne⟩,
      a.transitionResult, ⟨hw.trans hr.symm, hd.trans hr.symm, hle, hresult⟩,
      a.finalValue, ⟨hb.trans ha.symm, hf⟩, rfl⟩

/-- **The strategies agree on success**, for every modulus: the sequential fold returns a pair of
values exactly if the reduction returns the same pair. The modulus need not be prime. -/
theorem evaluateConstraints_sequential_iff_reduction (p : Parameters) (s s' : Schedule)
    (inputs : EvaluatedInputs q) (a : Accumulation q) :
    Verifier.evaluateConstraints ⟨p, .sequential, s⟩ inputs = .ok a ↔
      Verifier.evaluateConstraints ⟨p, .reduction, s'⟩ inputs = .ok a := by
  have hsequential : Verifier.evaluateConstraints ⟨p, .sequential, s⟩ inputs = .ok a ↔
      inputs.FoldsTo p a := Verifier.evaluateConstraints_eq_ok_iff
  have hreduction : Verifier.evaluateConstraints ⟨p, .reduction, s'⟩ inputs = .ok a ↔
      inputs.FoldsTo p a := Verifier.evaluateConstraints_eq_ok_iff
  exact hsequential.trans hreduction.symm

end OutOfDomain
