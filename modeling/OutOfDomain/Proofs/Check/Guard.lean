import OutOfDomain.Proofs.Check.Errors

/-!
# The guard of the trace domain

On a row of the trace nothing can be divided, and a check says so: it ends in a degenerate transition
divisor exactly if the point is a power of the generator (`degenerateDivisor_iff_row`). The guard is
spread over two comparisons with zero, of the factor for the last row and of the divisor itself, and
over one more for each assertion. For a prime modulus the first two amount to `zⁿ = 1`
(`TransitionDivisor.evaluate_eq_ite`). The rows are all the roots that this equation has, since a
generator of order `n` already provides `n` of them, so the comparisons that come later find nothing:
a point that has a transition divisor lies on the row of no assertion.
-/

set_option autoImplicit false

namespace OutOfDomain

variable {q : Modulus}

/-- A check of sized inputs reports a transition divisor that cannot be formed before anything
else. -/
theorem Verifier.verify_of_evaluate_eq_error {v : Verifier} {inputs : EvaluatedInputs q}
    {e : CheckError} (hchannel : inputs.channel.length = v.parameters.traceWidth.toNat)
    (hsized : inputs.Sized v.parameters)
    (h : TransitionDivisor.evaluate inputs.z inputs.generator v.parameters = .error e) :
    v.verify inputs = .error e := by
  have hsize : ∀ {what : Part} {expected actual : ℕ}, actual = expected →
      expectSize what expected actual = .ok () := fun h => expectSize_eq_ok_iff.2 h.symm
  unfold Verifier.verify Verifier.evaluateConstraints Verifier.accumulate
  simp only [hsize hchannel, hsize hsized.length_residues, hsize hsized.length_degrees,
    hsize hsized.length_transitionWeights, hsize hsized.length_assertions,
    hsize hsized.length_boundaryWeights, h]
  rfl

variable [Fact q.toNat.Prime] {z generator : Residue q}

/-! ## Rows -/

/-- The rows of the trace are the roots of the polynomial that vanishes on them. -/
theorem exists_row_iff {n : ℕ} (hn : n ≠ 0) (hg : orderOf generator = n) :
    (∃ k < n, z = generator ^ k) ↔ z ^ n = 1 := by
  have : NeZero n := ⟨hn⟩
  have hprimitive : IsPrimitiveRoot generator n := IsPrimitiveRoot.iff_orderOf.2 hg
  constructor
  · rintro ⟨k, -, rfl⟩
    rw [← pow_mul, mul_comm, pow_mul, hprimitive.pow_eq_one, one_pow]
  · intro h
    obtain ⟨k, hk, h⟩ := hprimitive.eq_pow_of_pow_eq_one h
    exact ⟨k, hk, h.symm⟩

/-! ## The transition divisor -/

/-- For a prime modulus there is a transition divisor exactly off the rows, and it is the quotient. -/
theorem TransitionDivisor.evaluate_eq_ite (p : Parameters) (z generator : Residue q) :
    TransitionDivisor.evaluate z generator p =
      if z ^ p.traceLength.toNat = 1 ∨ z = generator ^ (p.traceLength.toNat - 1) then
        .error (.degenerateDivisor .transition)
      else
        .ok ⟨(z ^ p.traceLength.toNat - 1) / (z - generator ^ (p.traceLength.toNat - 1))⟩ := by
  rw [TransitionDivisor.evaluate_eq, checkedQuotient_eq]
  by_cases hlast : z = generator ^ (p.traceLength.toNat - 1)
  · rw [if_pos (sub_eq_zero.2 hlast), if_pos (.inr hlast)]
    rfl
  · rw [if_neg (sub_ne_zero.2 hlast)]
    -- The factor for the last row is not zero, so the quotient vanishes with its numerator.
    have hzero : (z ^ p.traceLength.toNat - 1) / (z - generator ^ (p.traceLength.toNat - 1)) = 0 ↔
        z ^ p.traceLength.toNat = 1 ∨ z = generator ^ (p.traceLength.toNat - 1) := by
      rw [div_eq_zero_iff, sub_eq_zero, sub_eq_zero]
    change (if _ = (0 : Residue q) then _ else _) = _
    by_cases h : z ^ p.traceLength.toNat = 1 ∨ z = generator ^ (p.traceLength.toNat - 1)
    · rw [if_pos (hzero.2 h), if_pos h]
      rfl
    · rw [if_neg (mt hzero.1 h), if_neg h]
      rfl

section Guard

variable {p : Parameters}

theorem TransitionDivisor.evaluate_of_row (hg : orderOf generator = p.traceLength.toNat) {k : ℕ}
    (hk : k < p.traceLength.toNat) :
    TransitionDivisor.evaluate (generator ^ k) generator p =
      .error (.degenerateDivisor .transition) := by
  have hpow : (generator ^ k) ^ p.traceLength.toNat = 1 :=
    (exists_row_iff (Nat.ne_zero_of_lt hk) hg).1 ⟨k, hk, rfl⟩
  rw [TransitionDivisor.evaluate_eq_ite, if_pos (.inl hpow)]

theorem TransitionDivisor.exists_of_not_row (hg : orderOf generator = p.traceLength.toNat)
    (h : ¬ ∃ k < p.traceLength.toNat, z = generator ^ k) :
    ∃ d, TransitionDivisor.evaluate z generator p = .ok d := by
  have hlength := p.two_le_traceLength
  rw [evaluate_eq_ite, if_neg]
  · exact ⟨_, rfl⟩
  · rintro (hpow | hlast)
    · exact h ((exists_row_iff (by omega) hg).2 hpow)
    · exact h ⟨_, by omega, hlast⟩

/-- A point that has a transition divisor lies on no row. -/
theorem TransitionDivisor.ne_row_of_evaluate (hg : orderOf generator = p.traceLength.toNat)
    {d : TransitionDivisor q} (h : TransitionDivisor.evaluate z generator p = .ok d) {k : ℕ}
    (hk : k < p.traceLength.toNat) : z ≠ generator ^ k := by
  rintro rfl
  rw [evaluate_of_row hg hk] at h
  cases h

end Guard

/-! ## The check -/

/-- Only the transition divisor is ever degenerate, where the generator has the order of the trace. -/
theorem Verifier.onlyRaises_verify_not_boundary {v : Verifier} {inputs : EvaluatedInputs q}
    (hg : orderOf inputs.generator = v.parameters.traceLength.toNat) :
    OnlyRaises (fun e => ∀ assertion step, e ≠ .degenerateDivisor (.boundary assertion step))
      (v.verify inputs) := by
  have hplain : ∀ e : CheckError, e.IsPlain →
      ∀ assertion step, e ≠ .degenerateDivisor (.boundary assertion step) := by
    rintro e h assertion step rfl
    cases h
  refine onlyRaises_verify hplain (onlyRaises_accumulate hplain ?_ ?_ ?_)
  · exact onlyRaises_evaluate (fun _ _ => nofun) fun _ _ =>
      onlyRaises_checkedQuotient_of_prime fun _ _ _ => nofun
  · exact fun _ _ _ => onlyRaises_checkedQuotient_of_prime fun _ _ _ => nofun
  · intro d hd step hstep numerator assertion
    refine onlyRaises_checkedQuotient_of_prime fun hzero => ?_
    exact absurd (sub_eq_zero.1 hzero) (TransitionDivisor.ne_row_of_evaluate hg hd hstep)

/-- Off the rows the transition divisor is never degenerate either. -/
theorem Verifier.onlyRaises_verify_not_transition {v : Verifier} {inputs : EvaluatedInputs q}
    {d : TransitionDivisor q}
    (hd : TransitionDivisor.evaluate inputs.z inputs.generator v.parameters = .ok d) :
    OnlyRaises (· ≠ .degenerateDivisor .transition) (v.verify inputs) := by
  have hplain : ∀ e : CheckError, e.IsPlain → e ≠ .degenerateDivisor .transition := by
    rintro e h rfl
    cases h
  refine onlyRaises_verify hplain (onlyRaises_accumulate hplain ?_ ?_ ?_)
  · rw [hd]
    exact .ok d
  · intro d' hd' numerator
    exact onlyRaises_checkedQuotient_of_prime fun hzero =>
      absurd hzero (TransitionDivisor.evaluate_eq_ok_iff.1 hd').2
  · exact fun _ _ _ _ _ _ => onlyRaises_checkedQuotient_of_prime fun _ => nofun

/-- **The divisor guard is exact.** For a prime modulus and a generator whose order is the length of
the trace, a check of sized inputs ends in a degenerate transition divisor if and only if the point
is a row of the trace, whatever else is in the inputs. It never ends in a degenerate divisor of an
assertion, whatever their sizes are. -/
theorem degenerateDivisor_iff_row (v : Verifier) (inputs : EvaluatedInputs q)
    (hg : orderOf inputs.generator = v.parameters.traceLength.toNat) :
    (inputs.channel.length = v.parameters.traceWidth.toNat → inputs.Sized v.parameters →
      (v.verify inputs = .error (.degenerateDivisor .transition) ↔
        ∃ k < v.parameters.traceLength.toNat, inputs.z = inputs.generator ^ k)) ∧
    ∀ assertion step, v.verify inputs ≠ .error (.degenerateDivisor (.boundary assertion step)) := by
  refine ⟨fun hchannel hsized => ⟨fun h => ?_, ?_⟩, fun assertion step h => ?_⟩
  · by_contra hrow
    obtain ⟨d, hd⟩ := TransitionDivisor.exists_of_not_row hg hrow
    exact Verifier.onlyRaises_verify_not_transition hd _ h rfl
  · rintro ⟨k, hk, hz⟩
    refine Verifier.verify_of_evaluate_eq_error hchannel hsized ?_
    rw [hz, TransitionDivisor.evaluate_of_row hg hk]
  · exact Verifier.onlyRaises_verify_not_boundary hg _ h assertion step rfl

/-- Inputs whose point is the first row. Their degrees and rows are out of range as well. -/
def firstRowInputs : EvaluatedInputs Modulus.small :=
  { workedInputs 31 with
    z := .ofWord 1
    transition := ⟨[.ofWord 10], [9]⟩
    boundary := ⟨[⟨.ofWord 5, 7, 7⟩]⟩ }

theorem verify_firstRowInputs :
    orderOf firstRowInputs.generator = workedParameters.traceLength.toNat ∧
      Verifier.verify ⟨workedParameters, .sequential, .standard⟩ firstRowInputs =
        .error (.degenerateDivisor .transition) := by
  have : Fact workedParameters.traceLength.toNat.Prime := ⟨Nat.prime_two⟩
  have hg : orderOf firstRowInputs.generator = workedParameters.traceLength.toNat :=
    orderOf_eq_prime (by decide +kernel) (by decide +kernel)
  refine ⟨hg, ((degenerateDivisor_iff_row _ firstRowInputs hg).1 rfl ?_).2 ⟨0, by decide, ?_⟩⟩
  · exact ⟨rfl, rfl, rfl, rfl, rfl⟩
  · exact (pow_zero _).symm

end OutOfDomain
