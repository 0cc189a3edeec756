import OutOfDomain.Check.Fold
import OutOfDomain.Proofs.Outcome
import OutOfDomain.Proofs.Parameters.Bounds
import OutOfDomain.Proofs.Residue.Field

/-!
# The terms of a fold

What a fold adds up is made of few parts: a residue is weighed, and the weighed residue is divided.
This file says what each part *is*, as an expression over the ring of residues, and when it fails.
The equations for the weighed residues, the poles and the divisor cover the errors too, and no
exponent is ever refused in them: `Residue.powBounded_bitWidth` and the bounds on parameters leave
only the two failures that the inputs can cause, a degree and a row out of range.

Division is described by `IsCheckedQuotient`, and for *any* modulus. A quotient that has passed the
check multiplies back by definition, even where the power that was tried as an inverse is none. For
a prime modulus it is the quotient of the field (`isCheckedQuotient_iff`).
-/

set_option autoImplicit false

namespace OutOfDomain

variable {q : Modulus}

/-! ## Checked quotients -/

/-- A residue passes for the quotient of two others: it is the numerator times the power that is
tried as an inverse of the divisor, and it multiplies back. -/
def IsCheckedQuotient (numerator divisor quotient : Residue q) : Prop :=
  ∃ inverse, divisor.inverse? = some inverse ∧ quotient = numerator * inverse ∧
    quotient * divisor = numerator

theorem checkedQuotient_eq_ok_iff {numerator divisor quotient : Residue q} {kind : DivisorKind} :
    checkedQuotient numerator divisor kind = .ok quotient ↔
      IsCheckedQuotient numerator divisor quotient := by
  unfold checkedQuotient IsCheckedQuotient
  cases divisor.inverse? with
  | none => exact iff_of_false nofun fun ⟨_, h, _⟩ => nomatch h
  | some inverse =>
    simp only [Option.some.injEq, exists_eq_left']
    split
    · rename_i h
      constructor
      · rintro ⟨⟩
        exact ⟨rfl, h⟩
      · rintro ⟨rfl, -⟩
        rfl
    · rename_i h
      refine iff_of_false nofun ?_
      rintro ⟨rfl, h'⟩
      exact h h'

namespace IsCheckedQuotient

variable {numerator divisor quotient quotient' : Residue q}

theorem mul_eq (h : IsCheckedQuotient numerator divisor quotient) :
    quotient * divisor = numerator := by
  obtain ⟨_, -, -, h⟩ := h
  exact h

theorem divisor_ne_zero (h : IsCheckedQuotient numerator divisor quotient) : divisor ≠ 0 := by
  obtain ⟨_, hinv, -⟩ := h
  rintro rfl
  rw [Residue.inverse?_zero] at hinv
  cases hinv

end IsCheckedQuotient

/-- For a prime modulus, what passes for a quotient is the quotient, and there is one exactly if the
divisor is not zero. -/
theorem isCheckedQuotient_iff [Fact q.toNat.Prime] {numerator divisor quotient : Residue q} :
    IsCheckedQuotient numerator divisor quotient ↔
      divisor ≠ 0 ∧ quotient = numerator / divisor := by
  constructor
  · intro h
    exact ⟨h.divisor_ne_zero, eq_div_of_mul_eq h.divisor_ne_zero h.mul_eq⟩
  · rintro ⟨h, rfl⟩
    exact ⟨divisor⁻¹, Residue.inverse?_eq_some_inv h, div_eq_mul_inv _ _, div_mul_cancel₀ _ h⟩

/-- For a prime modulus, a division by zero is the one that fails. -/
theorem checkedQuotient_eq [Fact q.toNat.Prime] (numerator divisor : Residue q)
    (kind : DivisorKind) :
    checkedQuotient numerator divisor kind =
      if divisor = 0 then .error (.degenerateDivisor kind) else .ok (numerator / divisor) := by
  split
  · rename_i h
    rw [checkedQuotient, h, Residue.inverse?_zero]
  · rename_i h
    exact checkedQuotient_eq_ok_iff.2 (isCheckedQuotient_iff.2 ⟨h, rfl⟩)

/-! ## Weighed residues -/

namespace Parameters

/-- The factor of the residue of a column of the given degree, at the point `z`. -/
def transitionWeight (p : Parameters) (z : Residue q) (weight : Weight q) (degree : UInt64) :
    Residue q :=
  weight.at (z ^ (p.maxDegree.toNat - degree.toNat))

/-- The factor of the residue of an assertion of the given divisor degree, at the point `z`. -/
def boundaryWeight (p : Parameters) (z : Residue q) (weight : Weight q) (divisorDegree : UInt64) :
    Residue q :=
  weight.at (z ^ (p.maxDegree.toNat - (p.traceLength.toNat - 1) + divisorDegree.toNat))

variable (p : Parameters)

/-- The exponent of a column is the difference of the degrees, and never a word that has wrapped. -/
theorem toNat_transitionExponent {degree : UInt64} (h : degree.toNat ≤ p.maxDegree.toNat) :
    (p.maxDegree - degree).toNat = p.maxDegree.toNat - degree.toNat :=
  toNat_word_sub h

/-- The exponent that lifts the degree of a trace polynomial to the highest degree does not wrap. -/
theorem toNat_lift : (p.maxDegree - (p.traceLength - 1)).toNat =
    p.maxDegree.toNat - (p.traceLength.toNat - 1) := by
  have hlast := p.toNat_traceLength_sub_one
  rw [toNat_word_sub (hlast.symm ▸ p.lastRow_le_maxDegree), hlast]

/-- The exponent of an assertion is never a word that has wrapped either. It is at most the highest
degree. -/
theorem toNat_boundaryExponent {divisorDegree : UInt64}
    (h : divisorDegree.toNat ≤ p.traceLength.toNat - 1) :
    (p.maxDegree - (p.traceLength - 1) + divisorDegree).toNat =
      p.maxDegree.toNat - (p.traceLength.toNat - 1) + divisorDegree.toNat := by
  have hmax := p.lastRow_le_maxDegree
  have hword := p.maxDegree.toNat_lt
  rw [UInt64.toNat_add, p.toNat_lift, Nat.mod_eq_of_lt (by omega)]

theorem adjustment_eq (z : Residue q) {exponent : UInt64}
    (h : exponent.toNat ≤ p.maxDegree.toNat) :
    p.adjustment z exponent = .ok (z ^ exponent.toNat) := by
  rw [adjustment, degreeBits, Residue.powBounded_bitWidth h]
  rfl

theorem transitionTerm_eq (z : Residue q) (column : ℕ) (weight : Weight q) (residue : Residue q)
    (degree : UInt64) :
    p.transitionTerm z column weight residue degree =
      if degree.toNat ≤ p.maxDegree.toNat then
        .ok (p.transitionWeight z weight degree * residue)
      else
        .error (.degreeOutOfRange .transitionConstraint column degree.toNat p.maxDegree.toNat) := by
  unfold transitionTerm transitionExponent
  by_cases h : degree.toNat ≤ p.maxDegree.toNat
  · rw [if_neg (by rwa [UInt64.lt_iff_toNat_lt, Nat.not_lt]), if_pos h, transitionWeight,
      ← toNat_transitionExponent p h]
    have hle : (p.maxDegree - degree).toNat ≤ p.maxDegree.toNat := by
      rw [toNat_transitionExponent p h]
      exact Nat.sub_le _ _
    -- The exponent is at most the highest degree, so its declared width is enough.
    change (p.adjustment z (p.maxDegree - degree) >>= _) = _
    rw [adjustment_eq p z hle]
    rfl
  · rw [if_pos (by rwa [UInt64.lt_iff_toNat_lt, ← Nat.not_le]), if_neg h]
    rfl

theorem boundaryTerm_eq (z : Residue q) (assertion : ℕ) (weight : Weight q)
    (a : AssertionEvaluation q) :
    p.boundaryTerm z assertion weight a =
      if a.divisorDegree.toNat ≤ p.traceLength.toNat - 1 then
        .ok (p.boundaryWeight z weight a.divisorDegree * a.residue)
      else
        .error (.degreeOutOfRange .boundaryDivisor assertion a.divisorDegree.toNat
          (p.traceLength.toNat - 1)) := by
  have hlast := p.toNat_traceLength_sub_one
  unfold boundaryTerm boundaryExponent
  by_cases h : a.divisorDegree.toNat ≤ p.traceLength.toNat - 1
  · rw [if_neg (by rwa [UInt64.lt_iff_toNat_lt, Nat.not_lt, hlast]), if_pos h, boundaryWeight,
      ← toNat_boundaryExponent p h]
    have hmax := p.lastRow_le_maxDegree
    have hle : (p.maxDegree - (p.traceLength - 1) + a.divisorDegree).toNat ≤ p.maxDegree.toNat := by
      rw [toNat_boundaryExponent p h]
      omega
    change (p.adjustment z (p.maxDegree - (p.traceLength - 1) + a.divisorDegree) >>= _) = _
    rw [adjustment_eq p z hle]
    rfl
  · rw [if_pos (by rwa [UInt64.lt_iff_toNat_lt, ← Nat.not_le, hlast]), if_neg h, hlast]
    rfl

end Parameters

/-! ## Divisors -/

namespace BoundaryDivisor

variable (value : Residue q) (kind : DivisorKind)

@[simp] theorem value_ofValue : (ofValue value kind).value = value := rfl

@[simp] theorem divide_ofValue (numerator : Residue q) :
    (ofValue value kind).divide numerator = checkedQuotient numerator value kind := rfl

end BoundaryDivisor

theorem powBounded_stepBits (p : Parameters) (x : Residue q) {step : UInt64}
    (h : step.toNat ≤ p.traceLength.toNat) :
    CheckError.ofOverflow (x.powBounded step p.stepBits) = .ok (x ^ step.toNat) := by
  rw [Parameters.stepBits, Residue.powBounded_bitWidth h]
  rfl

theorem BoundaryDivisor.singlePole_eq (p : Parameters) (z generator : Residue q) (assertion : ℕ)
    (step : UInt64) :
    BoundaryDivisor.singlePole z generator assertion step p =
      if step.toNat < p.traceLength.toNat then
        .ok (.ofValue (z - generator ^ step.toNat) (.boundary assertion step.toNat))
      else
        .error (.assertionStepOutOfRange assertion step.toNat p.traceLength.toNat) := by
  unfold BoundaryDivisor.singlePole
  by_cases h : step.toNat < p.traceLength.toNat
  · rw [if_neg (by rwa [UInt64.le_iff_toNat_le, Nat.not_le]), if_pos h]
    change (CheckError.ofOverflow _ >>= _) = _
    rw [powBounded_stepBits p generator h.le]
    rfl
  · rw [if_pos (by rwa [UInt64.le_iff_toNat_le, ← Nat.not_lt]), if_neg h]
    rfl

theorem TransitionDivisor.evaluate_eq (p : Parameters) (z generator : Residue q) :
    TransitionDivisor.evaluate z generator p = (do
      let value ← checkedQuotient (z ^ p.traceLength.toNat - 1)
        (z - generator ^ (p.traceLength.toNat - 1)) .transition
      if value = 0 then throw (.degenerateDivisor .transition) else return ⟨value⟩) := by
  have hlast := p.toNat_traceLength_sub_one
  unfold TransitionDivisor.evaluate
  rw [powBounded_stepBits p z le_rfl, powBounded_stepBits p generator (by omega), hlast]
  change (checkedQuotient _ _ _ >>= _) = _
  refine bind_congr fun value => ?_
  split <;> rfl

theorem TransitionDivisor.evaluate_eq_ok_iff {p : Parameters} {z generator : Residue q}
    {d : TransitionDivisor q} :
    TransitionDivisor.evaluate z generator p = .ok d ↔
      IsCheckedQuotient (z ^ p.traceLength.toNat - 1)
        (z - generator ^ (p.traceLength.toNat - 1)) d.value ∧ d.value ≠ 0 := by
  rw [TransitionDivisor.evaluate_eq, bind_eq_ok_iff]
  constructor
  · rintro ⟨value, hvalue, h⟩
    -- A divisor that vanishes is refused, although it is a checked quotient.
    by_cases hzero : value = 0
    · rw [if_pos hzero] at h
      cases h
    · rw [if_neg hzero] at h
      cases h
      exact ⟨checkedQuotient_eq_ok_iff.1 hvalue, hzero⟩
  · rintro ⟨hvalue, hzero⟩
    refine ⟨d.value, checkedQuotient_eq_ok_iff.2 hvalue, ?_⟩
    rw [if_neg hzero]
    rfl

end OutOfDomain
