import Mathlib.Algebra.Polynomial.BigOperators
import OutOfDomain.Proofs.Check.Acceptance
import OutOfDomain.Proofs.DensePoly.Interpolation

/-!
# The defect of a check

Before a point is chosen, the inputs of a check are polynomials: the residues are, and so is what
the channel claims to carry. `SymbolicInputs` are those polynomials; at a point they become evaluated
inputs (`SymbolicInputs.evaluateAt`).

The constraints are then a rational function, with poles on the trace domain only. Multiplied with
the polynomial that vanishes on the domain, they are a polynomial, the `numerator`: the factor for
the last row is what the divisor of the transition constraints leaves, and a `rowQuotient` is what
the divisor of an assertion leaves. What a claimed polynomial is off by, multiplied likewise, is the
`defect`. A point off the domain is accepted exactly if it is a root of the defect
(`eval_defect_eq_zero_iff`), and the degree of the defect is known (`natDegree_defect_le`). On the
domain, where no check is possible, the defect still has a value, and that value is what the
constraints of the row say (`eval_numerator_row`).
-/

set_option autoImplicit false

namespace OutOfDomain

open Polynomial

variable {q : Modulus}

/-! ## The polynomials of single factors -/

/-- The factor of a residue, as a polynomial in the point. -/
noncomputable def Weight.polynomial (w : Weight q) (exponent : ℕ) : (Residue q)[X] :=
  C w.c0 + C w.c1 * X ^ exponent

@[simp] theorem Weight.eval_polynomial (w : Weight q) (exponent : ℕ) (z : Residue q) :
    (w.polynomial exponent).eval z = w.at (z ^ exponent) := by
  rw [polynomial, eval_add, eval_mul, eval_C, eval_C, eval_pow, eval_X, Weight.at]

theorem Weight.natDegree_polynomial_le (w : Weight q) (exponent : ℕ) :
    (w.polynomial exponent).natDegree ≤ exponent := by
  refine (natDegree_add_le _ _).trans (max_le ?_ (natDegree_C_mul_X_pow_le _ _))
  rw [natDegree_C]
  exact Nat.zero_le _

/-- The polynomial that vanishes on a domain of `n` elements, over the distance from one of them. -/
noncomputable def rowQuotient (n : ℕ) (x : Residue q) : (Residue q)[X] :=
  ∑ i ∈ Finset.range n, X ^ i * C x ^ (n - 1 - i)

theorem natDegree_rowQuotient_le (n : ℕ) (x : Residue q) :
    (rowQuotient n x).natDegree ≤ n - 1 := by
  apply natDegree_sum_le_of_forall_le _ _
  intro i hi
  have hin := Finset.mem_range.1 hi
  rw [← C_pow]
  calc (X ^ i * C (x ^ (n - 1 - i))).natDegree
      ≤ (X ^ i : (Residue q)[X]).natDegree := natDegree_mul_C_le _ _
    _ ≤ i := natDegree_X_pow_le i
    _ ≤ n - 1 := by omega

theorem eval_rowQuotient_mul (n : ℕ) {x : Residue q} (h : x ^ n = 1) (z : Residue q) :
    (rowQuotient n x).eval z * (z - x) = z ^ n - 1 := by
  rw [rowQuotient, eval_finsetSum]
  simp only [eval_mul, eval_pow, eval_X, eval_C]
  rw [geom_sum₂_mul, h]

theorem eval_rowQuotient_self (n : ℕ) (x : Residue q) :
    (rowQuotient n x).eval x = n * x ^ (n - 1) := by
  rw [rowQuotient, eval_finsetSum]
  simp only [eval_mul, eval_pow, eval_X, eval_C]
  rw [geom_sum₂_self]

theorem natDegree_list_sum_le_of_forall_le {Ps : List (Residue q)[X]} {n : ℕ}
    (h : ∀ P ∈ Ps, P.natDegree ≤ n) : Ps.sum.natDegree ≤ n := by
  refine natDegree_le_iff_degree_le.2 (degree_list_sum_le_of_forall_degree_le _ _ fun P hP => ?_)
  exact natDegree_le_iff_degree_le.1 (h P hP)

/-! ## Symbolic inputs -/

/-- An assertion before its residue is evaluated. -/
structure SymbolicAssertion (q : Modulus) where
  residue : (Residue q)[X]
  step : UInt64

/-- The inputs of a check before a point is chosen, the channel aside. -/
structure SymbolicInputs (q : Modulus) where
  generator : Residue q
  transitionWeights : List (Weight q)
  boundaryWeights : List (Weight q)
  residues : List (Residue q)[X]
  degrees : List UInt64
  assertions : List (SymbolicAssertion q)

namespace SymbolicInputs

noncomputable def transitionAt (s : SymbolicInputs q) (z : Residue q) : TransitionEvaluation q :=
  ⟨s.residues.map (·.eval z), s.degrees⟩

noncomputable def boundaryAt (s : SymbolicInputs q) (z : Residue q) : BoundaryEvaluation q :=
  ⟨s.assertions.map fun a => ⟨a.residue.eval z, singlePoleDegree, a.step⟩⟩

/-- The inputs at a point, with what the channel carries there. -/
noncomputable def evaluateAt (s : SymbolicInputs q) (z : Residue q)
    (channel : List (Residue q)) : EvaluatedInputs q where
  z
  generator := s.generator
  transitionWeights := s.transitionWeights
  boundaryWeights := s.boundaryWeights
  transition := s.transitionAt z
  boundary := s.boundaryAt z
  channel

/-- The declared degrees are true, and in range. -/
structure Bounded (s : SymbolicInputs q) (p : Parameters) : Prop where
  residue_le : List.Forall₂ (fun P degree => P.natDegree ≤ UInt64.toNat degree) s.residues s.degrees
  degree_le : ∀ degree ∈ s.degrees, degree.toNat ≤ p.maxDegree.toNat
  assertion_le : ∀ a ∈ s.assertions, a.residue.natDegree ≤ p.traceLength.toNat - 1

variable (s : SymbolicInputs q) (p : Parameters)

noncomputable def transitionPolynomial : (Residue q)[X] :=
  ((s.transitionWeights.zip (s.residues.zip s.degrees)).map fun (weight, residue, degree) =>
    weight.polynomial (p.maxDegree.toNat - degree.toNat) * residue).sum

end SymbolicInputs

noncomputable def Parameters.boundaryPolynomial (p : Parameters) (weight : Weight q)
    (a : SymbolicAssertion q) : (Residue q)[X] :=
  weight.polynomial (p.maxDegree.toNat - (p.traceLength.toNat - 1) + singlePoleDegree.toNat) *
    a.residue

namespace SymbolicInputs

variable (s : SymbolicInputs q) (p : Parameters)

/-- The constraints, times the polynomial that vanishes on the trace domain. -/
noncomputable def numerator : (Residue q)[X] :=
  s.transitionPolynomial p * (X - C (s.generator ^ (p.traceLength.toNat - 1))) +
    ((s.boundaryWeights.zip s.assertions).map fun (weight, a) =>
      p.boundaryPolynomial weight a *
        rowQuotient p.traceLength.toNat (s.generator ^ a.step.toNat)).sum

/-- What a claimed polynomial is off by, times the polynomial that vanishes on the trace domain. -/
noncomputable def defect (claimed : (Residue q)[X]) : (Residue q)[X] :=
  claimed * (X ^ p.traceLength.toNat - 1) - s.numerator p

/-! ## Degrees -/

section Degrees

variable {s : SymbolicInputs q} {p : Parameters} (h : s.Bounded p)

include h

theorem natDegree_transitionPolynomial_le :
    (s.transitionPolynomial p).natDegree ≤ p.maxDegree.toNat := by
  apply natDegree_list_sum_le_of_forall_le
  intro P hP
  obtain ⟨⟨weight, residue, degree⟩, hitem, rfl⟩ := List.mem_map.1 hP
  have hcolumn := (List.of_mem_zip hitem).2
  have hresidue : residue.natDegree ≤ degree.toNat :=
    (List.forall₂_iff_zip.1 h.residue_le).2 hcolumn
  have hdegree := h.degree_le degree (List.of_mem_zip hcolumn).2
  have hweight := weight.natDegree_polynomial_le (p.maxDegree.toNat - degree.toNat)
  exact (natDegree_mul_le_of_le hweight hresidue).trans (Nat.sub_add_cancel hdegree).le

/-- A weighed assertion has at most one degree more than the composition polynomial, which is what
its divisor takes away. -/
theorem natDegree_boundaryPolynomial_le (weight : Weight q) {a : SymbolicAssertion q}
    (ha : a ∈ s.assertions) : (p.boundaryPolynomial weight a).natDegree ≤ p.maxDegree.toNat + 1 := by
  have hlast := p.lastRow_le_maxDegree
  have hone : singlePoleDegree.toNat = 1 := rfl
  have hmul := natDegree_mul_le_of_le
    (weight.natDegree_polynomial_le
      (p.maxDegree.toNat - (p.traceLength.toNat - 1) + singlePoleDegree.toNat))
    (h.assertion_le a ha)
  unfold Parameters.boundaryPolynomial
  omega

theorem natDegree_numerator_le :
    (s.numerator p).natDegree ≤ p.maxDegree.toNat + p.traceLength.toNat := by
  have htwo := p.two_le_traceLength
  refine (natDegree_add_le _ _).trans (max_le ?_ (natDegree_list_sum_le_of_forall_le fun P hP => ?_))
  · have hmul := natDegree_mul_le_of_le (natDegree_transitionPolynomial_le h)
      (natDegree_X_sub_C_le (s.generator ^ (p.traceLength.toNat - 1)))
    omega
  · obtain ⟨⟨weight, a⟩, hitem, rfl⟩ := List.mem_map.1 hP
    have hmul := natDegree_mul_le_of_le
      (natDegree_boundaryPolynomial_le h weight (List.of_mem_zip hitem).2)
      (natDegree_rowQuotient_le p.traceLength.toNat (s.generator ^ a.step.toNat))
    dsimp only
    omega

theorem natDegree_defect_le {claimed : (Residue q)[X]}
    (hclaimed : claimed.natDegree ≤ p.maxDegree.toNat) :
    (s.defect p claimed).natDegree ≤ p.maxDegree.toNat + p.traceLength.toNat := by
  refine (natDegree_sub_le _ _).trans (max_le ?_ (natDegree_numerator_le h))
  refine natDegree_mul_le_of_le hclaimed ((natDegree_sub_le _ _).trans (max_le ?_ ?_))
  · exact natDegree_X_pow_le _
  · rw [natDegree_one]
    exact Nat.zero_le _

end Degrees

/-! ## Off the domain -/

variable (s : SymbolicInputs q) (p : Parameters)

@[simp] theorem eval_transitionPolynomial (z : Residue q) :
    (s.transitionPolynomial p).eval z =
      p.transitionSum z s.transitionWeights (s.transitionAt z) := by
  have hzip : s.transitionWeights.zip ((s.residues.map (·.eval z)).zip s.degrees) =
      (s.transitionWeights.zip (s.residues.zip s.degrees)).map
        (Prod.map id (Prod.map (·.eval z) id)) := by
    rw [List.zip_map_left, List.zip_map_right]
  rw [transitionPolynomial, eval_listSum, List.map_map, Parameters.transitionSum, transitionAt, hzip,
    List.map_map]
  refine congrArg List.sum (List.map_congr_left fun item _ => ?_)
  simp only [Function.comp_apply, eval_mul, Weight.eval_polynomial]
  rfl

@[simp] theorem eval_boundaryPolynomial (weight : Weight q) (a : SymbolicAssertion q)
    (z : Residue q) :
    (p.boundaryPolynomial weight a).eval z =
      p.boundaryWeight z weight singlePoleDegree * a.residue.eval z := by
  rw [Parameters.boundaryPolynomial, eval_mul, Weight.eval_polynomial, Parameters.boundaryWeight]

theorem eval_numerator (z : Residue q) :
    (s.numerator p).eval z =
      p.transitionSum z s.transitionWeights (s.transitionAt z) *
          (z - s.generator ^ (p.traceLength.toNat - 1)) +
        ((s.boundaryWeights.zip s.assertions).map fun (weight, a) =>
          p.boundaryWeight z weight singlePoleDegree * a.residue.eval z *
            (rowQuotient p.traceLength.toNat (s.generator ^ a.step.toNat)).eval z).sum := by
  rw [numerator, eval_add, eval_mul, eval_transitionPolynomial, eval_sub, eval_X, eval_C,
    eval_listSum, List.map_map]
  refine congrArg _ (congrArg List.sum (List.map_congr_left fun item _ => ?_))
  rw [Function.comp_apply, eval_mul, eval_boundaryPolynomial]

theorem eval_defect (claimed : (Residue q)[X]) (z : Residue q) :
    (s.defect p claimed).eval z =
      claimed.eval z * (z ^ p.traceLength.toNat - 1) - (s.numerator p).eval z := by
  rw [defect, eval_sub, eval_mul, eval_sub, eval_pow, eval_X, eval_one]

section Prime

variable [Fact q.toNat.Prime] {s p}

/-- The pole of an assertion is one of the zeros that are multiplied with. -/
theorem assertionValue_mul (hgenerator : s.generator ^ p.traceLength.toNat = 1) {z : Residue q}
    (hz : z ^ p.traceLength.toNat ≠ 1) (channel : List (Residue q)) (weight : Weight q)
    (a : SymbolicAssertion q) :
    (s.evaluateAt z channel).assertionValue p weight ⟨a.residue.eval z, singlePoleDegree, a.step⟩ *
        (z ^ p.traceLength.toNat - 1) =
      p.boundaryWeight z weight singlePoleDegree * a.residue.eval z *
        (rowQuotient p.traceLength.toNat (s.generator ^ a.step.toNat)).eval z := by
  have hrow : (s.generator ^ a.step.toNat) ^ p.traceLength.toNat = 1 := by
    rw [pow_right_comm, hgenerator, one_pow]
  have hne : z - s.generator ^ a.step.toNat ≠ 0 := by
    apply sub_ne_zero.2
    intro h
    exact hz (h ▸ hrow)
  rw [← eval_rowQuotient_mul p.traceLength.toNat hrow z, mul_comm (eval z _), ← mul_assoc]
  exact congrArg (· * _) (div_mul_cancel₀ _ hne)

/-- Off the domain, the numerator is the value of the constraints times what was multiplied with. -/
theorem constraintValue_mul (hgenerator : s.generator ^ p.traceLength.toNat = 1) {z : Residue q}
    (hz : z ^ p.traceLength.toNat ≠ 1) (channel : List (Residue q)) :
    (s.evaluateAt z channel).constraintValue p * (z ^ p.traceLength.toNat - 1) =
      (s.numerator p).eval z := by
  have hvanishing : z ^ p.traceLength.toNat - 1 ≠ 0 := sub_ne_zero.2 hz
  have hzip : s.boundaryWeights.zip (s.boundaryAt z).assertions =
      (s.boundaryWeights.zip s.assertions).map
        (Prod.map id fun a => ⟨a.residue.eval z, singlePoleDegree, a.step⟩) := by
    rw [boundaryAt, List.zip_map_right]
  rw [eval_numerator, EvaluatedInputs.constraintValue, add_mul]
  refine congrArg₂ _ (div_mul_cancel₀ _ hvanishing) ?_
  rw [← List.sum_map_mul_right]
  change ((s.boundaryWeights.zip (s.boundaryAt z).assertions).map _).sum = _
  rw [hzip, List.map_map]
  exact congrArg List.sum (List.map_congr_left fun item _ =>
    assertionValue_mul hgenerator hz channel item.1 item.2)

/-- Off the domain, the roots of the defect are the points where the claimed polynomial has the value
of the constraints. -/
theorem eval_defect_eq_zero_iff (hgenerator : s.generator ^ p.traceLength.toNat = 1)
    {claimed : (Residue q)[X]} {z : Residue q} (hz : z ^ p.traceLength.toNat ≠ 1)
    (channel : List (Residue q)) :
    (s.defect p claimed).eval z = 0 ↔
      claimed.eval z = (s.evaluateAt z channel).constraintValue p := by
  rw [eval_defect, sub_eq_zero, ← constraintValue_mul hgenerator hz channel]
  exact mul_left_inj' (sub_ne_zero.2 hz)

/-! ## On the domain -/

theorem eval_rowQuotient_pow {n : ℕ} {g : Residue q} (hroot : IsPrimitiveRoot g n) {i k : ℕ}
    (hi : i < n) (hk : k < n) :
    (rowQuotient n (g ^ i)).eval (g ^ k) = if i = k then n * (g ^ k) ^ (n - 1) else 0 := by
  by_cases h : i = k
  · rw [if_pos h, h, eval_rowQuotient_self]
  · -- For two elements of the domain, the product with their distance vanishes.
    have hpow : ∀ j : ℕ, (g ^ j) ^ n = 1 := fun j => by
      rw [pow_right_comm, hroot.pow_eq_one, one_pow]
    have hmul := eval_rowQuotient_mul n (hpow i) (g ^ k)
    rw [hpow k, sub_self] at hmul
    rw [if_neg h]
    refine (mul_eq_zero.1 hmul).resolve_right (sub_ne_zero.2 fun h' => h ?_)
    exact (hroot.pow_inj hk hi h').symm

/-- On a row, the numerator is made of the constraints of that row: the transition constraints,
unless the row is the last, and the assertions that are pinned to it. -/
theorem eval_numerator_row (hroot : IsPrimitiveRoot s.generator p.traceLength.toNat)
    (hsteps : ∀ a ∈ s.assertions, a.step.toNat < p.traceLength.toNat) {k : ℕ}
    (hk : k < p.traceLength.toNat) :
    (s.numerator p).eval (s.generator ^ k) =
      p.transitionSum (s.generator ^ k) s.transitionWeights (s.transitionAt (s.generator ^ k)) *
          (s.generator ^ k - s.generator ^ (p.traceLength.toNat - 1)) +
        ((s.boundaryWeights.zip s.assertions).map fun (weight, a) =>
          if a.step.toNat = k then
            p.boundaryWeight (s.generator ^ k) weight singlePoleDegree *
                a.residue.eval (s.generator ^ k) *
              (p.traceLength.toNat * (s.generator ^ k) ^ (p.traceLength.toNat - 1))
          else 0).sum := by
  rw [eval_numerator]
  refine congrArg _ (congrArg List.sum (List.map_congr_left fun item hitem => ?_))
  dsimp only
  rw [eval_rowQuotient_pow hroot (hsteps _ (List.of_mem_zip hitem).2) hk, mul_ite, mul_zero]

theorem eval_defect_row (hgenerator : s.generator ^ p.traceLength.toNat = 1)
    (claimed : (Residue q)[X]) (k : ℕ) :
    (s.defect p claimed).eval (s.generator ^ k) = -(s.numerator p).eval (s.generator ^ k) := by
  rw [eval_defect, pow_right_comm, hgenerator, one_pow, sub_self, mul_zero, zero_sub]

/-! ## Counting roots -/

/-- A defect that vanishes on all rows, and on as many points off the domain as the composition domain
has, is zero. -/
theorem defect_eq_zero (h : s.Bounded p) {claimed : (Residue q)[X]}
    (hclaimed : claimed.natDegree ≤ p.maxDegree.toNat)
    (hroot : IsPrimitiveRoot s.generator p.traceLength.toNat)
    (hrows : ∀ k < p.traceLength.toNat, (s.numerator p).eval (s.generator ^ k) = 0)
    {points : Finset (Residue q)} (hcard : p.maxDegree.toNat < points.card)
    (hoff : ∀ x ∈ points, x ^ p.traceLength.toNat ≠ 1)
    (hpoints : ∀ x ∈ points, (s.defect p claimed).eval x = 0) :
    s.defect p claimed = 0 := by
  classical
  let rows : Finset (Residue q) := (Finset.range p.traceLength.toNat).image (s.generator ^ ·)
  have hrowsCard : rows.card = p.traceLength.toNat := by
    rw [Finset.card_image_of_injOn, Finset.card_range]
    intro i hi j hj hij
    exact hroot.pow_inj (Finset.mem_range.1 hi) (Finset.mem_range.1 hj) hij
  have hdisjoint : Disjoint rows points := by
    refine Finset.disjoint_left.2 fun x hx hx' => hoff x hx' ?_
    obtain ⟨k, -, rfl⟩ := Finset.mem_image.1 hx
    rw [pow_right_comm, hroot.pow_eq_one, one_pow]
  -- The rows and the points off the domain are more than the degree allows together.
  refine eq_zero_of_natDegree_lt_card_of_eval_eq_zero' _ (rows ∪ points) (fun x hx => ?_) ?_
  · rcases Finset.mem_union.1 hx with hx | hx
    · obtain ⟨k, hk, rfl⟩ := Finset.mem_image.1 hx
      rw [eval_defect_row hroot.pow_eq_one, hrows k (Finset.mem_range.1 hk), neg_zero]
    · exact hpoints x hx
  · have hdegree := natDegree_defect_le h hclaimed
    rw [Finset.card_union_of_disjoint hdisjoint, hrowsCard]
    omega

theorem card_le_of_defect_ne_zero (h : s.Bounded p) {claimed : (Residue q)[X]}
    (hclaimed : claimed.natDegree ≤ p.maxDegree.toNat) (hne : s.defect p claimed ≠ 0)
    {points : Finset (Residue q)} (hpoints : ∀ x ∈ points, (s.defect p claimed).eval x = 0) :
    points.card ≤ p.maxDegree.toNat + p.traceLength.toNat := by
  -- A finite set has no duplicates, so it lies in the roots with their multiplicities.
  have hroots : points.val ⊆ (s.defect p claimed).roots := by
    intro x hx
    exact (mem_roots hne).2 (hpoints x hx)
  exact (card_le_degree_of_subset_roots hroots).trans (natDegree_defect_le h hclaimed)

end Prime

end SymbolicInputs

end OutOfDomain
