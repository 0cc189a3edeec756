import OutOfDomain.Proofs.Recurrence.Rows

/-!
# Completeness

A prover with a valid trace is never turned away. The defect of what it composes vanishes on every
row, because the constraints hold there (`eval_numerator_row_eq_zero`), and at every point of the
coset, because that is what was composed (`eval_defect_coset_eq_zero`). Those are more points than
the degree allows, so the defect is zero, and every point off the domain is accepted.

That the declared degrees are true and at most the highest is what this rests on. If they were not,
composing would still succeed, and the polynomial would be another one.
-/

set_option autoImplicit false

namespace OutOfDomain

open Polynomial

variable {q : Modulus}

theorem Parameters.transitionSum_eq_zero (p : Parameters) (z : Residue q) (weights : List (Weight q))
    {evaluation : TransitionEvaluation q} (h : ∀ residue ∈ evaluation.residues, residue = 0) :
    p.transitionSum z weights evaluation = 0 := by
  apply List.sum_eq_zero
  intro x hx
  obtain ⟨⟨weight, residue, degree⟩, hitem, rfl⟩ := List.mem_map.1 hx
  have hresidue := h residue (List.of_mem_zip (List.of_mem_zip hitem).2).1
  dsimp only
  rw [hresidue, mul_zero]

namespace Recurrence

variable [Fact q.toNat.Prime] {r : Recurrence} {p : Parameters} {t : TraceTable q}
  {publicInputs : List (Residue q)} {assertions : List (Assertion q)}
  {transitionWeights boundaryWeights : List (Weight q)} {c : Composition q}

/-- At the points that were composed at, the defect vanishes; none of them is in the domain. -/
theorem eval_defect_coset_eq_zero (h : r.Shaped p t)
    (hgenerator : t.root ^ p.traceLength.toNat = 1)
    (hassertions : r.assertions publicInputs = .ok assertions) {x : Residue q}
    (hx : Composition.valueAt p (r.system q) t.interpolant publicInputs transitionWeights
      boundaryWeights x = .ok (c.evaluate x)) :
    x ^ p.traceLength.toNat ≠ 1 ∧
      ((r.symbolic t.interpolant assertions transitionWeights boundaryWeights).defect p
        c.polynomial.toPolynomial).eval x = 0 := by
  obtain ⟨hne, -, assertions', hassertions', hvalue⟩ :=
    (valueAt_eq_ok_iff h.fits h.length_columns hgenerator).1 hx
  cases Except.ok.inj (hassertions.symm.trans hassertions')
  refine ⟨hne, (SymbolicInputs.eval_defect_eq_zero_iff hgenerator hne []).2 ?_⟩
  rw [DensePoly.eval_toPolynomial]
  exact hvalue

section Domain

variable (hg : orderOf (Residue.generator : Residue q) = q.toNat - 1)

include hg

theorem eval_numerator_row_eq_zero (h : r.Shaped p t)
    (hassertions : r.assertions publicInputs = .ok assertions)
    (htransitions : t.checkTransitions r.transitions = .ok ())
    (hcheck : t.checkAssertions assertions = .ok ()) {k : ℕ} (hk : k < p.traceLength.toNat) :
    ((r.symbolic t.interpolant assertions transitionWeights boundaryWeights).numerator p).eval
      (t.root ^ k) = 0 := by
  have hpins := pins_of_assertions hassertions
  have hlength : r.length.toNat = t.length :=
    (congrArg UInt64.toNat h.fits.traceLength).trans h.length_eq.symm
  have hassertion : assertionSum p t.interpolant k boundaryWeights assertions = 0 := by
    apply assertionSum_eq_zero
    intro weight a ha hstep
    -- In a valid trace the cell holds what is asserted.
    have hcell := t.getElem?_rowAt_of_holds hg h.dvd
      (TraceTable.checkAssertions_eq_ok_iff.1 hcheck a ha)
    rw [hstep] at hcell
    rw [assertionTerm, t.generator_interpolant, TraceInterpolant.eval_symbolicAssertion hcell,
      sub_self, mul_zero, zero_mul]
  -- The constraints need not hold from the last row on, but their factor vanishes there.
  by_cases hlast : k = r.lastRow.toNat
  · rw [hlast, h.eval_numerator_lastRow hg hpins, ← hlast, hassertion]
  · have hstep : k < t.length - 1 := by
      have := r.toNat_lastRow
      have := h.length_eq
      omega
    obtain ⟨f, evaluation, hf, hevaluate, hzero⟩ :=
      TraceTable.checkTransitions_eq_ok_iff.1 htransitions k hstep
    rw [h.eval_numerator_row hg hpins hk hf hevaluate, hassertion,
      p.transitionSum_eq_zero _ _ hzero, zero_mul, zero_add]

/-- The defect of what was composed has more roots than its degree allows. -/
theorem defect_eq_zero_of_composes (h : r.Shaped p t)
    (happlies : r.Applies p transitionWeights boundaryWeights)
    (hassertions : r.assertions publicInputs = .ok assertions)
    (hcomposes : c.Composes p (r.system q) t.interpolant publicInputs transitionWeights
      boundaryWeights)
    (hrows : ∀ k < p.traceLength.toNat,
      ((r.symbolic t.interpolant assertions transitionWeights boundaryWeights).numerator p).eval
        (t.root ^ k) = 0) :
    (r.symbolic t.interpolant assertions transitionWeights boundaryWeights).defect p
      c.polynomial.toPolynomial = 0 := by
  classical
  have hroot := h.isPrimitiveRoot_root hg
  have hgenerator := Residue.generator_ne_zero hg
  obtain ⟨root, hprimitive, hvalues⟩ := hcomposes.valueAt_eq
  let size := p.traceLength.toNat * p.blowup.toNat
  have hsize : p.maxDegree.toNat + 1 = size := p.toNat_maxDegree_add_one
  let points : Finset (Residue q) :=
    (Finset.range size).image fun i => Residue.generator * root ^ i
  have hcard : points.card = size := by
    -- Neither the powers of the root nor their multiples by the generator coincide.
    rw [Finset.card_image_of_injOn, Finset.card_range]
    intro i hi j hj hij
    exact hprimitive.pow_inj (Finset.mem_range.1 hi) (Finset.mem_range.1 hj)
      (mul_left_cancel₀ hgenerator hij)
  have hpoints : ∀ x ∈ points, x ^ p.traceLength.toNat ≠ 1 ∧
      ((r.symbolic t.interpolant assertions transitionWeights boundaryWeights).defect p
        c.polynomial.toPolynomial).eval x = 0 := by
    intro x hx
    obtain ⟨i, hi, rfl⟩ := Finset.mem_image.1 hx
    exact eval_defect_coset_eq_zero h hroot.pow_eq_one hassertions
      (hvalues i (Finset.mem_range.1 hi))
  have hclaimed : c.polynomial.toPolynomial.natDegree < size :=
    DensePoly.natDegree_toPolynomial_lt (by omega) hcomposes.length_coefficients.le
  exact SymbolicInputs.defect_eq_zero (h.bounded happlies) (by omega) hroot hrows (by omega)
    (fun x hx => (hpoints x hx).1) fun x hx => (hpoints x hx).2

/-- **Completeness.** Let a trace satisfy the transition constraints of a recurrence and the
assertions that public inputs imply, over any prime modulus whose generator generates all units.
Whatever the weights, if the composition polynomial can be computed at all, then the trace has
polynomials, and at every point off the trace domain a check of their frame and of the opened
composition columns accepts, whatever the strategy. -/
theorem verifyAt_of_compose {blowup : UInt64} {z : Residue q}
    (hparameters : (r.system q).parameters blowup = .ok p)
    (htransitions : t.checkTransitions r.transitions = .ok ())
    (hassertions : r.assertions publicInputs = .ok assertions)
    (hcheck : t.checkAssertions assertions = .ok ())
    (hcompose : Composition.compose p (r.system q) t publicInputs transitionWeights boundaryWeights
      = .ok c)
    (hz : z ^ r.length.toNat ≠ 1) :
    ∃ T, t.interpolate = .ok T ∧ ∀ strategy schedule,
      Verifier.verifyAt ⟨p, strategy, schedule⟩ (r.system q) T c publicInputs transitionWeights
        boundaryWeights z = .ok () := by
  have hfits := fits_of_parameters hparameters
  obtain ⟨hwidth, hlength, hdvd, hcomposes⟩ := Composition.composes_of_compose hg hcompose
  have h : r.Shaped p t := ⟨hfits, hwidth.trans (toNat_traceWidth_of_fits hfits), hlength, hdvd⟩
  have hroot := h.isPrimitiveRoot_root hg
  -- That the sizes and the degree are in range shows at the first point of the coset.
  have happlies : r.Applies p transitionWeights boundaryWeights := by
    have htwo := p.two_le_traceLength
    have hle := p.traceLength_le_length_mul_blowup
    obtain ⟨root, -, hvalues⟩ := hcomposes.valueAt_eq
    have hfirst := hvalues 0 (by omega)
    exact ((valueAt_eq_ok_iff hfits h.length_columns hroot.pow_eq_one).1 hfirst).2.1
  have hrows : ∀ k < p.traceLength.toNat,
      ((r.symbolic t.interpolant assertions transitionWeights boundaryWeights).numerator p).eval
        (t.root ^ k) = 0 :=
    fun k hk => eval_numerator_row_eq_zero hg h hassertions htransitions hcheck hk
  have hdefect := defect_eq_zero_of_composes hg h happlies hassertions hcomposes hrows
  refine ⟨t.interpolant, t.interpolate_eq_ok hg hdvd, fun strategy schedule => ?_⟩
  refine (verifyAt_eq_ok_iff hfits h.length_columns hroot.pow_eq_one hcomposes.columns_eq).2
    ⟨?_, happlies, assertions, hassertions, ?_⟩
  · rwa [← show r.length = p.traceLength from hfits.traceLength]
  · rw [hdefect, eval_zero]

end Domain

/-- What is composed from the four cells that the affine rule runs through. -/
def fourRowsComposition : Composition Modulus.small :=
  let polynomial : DensePoly Modulus.small :=
    ⟨[.ofWord 64, .ofWord 52, .ofWord 23, .ofWord 0, .ofWord 87, .ofWord 6, .ofWord 52, .ofWord 23]⟩
  ⟨polynomial, [polynomial]⟩

/-- A valid trace of four rows is accepted at the point five. -/
theorem verifyAt_fourRowsComposition :
    ∃ T, (fourCells 12 67 51).interpolate = .ok T ∧ ∀ strategy schedule,
      Verifier.verifyAt ⟨fourRowsParameters, strategy, schedule⟩ (fourRows.system Modulus.small) T
        fourRowsComposition [1, .ofWord 51] [⟨.ofWord 2, .ofWord 3⟩] [⟨1, 1⟩, ⟨1, 1⟩] (.ofWord 5)
        = .ok () := by
  have hparameters : (fourRows.system Modulus.small).parameters 2 = .ok fourRowsParameters := rfl
  have hcompose : Composition.compose fourRowsParameters (fourRows.system Modulus.small)
      (fourCells 12 67 51) [1, .ofWord 51] [⟨.ofWord 2, .ofWord 3⟩] [⟨1, 1⟩, ⟨1, 1⟩]
      = .ok fourRowsComposition := by decide +kernel
  have htransitions : (fourCells 12 67 51).checkTransitions fourRows.transitions = .ok () := by
    decide +kernel
  have hassertions : fourRows.assertions [(1 : Residue Modulus.small), .ofWord 51] =
      .ok [⟨0, 0, 1⟩, ⟨0, 3, .ofWord 51⟩] := rfl
  have hcheck : (fourCells 12 67 51).checkAssertions [⟨0, 0, 1⟩, ⟨0, 3, .ofWord 51⟩] = .ok () := by
    decide +kernel
  have hz : (Residue.ofWord 5 : Residue Modulus.small) ^ fourRows.length.toNat ≠ 1 := by
    decide +kernel
  exact verifyAt_of_compose Modulus.orderOf_generator_small hparameters htransitions hassertions
    hcheck hcompose hz

end Recurrence

end OutOfDomain
