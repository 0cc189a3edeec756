import OutOfDomain.Proofs.Recurrence.Rows

/-!
# Soundness

A prover whose trace breaks a constraint is turned away almost everywhere, whatever polynomial it
claims. The defect of the claim cannot vanish: on a row strictly between the ends it has, up to sign,
the weighed sum of the transition residues times the distance from the last row
(`defect_ne_zero_of_transition`), on the last row the weighed residue of its assertion times the
number of rows (`defect_ne_zero_of_lastRow`). The claim plays no part on the domain, where the factor
that it is multiplied with vanishes. So the points that are accepted are among the roots of a
polynomial of known degree.

The first row is left out for a reason. Its transition and the assertions about it have poles in the
same place, and their sum can vanish although neither does.
-/

set_option autoImplicit false

namespace OutOfDomain

open Polynomial

variable {q : Modulus}

namespace Recurrence

/-! ## Broken constraints -/

/-- On a row strictly between the ends, the weighed sum of the transition residues is not zero. -/
def TransitionBroken (r : Recurrence) (p : Parameters) (t : TraceTable q) (g : Residue q)
    (transitionWeights : List (Weight q)) : Prop :=
  ∃ k f evaluation, 1 ≤ k ∧ k ≤ r.length.toNat - 2 ∧ t.frame k = .ok f ∧
    r.transitions f = .ok evaluation ∧ p.transitionSum (g ^ k) transitionWeights evaluation ≠ 0

/-- On the last row, the weighed residue of the assertion about it is not zero. -/
def LastRowBroken (r : Recurrence) (p : Parameters) (t : TraceTable q) (g : Residue q)
    (publicInputs : List (Residue q)) (boundaryWeights : List (Weight q)) : Prop :=
  ∃ assertions weight a cell, r.assertions publicInputs = .ok assertions ∧
    (weight, a) ∈ boundaryWeights.zip assertions ∧ a.step = r.lastRow ∧
    t.Holds a.column.toNat r.lastRow.toNat cell ∧
    p.boundaryWeight (g ^ r.lastRow.toNat) weight singlePoleDegree * (cell - a.value) ≠ 0

section Domain

variable [Fact q.toNat.Prime] {r : Recurrence} {p : Parameters} {t : TraceTable q}
  {publicInputs : List (Residue q)} {assertions : List (Assertion q)}
  {transitionWeights boundaryWeights : List (Weight q)}
  (hg : orderOf (Residue.generator : Residue q) = q.toNat - 1)

include hg

theorem defect_ne_zero_of_numerator (h : r.Shaped p t) (claimed : (Residue q)[X]) {k : ℕ}
    (hk : ((r.symbolic t.interpolant assertions transitionWeights boundaryWeights).numerator p).eval
      (t.root ^ k) ≠ 0) :
    (r.symbolic t.interpolant assertions transitionWeights boundaryWeights).defect p claimed ≠ 0 := by
  intro hzero
  let s := r.symbolic t.interpolant assertions transitionWeights boundaryWeights
  have hpow : s.generator ^ p.traceLength.toNat = 1 := (h.isPrimitiveRoot_root hg).pow_eq_one
  have hrow := SymbolicInputs.eval_defect_row hpow claimed k
  rw [hzero, eval_zero] at hrow
  exact hk (neg_eq_zero.1 hrow.symm)

theorem defect_ne_zero_of_transition (h : r.Shaped p t) (hpins : r.Pins publicInputs assertions)
    (hbroken : r.TransitionBroken p t t.root transitionWeights) (claimed : (Residue q)[X]) :
    (r.symbolic t.interpolant assertions transitionWeights boundaryWeights).defect p claimed ≠ 0 := by
  obtain ⟨k, f, evaluation, hfirst, hlast, hf, hevaluate, hsum⟩ := hbroken
  have hroot := h.isPrimitiveRoot_root hg
  have htwo := p.two_le_traceLength
  have hlength : r.length.toNat = p.traceLength.toNat :=
    congrArg UInt64.toNat h.fits.traceLength
  -- No assertion is about this row.
  have hassertions : assertionSum p t.interpolant k boundaryWeights assertions = 0 := by
    apply assertionSum_eq_zero
    intro weight a ha hstep
    rcases hpins.step_eq ha with h | h <;> omega
  -- The row is not the last, so the factor for the last row is not zero.
  have hne : t.root ^ k - t.root ^ (p.traceLength.toNat - 1) ≠ 0 := by
    apply sub_ne_zero.2
    intro heq
    have := hroot.pow_inj (by omega) (by omega) heq
    omega
  refine defect_ne_zero_of_numerator hg h claimed (k := k) ?_
  rw [h.eval_numerator_row hg hpins (by omega) hf hevaluate, hassertions, add_zero]
  exact mul_ne_zero hsum hne

theorem defect_ne_zero_of_lastRow (h : r.Shaped p t)
    (hassertions : r.assertions publicInputs = .ok assertions)
    (hweights : boundaryWeights.length = assertions.length)
    (hbroken : r.LastRowBroken p t t.root publicInputs boundaryWeights)
    (claimed : (Residue q)[X]) :
    (r.symbolic t.interpolant assertions transitionWeights boundaryWeights).defect p claimed ≠ 0 := by
  obtain ⟨_, weight, a, cell, hassertions', hitem, hstep, hcell, hresidue⟩ := hbroken
  cases Except.ok.inj (hassertions.symm.trans hassertions')
  have hpins := pins_of_assertions hassertions
  have hroot := h.isPrimitiveRoot_root hg
  have hn := p.two_le_traceLength
  -- The number of rows divides that of the units, so it is not zero in the field.
  have hcount := Residue.natCast_ne_zero_of_isPrimitiveRoot (by omega) hroot
  have hunit := Residue.ne_zero_of_isPrimitiveRoot (by omega) hroot
  have hvalue := TraceInterpolant.eval_symbolicAssertion
    (t.getElem?_rowAt_of_holds hg h.dvd hcell)
  refine defect_ne_zero_of_numerator hg h claimed (k := r.lastRow.toNat) ?_
  rw [h.eval_numerator_lastRow hg hpins, hpins.assertionSum_lastRow hweights hitem hstep,
    assertionTerm, t.generator_interpolant, hvalue]
  exact mul_ne_zero hresidue (mul_ne_zero hcount (pow_ne_zero _ (pow_ne_zero _ hunit)))

/-! ## Counting the accepted points -/

/-- The points that are accepted are roots of one defect, if there are any. -/
theorem card_accepted_le_of_shaped (h : r.Shaped p t) {claimed : DensePoly q}
    (hclaimed : claimed.coefficients.length ≤ p.traceLength.toNat * p.blowup.toNat)
    (hbroken : r.TransitionBroken p t t.root transitionWeights ∨
      r.LastRowBroken p t t.root publicInputs boundaryWeights)
    (strategy : FoldStrategy) (schedule : Schedule) :
    (Finset.univ.filter fun z => Verifier.verifyAt ⟨p, strategy, schedule⟩ (r.system q) t.interpolant
      ⟨claimed, claimed.splitColumns p.traceWidth.toNat⟩ publicInputs transitionWeights
      boundaryWeights z = .ok ()).card ≤ p.maxDegree.toNat + p.traceLength.toNat := by
  have hroot := h.isPrimitiveRoot_root hg
  have hiff : ∀ z, Verifier.verifyAt ⟨p, strategy, schedule⟩ (r.system q) t.interpolant
      ⟨claimed, claimed.splitColumns p.traceWidth.toNat⟩ publicInputs transitionWeights
      boundaryWeights z = .ok () ↔ _ :=
    fun z => verifyAt_eq_ok_iff h.fits h.length_columns hroot.pow_eq_one rfl
  rcases Finset.eq_empty_or_nonempty (Finset.univ.filter fun z =>
      Verifier.verifyAt ⟨p, strategy, schedule⟩ (r.system q) t.interpolant
        ⟨claimed, claimed.splitColumns p.traceWidth.toNat⟩ publicInputs transitionWeights
        boundaryWeights z = .ok ()) with hempty | ⟨z₀, hz₀⟩
  · rw [hempty, Finset.card_empty]
    exact Nat.zero_le _
  · -- One point that is accepted shows that the sizes are right and that there are assertions.
    obtain ⟨-, happlies, assertions, hassertions, -⟩ := (hiff z₀).1 (Finset.mem_filter.1 hz₀).2
    have hpins := pins_of_assertions hassertions
    have hsize := p.toNat_maxDegree_add_one
    have hweights : boundaryWeights.length = assertions.length := by
      rw [happlies.length_boundaryWeights, hpins.length_assertions,
        toNat_assertionCount_of_fits h.fits]
    have hdegree : claimed.toPolynomial.natDegree < p.traceLength.toNat * p.blowup.toNat :=
      DensePoly.natDegree_toPolynomial_lt (by omega) hclaimed
    have hne : (r.symbolic t.interpolant assertions transitionWeights boundaryWeights).defect p
        claimed.toPolynomial ≠ 0 := by
      rcases hbroken with hbroken | hbroken
      · exact defect_ne_zero_of_transition hg h hpins hbroken _
      · exact defect_ne_zero_of_lastRow hg h hassertions hweights hbroken _
    refine SymbolicInputs.card_le_of_defect_ne_zero (h.bounded happlies) (by omega) hne
      fun z hz => ?_
    -- The assertions, and with them the defect, do not depend on the point.
    obtain ⟨-, -, assertions', hassertions', heval⟩ := (hiff z).1 (Finset.mem_filter.1 hz).2
    cases Except.ok.inj (hassertions.symm.trans hassertions')
    exact heval

/-- **Soundness.** Take a recurrence over any prime modulus whose generator generates all units, with
a length that divides their number, any trace of its shape, any public inputs and weights, and any
claimed polynomial of at most as many coefficients as the composition domain has points. The trace has
polynomials; and if, strictly between the ends, the weighed sum of the transition residues of some
row is not zero, or on the last row the weighed residue of its assertion is not zero, then the number
of points at which a check of the claim accepts is at most the highest degree plus the number of
rows. -/
theorem card_accepted_le_of_broken {blowup : UInt64}
    (hparameters : (r.system q).parameters blowup = .ok p) (hdvd : r.length.toNat ∣ q.toNat - 1)
    (hwidth : t.width = r.rule.width) (hlength : t.length = r.length.toNat)
    (publicInputs : List (Residue q)) (transitionWeights boundaryWeights : List (Weight q))
    (claimed : DensePoly q)
    (hclaimed : claimed.coefficients.length ≤ r.length.toNat * blowup.toNat) :
    ∃ g T, Residue.rootOfUnity? r.length = some g ∧ t.interpolate = .ok T ∧ T.generator = g ∧
      (r.TransitionBroken p t g transitionWeights ∨
          r.LastRowBroken p t g publicInputs boundaryWeights →
        ∀ strategy schedule,
          (Finset.univ.filter fun z => Verifier.verifyAt ⟨p, strategy, schedule⟩ (r.system q) T
            ⟨claimed, claimed.splitColumns p.traceWidth.toNat⟩ publicInputs transitionWeights
            boundaryWeights z = .ok ()).card ≤ p.maxDegree.toNat + r.length.toNat) := by
  have hfits := fits_of_parameters hparameters
  have hr : r.length = p.traceLength := hfits.traceLength
  have hblowup := blowup_of_parameters hparameters
  have htwo := r.two_le_length
  have h : r.Shaped p t :=
    ⟨hfits, hwidth, hlength.trans (congrArg UInt64.toNat hr), hlength ▸ hdvd⟩
  have hunity : Residue.rootOfUnity? r.length = some t.root :=
    Residue.rootOfUnity?_eq_some_iff.2 ⟨by omega, hdvd, by rw [TraceTable.root, hlength]⟩
  refine ⟨t.root, t.interpolant, hunity, t.interpolate_eq_ok hg h.dvd, rfl,
    fun hbroken strategy schedule => ?_⟩
  rw [hr]
  rw [hr, ← hblowup] at hclaimed
  exact card_accepted_le_of_shaped hg h hclaimed hbroken strategy schedule

end Domain

/-- A trace of four rows that goes wrong after its second row is accepted at no more than eleven of the
97 points. -/
theorem card_accepted_fourCells_le :
    ∃ T, (fourCells 12 60 51).interpolate = .ok T ∧ ∀ strategy schedule,
      (Finset.univ.filter fun z => Verifier.verifyAt ⟨fourRowsParameters, strategy, schedule⟩
        (fourRows.system Modulus.small) T ⟨⟨[1, 1]⟩, DensePoly.splitColumns ⟨[1, 1]⟩ 1⟩
        [1, .ofWord 51] [⟨.ofWord 2, .ofWord 3⟩] [⟨1, 1⟩, ⟨1, 1⟩] z = .ok ()).card ≤ 11 := by
  have hparameters : (fourRows.system Modulus.small).parameters 2 = .ok fourRowsParameters := rfl
  have hdvd : fourRows.length.toNat ∣ Modulus.small.toNat - 1 := by decide
  obtain ⟨g, T, hroot, hT, -, hle⟩ := card_accepted_le_of_broken Modulus.orderOf_generator_small
    hparameters hdvd (t := fourCells 12 60 51) rfl rfl [1, .ofWord 51] [⟨.ofWord 2, .ofWord 3⟩]
    [⟨1, 1⟩, ⟨1, 1⟩] ⟨[1, 1]⟩ (by decide)
  have hg : g = .ofWord 22 := by
    refine Option.some.inj (hroot.symm.trans ?_)
    decide +kernel
  have hbroken : fourRows.TransitionBroken fourRowsParameters (fourCells 12 60 51) g
      [⟨.ofWord 2, .ofWord 3⟩] := by
    have hframe : (fourCells 12 60 51).frame 1 =
        .ok ⟨[.ofWord 12], [.ofWord 60], by decide, by decide⟩ := by decide +kernel
    refine ⟨1, _, ⟨[.ofWord 90], [3]⟩, le_rfl, by decide, hframe, by decide +kernel, ?_⟩
    rw [hg]
    decide +kernel
  exact ⟨T, hT, hle (.inl hbroken)⟩

end Recurrence

end OutOfDomain
