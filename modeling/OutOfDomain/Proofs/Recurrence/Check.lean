import OutOfDomain.Proofs.Composition
import OutOfDomain.Proofs.Recurrence.System

/-!
# A check of a recurrence looks for a root

Off the trace domain, a check of a claimed composition against trace polynomials accepts exactly the
roots of the defect (`Recurrence.verifyAt_eq_ok_iff`); on the domain it accepts nothing. All that has
to be said besides is the same for every point: the weights are as many as they should be, and the
declared degree is in range (`Recurrence.Applies`).

The prover's side has the same description. Where a value can be composed at all, it is the value of
the constraints (`Recurrence.valueAt_eq_ok_iff`), so a polynomial that takes the composed value at a
point has a root of its defect there.
-/

set_option autoImplicit false

namespace OutOfDomain

open Polynomial

variable {q : Modulus}

namespace Recurrence

/-- The weights fit the parameters, and the declared degree is in range. -/
structure Applies (r : Recurrence) (p : Parameters)
    (transitionWeights boundaryWeights : List (Weight q)) : Prop where
  length_transitionWeights : transitionWeights.length = p.traceWidth.toNat
  length_boundaryWeights : boundaryWeights.length = p.assertionCount.toNat
  degree_le : (r.rule.degree * r.lastRow).toNat ≤ p.maxDegree.toNat

variable {r : Recurrence} {p : Parameters} {T : TraceInterpolant q}
  {publicInputs channel : List (Residue q)} {assertions : List (Assertion q)}
  {transitionWeights boundaryWeights : List (Weight q)} {z : Residue q}

/-! ## Sizes and ranges -/

theorem sized_symbolic_iff (hfits : (r.system q).layout.Fits p)
    (hwidth : T.columns.length = r.rule.width) (hpins : r.Pins publicInputs assertions) :
    ((r.symbolic T assertions transitionWeights boundaryWeights).evaluateAt z channel).Sized p ↔
      transitionWeights.length = p.traceWidth.toNat ∧
        boundaryWeights.length = p.assertionCount.toNat := by
  have hcolumns := toNat_traceWidth_of_fits hfits
  constructor
  · intro h
    exact ⟨h.length_transitionWeights, h.length_boundaryWeights⟩
  · rintro ⟨htransition, hboundary⟩
    refine ⟨?_, ?_, htransition, ?_, hboundary⟩
    · change ((r.rule.residuePolynomials _ _).map _).length = _
      rw [List.length_map, Rule.length_residuePolynomials, List.length_map, hwidth, hcolumns]
    · change (List.replicate r.rule.width _).length = _
      rw [List.length_replicate, hcolumns]
    · change ((assertions.map _).map _).length = _
      rw [List.length_map, List.length_map, hpins.length_assertions,
        toNat_assertionCount_of_fits hfits]

theorem regular_symbolic_iff (hfits : (r.system q).layout.Fits p)
    (hgenerator : T.generator ^ p.traceLength.toNat = 1)
    (hpins : r.Pins publicInputs assertions) :
    ((r.symbolic T assertions transitionWeights boundaryWeights).evaluateAt z channel).Regular p ↔
      z ^ p.traceLength.toNat ≠ 1 ∧ (r.rule.degree * r.lastRow).toNat ≤ p.maxDegree.toNat := by
  have htwo := p.two_le_traceLength
  have hlength : r.length = p.traceLength := hfits.traceLength
  constructor
  · intro h
    refine ⟨h.pow_ne_one, h.degree_le _ ?_⟩
    exact List.mem_replicate.2 ⟨r.rule.width_pos.ne', rfl⟩
  · rintro ⟨hz, hdegree⟩
    -- All rows are in the domain, so a point off it is none of them.
    have hrow : ∀ i : ℕ, z ≠ T.generator ^ i := by
      rintro i rfl
      exact hz (by rw [pow_right_comm, hgenerator, one_pow])
    refine ⟨hz, hrow _, ?_, ?_, ?_, fun a _ => hrow a.step.toNat⟩
    · intro degree hmem
      rw [List.eq_of_mem_replicate hmem]
      exact hdegree
    · intro a ha
      obtain ⟨_, -, rfl⟩ := List.mem_map.1 ha
      change 1 ≤ _
      omega
    · intro a ha
      obtain ⟨_, hsymbolic, rfl⟩ := List.mem_map.1 ha
      obtain ⟨assertion, hassertion, rfl⟩ := List.mem_map.1 hsymbolic
      rw [← hlength]
      exact hpins.step_lt hassertion

theorem sized_and_regular_symbolic_iff (hfits : (r.system q).layout.Fits p)
    (hwidth : T.columns.length = r.rule.width)
    (hgenerator : T.generator ^ p.traceLength.toNat = 1)
    (hpins : r.Pins publicInputs assertions) :
    ((r.symbolic T assertions transitionWeights boundaryWeights).evaluateAt z channel).Sized p ∧
      ((r.symbolic T assertions transitionWeights boundaryWeights).evaluateAt z channel).Regular p ↔
      z ^ p.traceLength.toNat ≠ 1 ∧ r.Applies p transitionWeights boundaryWeights := by
  rw [sized_symbolic_iff hfits hwidth hpins, regular_symbolic_iff hfits hgenerator hpins]
  constructor
  · rintro ⟨⟨htransition, hboundary⟩, hz, hdegree⟩
    exact ⟨hz, htransition, hboundary, hdegree⟩
  · rintro ⟨hz, htransition, hboundary, hdegree⟩
    exact ⟨⟨htransition, hboundary⟩, hz, hdegree⟩

theorem columns_ne_nil (hwidth : T.columns.length = r.rule.width) : T.columns ≠ [] :=
  List.ne_nil_of_length_pos (hwidth ▸ r.rule.width_pos)

/-! ## Roots -/

section Prime

variable [Fact q.toNat.Prime]

theorem valueAt_eq_ok_iff (hfits : (r.system q).layout.Fits p)
    (hwidth : T.columns.length = r.rule.width)
    (hgenerator : T.generator ^ p.traceLength.toNat = 1) {value : Residue q} :
    Composition.valueAt p (r.system q) T publicInputs transitionWeights boundaryWeights z
        = .ok value ↔
      z ^ p.traceLength.toNat ≠ 1 ∧ r.Applies p transitionWeights boundaryWeights ∧
        ∃ assertions, r.assertions publicInputs = .ok assertions ∧
          value = ((r.symbolic T assertions transitionWeights boundaryWeights).evaluateAt z
            []).constraintValue p := by
  -- A fold does not look at the channel, so any channel will do.
  have hfolds : ∀ (assertions : List (Assertion q)) (a : Accumulation q),
      Verifier.evaluateConstraints { parameters := p }
          ((r.symbolic T assertions transitionWeights boundaryWeights).evaluateAt z []) = .ok a ↔
        ((r.symbolic T assertions transitionWeights boundaryWeights).evaluateAt z []).FoldsTo p a :=
    fun _ _ => Verifier.evaluateConstraints_eq_ok_iff
  rw [Composition.valueAt_eq_ok_iff]
  constructor
  · rintro ⟨f, transition, boundary, h, a, ha, rfl⟩
    obtain ⟨assertions, hassertions, rfl, rfl⟩ :=
      (constraints_frameAt_eq_ok_iff transitionWeights boundaryWeights hwidth h.frame).1
        ⟨h.transitions, h.boundaries⟩
    obtain ⟨hsized, hregular, rfl⟩ := EvaluatedInputs.foldsTo_iff.1
      ((hfolds assertions a).1 ha)
    obtain ⟨hz, happlies⟩ := (sized_and_regular_symbolic_iff hfits hwidth hgenerator
      (pins_of_assertions hassertions)).1 ⟨hsized, hregular⟩
    exact ⟨hz, happlies, assertions, hassertions, rfl⟩
  · rintro ⟨hz, happlies, assertions, hassertions, rfl⟩
    obtain ⟨f, hf⟩ := TraceInterpolant.exists_frameAt (columns_ne_nil hwidth) z
    obtain ⟨htransition, hboundary⟩ :=
      (constraints_frameAt_eq_ok_iff transitionWeights boundaryWeights hwidth hf).2
        ⟨assertions, hassertions, rfl, rfl⟩
    obtain ⟨hsized, hregular⟩ := (sized_and_regular_symbolic_iff hfits hwidth hgenerator
      (pins_of_assertions hassertions)).2 ⟨hz, happlies⟩
    exact ⟨f, _, _, ⟨hf, htransition, hboundary⟩, _,
      (hfolds assertions _).2 (EvaluatedInputs.foldsTo_iff.2 ⟨hsized, hregular, rfl⟩), rfl⟩

/-- For given assertions, the equation of the check is one about the defect. -/
theorem verify_symbolic_eq_ok_iff {v : Verifier} {c : Composition q}
    (hfits : (r.system q).layout.Fits v.parameters) (hwidth : T.columns.length = r.rule.width)
    (hgenerator : T.generator ^ v.parameters.traceLength.toNat = 1)
    (hcolumns : c.columns = c.polynomial.splitColumns v.parameters.traceWidth.toNat)
    (hpins : r.Pins publicInputs assertions) :
    v.verify ((r.symbolic T assertions transitionWeights boundaryWeights).evaluateAt z
        (c.channel z)) = .ok () ↔
      (z ^ v.parameters.traceLength.toNat ≠ 1 ∧
        r.Applies v.parameters transitionWeights boundaryWeights) ∧
      ((r.symbolic T assertions transitionWeights boundaryWeights).defect v.parameters
        c.polynomial.toPolynomial).eval z = 0 := by
  let s := r.symbolic T assertions transitionWeights boundaryWeights
  obtain ⟨hlength, hchannel⟩ :=
    Composition.combineChannel_channel v.parameters.one_le_traceWidth hcolumns z
  have hvalue : (s.evaluateAt z (c.channel z)).channelValue = c.polynomial.toPolynomial.eval z := by
    rw [DensePoly.eval_toPolynomial]
    exact (combineChannel_eq_sum _ _).symm.trans hchannel
  have hrange : (s.evaluateAt z (c.channel z)).Sized v.parameters ∧
      (s.evaluateAt z (c.channel z)).Regular v.parameters ↔
        z ^ v.parameters.traceLength.toNat ≠ 1 ∧
          r.Applies v.parameters transitionWeights boundaryWeights :=
    sized_and_regular_symbolic_iff hfits hwidth hgenerator hpins
  rw [Verifier.verify_eq_ok_iff, hvalue]
  constructor
  · rintro ⟨-, hsized, hregular, h⟩
    obtain ⟨hz, happlies⟩ := hrange.1 ⟨hsized, hregular⟩
    exact ⟨⟨hz, happlies⟩, (SymbolicInputs.eval_defect_eq_zero_iff hgenerator hz _).2 h⟩
  · rintro ⟨⟨hz, happlies⟩, h⟩
    obtain ⟨hsized, hregular⟩ := hrange.2 ⟨hz, happlies⟩
    exact ⟨hlength, hsized, hregular,
      (SymbolicInputs.eval_defect_eq_zero_iff hgenerator hz _).1 h⟩

/-- A check of a claimed composition accepts exactly the roots of its defect off the domain. -/
theorem verifyAt_eq_ok_iff {v : Verifier} {c : Composition q}
    (hfits : (r.system q).layout.Fits v.parameters) (hwidth : T.columns.length = r.rule.width)
    (hgenerator : T.generator ^ v.parameters.traceLength.toNat = 1)
    (hcolumns : c.columns = c.polynomial.splitColumns v.parameters.traceWidth.toNat) :
    v.verifyAt (r.system q) T c publicInputs transitionWeights boundaryWeights z = .ok () ↔
      z ^ v.parameters.traceLength.toNat ≠ 1 ∧
        r.Applies v.parameters transitionWeights boundaryWeights ∧
        ∃ assertions, r.assertions publicInputs = .ok assertions ∧
          ((r.symbolic T assertions transitionWeights boundaryWeights).defect v.parameters
            c.polynomial.toPolynomial).eval z = 0 := by
  unfold Verifier.verifyAt
  simp only [bind_eq_ok_iff, ofConstraint_eq_ok_iff]
  constructor
  · rintro ⟨f, hf, h⟩
    obtain ⟨assertions, hassertions, h⟩ :=
      (verifySystem_eq_ok_iff_verify hfits hwidth hf).1 h
    obtain ⟨⟨hz, happlies⟩, hroot⟩ := (verify_symbolic_eq_ok_iff hfits hwidth hgenerator hcolumns
      (pins_of_assertions hassertions)).1 h
    exact ⟨hz, happlies, assertions, hassertions, hroot⟩
  · rintro ⟨hz, happlies, assertions, hassertions, hroot⟩
    obtain ⟨f, hf⟩ := TraceInterpolant.exists_frameAt (columns_ne_nil hwidth) z
    have h := (verify_symbolic_eq_ok_iff hfits hwidth hgenerator hcolumns
      (pins_of_assertions hassertions)).2 ⟨⟨hz, happlies⟩, hroot⟩
    exact ⟨f, hf, (verifySystem_eq_ok_iff_verify hfits hwidth hf).2 ⟨assertions, hassertions, h⟩⟩

end Prime

end Recurrence

end OutOfDomain
