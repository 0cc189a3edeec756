import OutOfDomain.Proofs.Check.Defect
import OutOfDomain.Proofs.Recurrence.Run
import OutOfDomain.Proofs.Trace.Interpolant

/-!
# A recurrence and the polynomials of a trace

`Recurrence.symbolic` are the inputs of a check of a recurrence before a point is chosen. Evaluated
on the frame of trace polynomials at a point, the system returns just their values there
(`transitions_frameAt`, `evaluateAll_frameAt`), so a check of the frame is a check of symbolic inputs
(`verifySystem_eq_ok_iff_verify`). The degrees that the system declares are true
(`bounded_symbolic`).

Which assertions public inputs imply depends on the rule, but what matters about them does not: the
last one is about the last row, all others are about the first (`Recurrence.Pins`).
-/

set_option autoImplicit false

namespace OutOfDomain

open Polynomial

variable {q : Modulus}

/-! ## Assertions on a frame -/

/-- An assertion on a frame. A column that is not there counts as zero. -/
def Assertion.on (f : Frame q) (a : Assertion q) : AssertionEvaluation q :=
  ⟨f.current.getD a.column.toNat 0 - a.value, singlePoleDegree, a.step⟩

theorem Assertion.evaluateAll_eq_ok {assertions : List (Assertion q)} {f : Frame q}
    (h : ∀ a ∈ assertions, a.column.toNat < f.width) :
    Assertion.evaluateAll assertions f = .ok ⟨assertions.map (·.on f)⟩ := by
  unfold Assertion.evaluateAll
  refine bind_eq_ok_iff.2 ⟨_, mapM_eq_ok_iff.2 ?_, rfl⟩
  rw [List.forall₂_map_right_iff, List.forall₂_same]
  intro a ha
  have hcell : f.current[a.column.toNat]? = some (f.current.getD a.column.toNat 0) := by
    rw [List.getD_eq_getElem _ _ (h a ha)]
    exact List.getElem?_eq_getElem (h a ha)
  have hresidue : a.residue f = .ok (f.current.getD a.column.toNat 0 - a.value) := by
    unfold Assertion.residue
    rw [hcell]
  exact bind_eq_ok_iff.2 ⟨_, hresidue, rfl⟩

namespace TraceInterpolant

variable {T : TraceInterpolant q} {z : Residue q}

/-! ## Polynomials of columns -/

theorem map_eval_columns (T : TraceInterpolant q) (z : Residue q) :
    (T.columns.map DensePoly.toPolynomial).map (·.eval z) = T.rowAt z := by
  rw [List.map_map]
  exact List.map_congr_left fun P _ => P.eval_toPolynomial z

/-- An assertion as a polynomial: what its column has, less the asserted value. -/
noncomputable def symbolicAssertion (T : TraceInterpolant q) (a : Assertion q) :
    SymbolicAssertion q :=
  ⟨(T.columns.map DensePoly.toPolynomial).getD a.column.toNat 0 - C a.value, a.step⟩

theorem eval_symbolicAssertion {a : Assertion q} {cell : Residue q}
    (h : (T.rowAt z)[a.column.toNat]? = some cell) :
    (T.symbolicAssertion a).residue.eval z = cell - a.value := by
  rw [← map_eval_columns, List.getElem?_map, Option.map_eq_some_iff] at h
  obtain ⟨P, hP, rfl⟩ := h
  rw [symbolicAssertion, List.getD_eq_getElem?_getD, hP, Option.getD_some, eval_sub, eval_C]

/-! ## Degrees of columns -/

theorem natDegree_columns_le {n : ℕ} (hn : 0 < n)
    (hcoefficients : ∀ P ∈ T.columns, P.coefficients.length = n) :
    ∀ P ∈ T.columns.map DensePoly.toPolynomial, P.natDegree ≤ n - 1 := by
  intro P hP
  obtain ⟨column, hmem, rfl⟩ := List.mem_map.1 hP
  exact Nat.le_sub_one_of_lt (DensePoly.natDegree_toPolynomial_lt hn (hcoefficients column hmem).le)

theorem natDegree_symbolicAssertion_le {d : ℕ}
    (h : ∀ P ∈ T.columns.map DensePoly.toPolynomial, P.natDegree ≤ d) (a : Assertion q) :
    (T.symbolicAssertion a).residue.natDegree ≤ d := by
  rw [symbolicAssertion, natDegree_sub_C]
  by_cases hin : a.column.toNat < (T.columns.map DensePoly.toPolynomial).length
  · rw [List.getD_eq_getElem _ _ hin]
    exact h _ (List.getElem_mem hin)
  · -- A column that is not there counts as zero.
    rw [List.getD_eq_default _ _ (Nat.le_of_not_lt hin), natDegree_zero]
    exact Nat.zero_le _

end TraceInterpolant

namespace Recurrence

variable {r : Recurrence}

/-! ## Parameters -/

theorem fits_of_parameters {blowup : UInt64} {p : Parameters}
    (h : (r.system q).parameters blowup = .ok p) : (r.system q).layout.Fits p := by
  unfold ConstraintSystem.parameters Draft.validate at h
  split at h
  · cases h
  · cases h
    exact ⟨rfl, rfl, rfl, rfl⟩

theorem blowup_of_parameters {blowup : UInt64} {p : Parameters}
    (h : (r.system q).parameters blowup = .ok p) : p.blowup = blowup := by
  unfold ConstraintSystem.parameters Draft.validate at h
  split at h
  · cases h
  · cases h
    rfl

theorem toNat_traceLength_of_fits {p : Parameters} (h : (r.system q).layout.Fits p) :
    p.traceLength.toNat = r.length.toNat :=
  congrArg UInt64.toNat h.traceLength.symm

theorem toNat_traceWidth_of_fits {p : Parameters} (h : (r.system q).layout.Fits p) :
    p.traceWidth.toNat = r.rule.width := by
  rw [← h.traceWidth]
  change r.rule.width.toUInt64.toNat = _
  cases r.rule <;> rfl

theorem toNat_assertionCount_of_fits {p : Parameters} (h : (r.system q).layout.Fits p) :
    p.assertionCount.toNat = r.rule.assertionCount := by
  rw [← h.assertionCount]
  change r.rule.assertionCount.toUInt64.toNat = _
  cases r.rule <;> rfl

theorem toNat_publicInputCount_of_fits {p : Parameters} (h : (r.system q).layout.Fits p) :
    p.publicInputCount.toNat = r.rule.publicInputCount := by
  rw [← h.publicInputCount]
  change r.rule.publicInputCount.toUInt64.toNat = _
  cases r.rule <;> rfl

/-! ## Assertions -/

/-- Assertions that pin a trace at its ends. -/
structure Pins (r : Recurrence) (publicInputs : List (Residue q)) (assertions : List (Assertion q)) :
    Prop where
  length_publicInputs : publicInputs.length = r.rule.publicInputCount
  length_assertions : assertions.length = r.rule.assertionCount
  column_lt : ∀ a ∈ assertions, a.column.toNat < r.rule.width
  ends : ∃ firsts last, assertions = firsts ++ [last] ∧ (∀ a ∈ firsts, a.step = 0) ∧
    last.step = r.lastRow

theorem pins_of_assertions {publicInputs : List (Residue q)} {assertions : List (Assertion q)}
    (h : r.assertions publicInputs = .ok assertions) : r.Pins publicInputs assertions := by
  -- Another number of public inputs implies no assertions, so `h` leaves no such case.
  obtain ⟨rule, length, _, _⟩ := r
  cases rule with
  | affine | cubic =>
    match publicInputs, h with
    | [first, last], h =>
      cases h
      exact ⟨rfl, rfl, by simp [Rule.width], [⟨0, 0, first⟩], _, rfl, by simp, rfl⟩
  | fibonacci =>
    match publicInputs, h with
    | [result], h =>
      cases h
      exact ⟨rfl, rfl, by simp [Rule.width], [⟨0, 0, 1⟩, ⟨1, 0, 1⟩], _, rfl, by simp, rfl⟩

namespace Pins

variable {publicInputs : List (Residue q)} {assertions : List (Assertion q)}

theorem step_eq (h : r.Pins publicInputs assertions) {a : Assertion q} (ha : a ∈ assertions) :
    a.step.toNat = 0 ∨ a.step.toNat = r.length.toNat - 1 := by
  obtain ⟨firsts, last, rfl, hfirsts, hlast⟩ := h.ends
  rcases List.mem_append.1 ha with ha | ha
  · rw [hfirsts a ha]
    exact .inl rfl
  · rw [List.mem_singleton.1 ha, hlast, toNat_lastRow]
    exact .inr rfl

theorem step_lt (h : r.Pins publicInputs assertions) {a : Assertion q} (ha : a ∈ assertions) :
    a.step.toNat < r.length.toNat := by
  have htwo := r.two_le_length
  rcases h.step_eq ha with h | h <;> omega

end Pins

/-! ## Symbolic inputs -/

/-- The inputs of a check of a recurrence, as polynomials. -/
noncomputable def symbolic (r : Recurrence) (T : TraceInterpolant q)
    (assertions : List (Assertion q)) (transitionWeights boundaryWeights : List (Weight q)) :
    SymbolicInputs q where
  generator := T.generator
  transitionWeights
  boundaryWeights
  residues := r.rule.residuePolynomials T.generator (T.columns.map DensePoly.toPolynomial)
  degrees := List.replicate r.rule.width (r.rule.degree * r.lastRow)
  assertions := assertions.map T.symbolicAssertion

section Symbolic

variable {T : TraceInterpolant q} {assertions : List (Assertion q)}
  {transitionWeights boundaryWeights : List (Weight q)} {z : Residue q} {f : Frame q}

theorem transitions_frameAt (hwidth : T.columns.length = r.rule.width) (hf : T.frameAt z = .ok f) :
    r.transitions f =
      .ok ((r.symbolic T assertions transitionWeights boundaryWeights).transitionAt z) := by
  obtain ⟨hcurrent, hnext⟩ := TraceInterpolant.frameAt_eq_ok_iff.1 hf
  have hframe : f.width = r.rule.width := by
    rw [Frame.width, hcurrent, TraceInterpolant.length_rowAt, hwidth]
  have hresidues : List.zipWith (· - ·) f.next (r.rule.next f.current) =
      (r.rule.residuePolynomials T.generator
        (T.columns.map DensePoly.toPolynomial)).map (·.eval z) := by
    rw [Rule.map_eval_residuePolynomials, TraceInterpolant.map_eval_columns,
      TraceInterpolant.map_eval_columns, hcurrent, hnext]
  rw [transitions_eq_ok hframe, transitionOn, hresidues]
  rfl

theorem evaluateAll_frameAt (hcolumns : ∀ a ∈ assertions, a.column.toNat < T.columns.length)
    (hf : T.frameAt z = .ok f) :
    Assertion.evaluateAll assertions f =
      .ok ((r.symbolic T assertions transitionWeights boundaryWeights).boundaryAt z) := by
  obtain ⟨hcurrent, -⟩ := TraceInterpolant.frameAt_eq_ok_iff.1 hf
  have hwidth : f.width = T.columns.length := by
    rw [Frame.width, hcurrent, TraceInterpolant.length_rowAt]
  rw [Assertion.evaluateAll_eq_ok (hwidth ▸ hcolumns), SymbolicInputs.boundaryAt, symbolic,
    List.map_map]
  refine congrArg (Except.ok ∘ BoundaryEvaluation.mk) (List.map_congr_left fun a ha => ?_)
  have hlt : a.column.toNat < (T.rowAt z).length := by
    rw [TraceInterpolant.length_rowAt]
    exact hcolumns a ha
  have hcell := List.getElem?_eq_getElem hlt
  rw [Function.comp_apply, TraceInterpolant.eval_symbolicAssertion hcell, Assertion.on, hcurrent,
    List.getD_eq_getElem _ _ hlt]
  rfl

/-- The two evaluators return the values of symbolic inputs, and fail only where the public inputs
imply no assertions. -/
theorem constraints_frameAt_eq_ok_iff {publicInputs : List (Residue q)}
    {transition : TransitionEvaluation q} {boundary : BoundaryEvaluation q}
    (transitionWeights boundaryWeights : List (Weight q))
    (hwidth : T.columns.length = r.rule.width) (hf : T.frameAt z = .ok f) :
    r.transitions f = .ok transition ∧ r.boundaries f publicInputs = .ok boundary ↔
      ∃ assertions, r.assertions publicInputs = .ok assertions ∧
        transition = (r.symbolic T assertions transitionWeights boundaryWeights).transitionAt z ∧
        boundary = (r.symbolic T assertions transitionWeights boundaryWeights).boundaryAt z := by
  have hcolumns : ∀ assertions, r.assertions publicInputs = .ok assertions →
      ∀ a ∈ assertions, a.column.toNat < T.columns.length := fun _ h =>
    hwidth ▸ (pins_of_assertions h).column_lt
  constructor
  · rintro ⟨htransition, hboundary⟩
    obtain ⟨assertions, hassertions, hevaluate⟩ := bind_eq_ok_iff.1 hboundary
    refine ⟨assertions, hassertions, ?_, ?_⟩
    · rw [transitions_frameAt hwidth hf] at htransition
      exact (Except.ok.inj htransition).symm
    · rw [evaluateAll_frameAt (hcolumns _ hassertions) hf] at hevaluate
      exact (Except.ok.inj hevaluate).symm
  · rintro ⟨assertions, hassertions, rfl, rfl⟩
    exact ⟨transitions_frameAt hwidth hf,
      bind_eq_ok_iff.2 ⟨assertions, hassertions, evaluateAll_frameAt (hcolumns _ hassertions) hf⟩⟩

theorem bounded_symbolic [Fact q.toNat.Prime] {p : Parameters}
    (hlength : p.traceLength = r.length) (hdvd : r.length.toNat ∣ q.toNat - 1)
    (hwidth : T.columns.length = r.rule.width)
    (hcoefficients : ∀ P ∈ T.columns, P.coefficients.length = r.length.toNat)
    (hdegree : (r.rule.degree * r.lastRow).toNat ≤ p.maxDegree.toNat) :
    (r.symbolic T assertions transitionWeights boundaryWeights).Bounded p := by
  have htwo := r.two_le_length
  have hcolumn := TraceInterpolant.natDegree_columns_le (by omega) hcoefficients
  constructor
  · refine List.forall₂_iff_zip.2 ⟨?_, fun {P degree} hitem => ?_⟩
    · rw [symbolic, Rule.length_residuePolynomials, List.length_map, hwidth, List.length_replicate]
    · obtain ⟨hP, hmem⟩ := List.of_mem_zip hitem
      rw [List.eq_of_mem_replicate hmem, r.toNat_declaredDegree hdvd]
      exact Rule.natDegree_residuePolynomials_le hcolumn r.rule T.generator P hP
  · intro degree hmem
    rw [List.eq_of_mem_replicate hmem]
    exact hdegree
  · intro a ha
    obtain ⟨assertion, -, rfl⟩ := List.mem_map.1 ha
    rw [hlength]
    exact TraceInterpolant.natDegree_symbolicAssertion_le hcolumn assertion

/-- A check of the frame at a point is a check of symbolic inputs at the point. -/
theorem verifySystem_eq_ok_iff_verify {v : Verifier} {publicInputs channel : List (Residue q)}
    (hfits : (r.system q).layout.Fits v.parameters) (hwidth : T.columns.length = r.rule.width)
    (hf : T.frameAt z = .ok f) :
    v.verifySystem (r.system q)
        { z, generator := T.generator, frame := f, publicInputs, transitionWeights,
          boundaryWeights, channel } = .ok () ↔
      ∃ assertions, r.assertions publicInputs = .ok assertions ∧
        v.verify ((r.symbolic T assertions transitionWeights boundaryWeights).evaluateAt z channel)
          = .ok () := by
  obtain ⟨hcurrent, -⟩ := TraceInterpolant.frameAt_eq_ok_iff.1 hf
  have hframe : f.width = v.parameters.traceWidth.toNat := by
    rw [Frame.width, hcurrent, TraceInterpolant.length_rowAt, hwidth,
      toNat_traceWidth_of_fits hfits]
  rw [Verifier.verifySystem_eq_ok_iff]
  constructor
  · rintro ⟨-, -, -, transition, boundary, htransition, hboundary, hverify⟩
    obtain ⟨assertions, hassertions, rfl, rfl⟩ :=
      (constraints_frameAt_eq_ok_iff transitionWeights boundaryWeights hwidth hf).1
        ⟨htransition, hboundary⟩
    exact ⟨assertions, hassertions, hverify⟩
  · rintro ⟨assertions, hassertions, hverify⟩
    have hinputs : publicInputs.length = v.parameters.publicInputCount.toNat := by
      rw [toNat_publicInputCount_of_fits hfits]
      exact (pins_of_assertions hassertions).length_publicInputs
    obtain ⟨htransition, hboundary⟩ :=
      (constraints_frameAt_eq_ok_iff transitionWeights boundaryWeights hwidth hf).2
        ⟨assertions, hassertions, rfl, rfl⟩
    exact ⟨hfits, hframe, hinputs, _, _, htransition, hboundary, hverify⟩

end Symbolic

end Recurrence

end OutOfDomain
