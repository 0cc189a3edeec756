import OutOfDomain.Proofs.Recurrence.Rows

/-!
# The degrees that a recurrence declares

The degree of a column is a product of two words beside the code that computes its residue, and
nothing in the check compares the two. If a degree were declared too small, the residue would be lifted
too far, and the composition polynomial of a valid trace would have a degree that the channel cannot
carry.

Whatever trace of its shape a recurrence is evaluated on, valid or not, each transition residue is the
value of a formal polynomial, built from the polynomials of the trace at `x` and at `x` times the
generator of the domain, and its degree is at most the declared one (`TransitionsInterpolated`). On the
domain it takes the values that the rows of the trace give, the last row wrapping around to the first.
The residues of the assertions are the trace polynomials themselves, less a constant
(`BoundariesInterpolated`).
-/

set_option autoImplicit false

namespace OutOfDomain

open Polynomial

variable {q : Modulus}

namespace Recurrence

/-- The transition residues are the values of some polynomials, at every point and on every row, and
the declared degrees bound those of the polynomials. -/
structure TransitionsInterpolated (r : Recurrence) (t : TraceTable q) (T : TraceInterpolant q)
    (residues : List (Residue q)[X]) (degree : UInt64) : Prop where
  length_residues : residues.length = r.rule.width
  natDegree_le : ∀ R ∈ residues, R.natDegree ≤ degree.toNat
  at_point : ∀ x, ∃ f, T.frameAt x = .ok f ∧
    r.transitions f = .ok ⟨residues.map (·.eval x), List.replicate r.rule.width degree⟩
  at_row : ∀ k < t.length, ∃ f, t.frame k = .ok f ∧
    r.transitions f =
      .ok ⟨residues.map (·.eval (T.generator ^ k)), List.replicate r.rule.width degree⟩

/-- The residues of the assertions that public inputs imply are the values of polynomials of the
degree of the trace, and each vanishes on the row of its assertion exactly if that holds. -/
structure BoundariesInterpolated (r : Recurrence) (t : TraceTable q) (T : TraceInterpolant q)
    (publicInputs : List (Residue q)) (assertions : List (Assertion q)) : Prop where
  assertions_eq : r.assertions publicInputs = .ok assertions
  natDegree_le : ∀ a ∈ assertions, (T.symbolicAssertion a).residue.natDegree ≤ r.length.toNat - 1
  at_point : ∀ x, ∃ f, T.frameAt x = .ok f ∧
    r.boundaries f publicInputs =
      .ok ⟨assertions.map fun a => ⟨(T.symbolicAssertion a).residue.eval x, singlePoleDegree, a.step⟩⟩
  at_row : ∀ a ∈ assertions,
    (T.symbolicAssertion a).residue.eval (T.generator ^ a.step.toNat) = 0 ↔
      t.Holds a.column.toNat a.step.toNat a.value

section Domain

variable [Fact q.toNat.Prime] {r : Recurrence} {t : TraceTable q} {publicInputs : List (Residue q)}

theorem natDegree_columns_interpolant_le :
    ∀ P ∈ t.interpolant.columns.map DensePoly.toPolynomial, P.natDegree ≤ t.length - 1 :=
  TraceInterpolant.natDegree_columns_le (Nat.pos_of_ne_zero t.length_ne_zero)
    fun _ hP => t.length_coefficients_interpolant hP

theorem transitions_interpolant (hwidth : t.width = r.rule.width) {x : Residue q} {f : Frame q}
    (hf : t.interpolant.frameAt x = .ok f) :
    r.transitions f =
      .ok ⟨(r.rule.residuePolynomials t.interpolant.generator
        (t.interpolant.columns.map DensePoly.toPolynomial)).map (·.eval x),
          List.replicate r.rule.width (r.rule.degree * r.lastRow)⟩ := by
  have h : r.transitions f = .ok ((r.symbolic t.interpolant [] [] []).transitionAt x) :=
    transitions_frameAt (t.length_columns_interpolant.trans hwidth) hf
  exact h

theorem boundaries_interpolant (hwidth : t.width = r.rule.width) {assertions : List (Assertion q)}
    (hassertions : r.assertions publicInputs = .ok assertions) {x : Residue q} {f : Frame q}
    (hf : t.interpolant.frameAt x = .ok f) :
    r.boundaries f publicInputs =
      .ok ⟨assertions.map fun a =>
        ⟨(t.interpolant.symbolicAssertion a).residue.eval x, singlePoleDegree, a.step⟩⟩ := by
  have hcolumns : ∀ a ∈ assertions, a.column.toNat < t.interpolant.columns.length := by
    rw [t.length_columns_interpolant, hwidth]
    exact (pins_of_assertions hassertions).column_lt
  have h : Assertion.evaluateAll assertions f =
      .ok ((r.symbolic t.interpolant assertions [] []).boundaryAt x) :=
    evaluateAll_frameAt hcolumns hf
  refine bind_eq_ok_iff.2 ⟨_, hassertions, h.trans ?_⟩
  rw [SymbolicInputs.boundaryAt, symbolic, List.map_map]
  rfl

variable (hg : orderOf (Residue.generator : Residue q) = q.toNat - 1)
  (hdvd : t.length ∣ q.toNat - 1)

include hg hdvd

theorem eval_symbolicAssertion_row_eq_zero_iff {a : Assertion q} (hcolumn : a.column.toNat < t.width)
    (hstep : a.step.toNat < t.length) :
    (t.interpolant.symbolicAssertion a).residue.eval (t.root ^ a.step.toNat) = 0 ↔
      t.Holds a.column.toNat a.step.toNat a.value := by
  have hlt : a.column.toNat < (t.interpolant.rowAt (t.root ^ a.step.toNat)).length := by
    rwa [TraceInterpolant.length_rowAt, TraceTable.length_columns_interpolant]
  have hcell := List.getElem?_eq_getElem hlt
  rw [t.holds_iff_getElem?_rowAt hg hdvd hstep, hcell, Option.some_inj,
    TraceInterpolant.eval_symbolicAssertion hcell, sub_eq_zero]

variable (hwidth : t.width = r.rule.width) (hlength : t.length = r.length.toNat)

include hwidth hlength

theorem transitionsInterpolated :
    r.TransitionsInterpolated t t.interpolant
      (r.rule.residuePolynomials t.interpolant.generator
        (t.interpolant.columns.map DensePoly.toPolynomial))
      (r.rule.degree * r.lastRow) where
  length_residues := by
    rw [Rule.length_residuePolynomials, List.length_map, t.length_columns_interpolant, hwidth]
  natDegree_le := by
    rw [r.toNat_declaredDegree (hlength ▸ hdvd), ← hlength]
    exact Rule.natDegree_residuePolynomials_le natDegree_columns_interpolant_le r.rule _
  at_point := by
    intro x
    obtain ⟨f, hf⟩ := t.exists_frameAt_interpolant x
    exact ⟨f, hf, transitions_interpolant hwidth hf⟩
  at_row := by
    intro k hk
    obtain ⟨f, hf⟩ := t.exists_frameAt_interpolant (t.root ^ k)
    exact ⟨f, t.frameAt_root_pow hg hdvd hk ▸ hf, transitions_interpolant hwidth hf⟩

theorem boundariesInterpolated {assertions : List (Assertion q)}
    (hassertions : r.assertions publicInputs = .ok assertions) :
    r.BoundariesInterpolated t t.interpolant publicInputs assertions := by
  have hpins := pins_of_assertions hassertions
  refine ⟨hassertions, fun a _ => ?_, fun x => ?_, fun a ha => ?_⟩
  · rw [← hlength]
    exact TraceInterpolant.natDegree_symbolicAssertion_le natDegree_columns_interpolant_le a
  · obtain ⟨f, hf⟩ := t.exists_frameAt_interpolant x
    exact ⟨f, hf, boundaries_interpolant hwidth hassertions hf⟩
  · exact eval_symbolicAssertion_row_eq_zero_iff hg hdvd (hwidth ▸ hpins.column_lt a ha)
      (hlength ▸ hpins.step_lt ha)

end Domain

/-- **The declared degrees are true.** Over a prime field whose generator generates all units, if the
units have a subgroup of the size of the trace: every trace of the shape of a recurrence, valid or
not, is interpolated over that subgroup, and the transition residues of each column are the values of
a polynomial whose degree is at most the declared one, at every point and on every frame of the trace.
The declared degree is that of the trace polynomials, times that of the rule. The residues of the
assertions that public inputs imply are the values of polynomials of the degree of the trace, and
vanish on their rows exactly if the assertions hold. -/
theorem declaredDegrees_bound [Fact q.toNat.Prime]
    (hg : orderOf (Residue.generator : Residue q) = q.toNat - 1) (r : Recurrence) (t : TraceTable q)
    (hwidth : t.width = r.rule.width) (hlength : t.length = r.length.toNat)
    (hdvd : t.length ∣ q.toNat - 1) (publicInputs : List (Residue q))
    (hinputs : publicInputs.length = r.rule.publicInputCount) :
    (r.rule.degree * r.lastRow).toNat = r.rule.degree.toNat * (r.length.toNat - 1) ∧
    ∃ T, t.interpolate = .ok T ∧ Residue.rootOfUnity? r.length = some T.generator ∧
      r.TransitionsInterpolated t T
        (r.rule.residuePolynomials T.generator (T.columns.map DensePoly.toPolynomial))
        (r.rule.degree * r.lastRow) ∧
      ∃ assertions, r.BoundariesInterpolated t T publicInputs assertions := by
  obtain ⟨assertions, hassertions⟩ := exists_assertions_iff.2 hinputs
  have hroot : Residue.rootOfUnity? r.length = some t.interpolant.generator := by
    rw [Residue.rootOfUnity?_eq_some_iff, ← hlength]
    exact ⟨t.length_ne_zero, hdvd, rfl⟩
  exact ⟨r.toNat_declaredDegree (hlength ▸ hdvd), t.interpolant, t.interpolate_eq_ok hg hdvd, hroot,
    transitionsInterpolated hg hdvd hwidth hlength, assertions,
    boundariesInterpolated hg hdvd hwidth hlength hassertions⟩

/-- A trace that is no run of the cubic rule, between public inputs of which only the first is its
own. The degree is nine all the same. -/
theorem declaredDegrees_bound_fourCells :
    ∃ T, (fourCells 12 60 51).interpolate = .ok T ∧
      fourCubes.TransitionsInterpolated (fourCells 12 60 51) T
        (Rule.cubic.residuePolynomials T.generator (T.columns.map DensePoly.toPolynomial)) 9 ∧
      ∃ assertions, fourCubes.BoundariesInterpolated (fourCells 12 60 51) T [1, .ofWord 50]
        assertions := by
  have hdegree : fourCubes.rule.degree * fourCubes.lastRow = 9 := by decide
  obtain ⟨-, T, hT, -, htransitions, hboundaries⟩ := declaredDegrees_bound
    Modulus.orderOf_generator_small fourCubes (fourCells 12 60 51) rfl rfl (by decide)
    [1, .ofWord 50] rfl
  rw [hdegree] at htransitions
  exact ⟨T, hT, htransitions, hboundaries⟩

end Recurrence

end OutOfDomain
