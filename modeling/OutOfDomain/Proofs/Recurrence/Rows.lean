import OutOfDomain.Proofs.Recurrence.Check

/-!
# The rows of a trace in the defect

For a trace of the right shape, over a field that has a domain for it (`Recurrence.Shaped`), the
numerator of the constraints takes values on the rows that can be read off the trace, valid or not. On
every row but the last it has the weighed sum of the transition residues of the row's frame
(`Shaped.eval_numerator_row`), on the last row only what the assertion about that row says
(`Shaped.eval_numerator_lastRow`). Completeness uses that these values vanish for a valid trace,
soundness that one of them does not.
-/

set_option autoImplicit false

namespace OutOfDomain

open Polynomial

variable {q : Modulus}

namespace Recurrence

/-- A trace has the shape that a recurrence and its parameters ask for, and the units have a subgroup
of the size of its domain. -/
structure Shaped (r : Recurrence) (p : Parameters) (t : TraceTable q) : Prop where
  fits : (r.system q).layout.Fits p
  width_eq : t.width = r.rule.width
  length_eq : t.length = p.traceLength.toNat
  dvd : t.length ∣ q.toNat - 1

/-- What an assertion about a row adds to the numerator there. -/
noncomputable def assertionTerm (p : Parameters) (T : TraceInterpolant q) (k : ℕ)
    (weight : Weight q) (a : Assertion q) : Residue q :=
  p.boundaryWeight (T.generator ^ k) weight singlePoleDegree *
      (T.symbolicAssertion a).residue.eval (T.generator ^ k) *
    (p.traceLength.toNat * (T.generator ^ k) ^ (p.traceLength.toNat - 1))

/-- What all assertions about a row add to the numerator there. -/
noncomputable def assertionSum (p : Parameters) (T : TraceInterpolant q) (k : ℕ)
    (boundaryWeights : List (Weight q)) (assertions : List (Assertion q)) : Residue q :=
  ((boundaryWeights.zip assertions).map fun (weight, a) =>
    if a.step.toNat = k then assertionTerm p T k weight a else 0).sum

section Pins

variable {r : Recurrence} {p : Parameters} {T : TraceInterpolant q}
  {publicInputs : List (Residue q)} {boundaryWeights : List (Weight q)}
  {assertions : List (Assertion q)}

theorem assertionSum_eq_zero {k : ℕ}
    (h : ∀ weight, ∀ a ∈ assertions, a.step.toNat = k → assertionTerm p T k weight a = 0) :
    assertionSum p T k boundaryWeights assertions = 0 := by
  apply List.sum_eq_zero
  intro x hx
  obtain ⟨⟨weight, a⟩, hitem, rfl⟩ := List.mem_map.1 hx
  dsimp only
  split
  · exact h weight a (List.of_mem_zip hitem).2 ‹_›
  · rfl

/-- On the last row, there is one term. -/
theorem Pins.assertionSum_lastRow (hpins : r.Pins publicInputs assertions)
    (hlength : boundaryWeights.length = assertions.length) {weight : Weight q} {a : Assertion q}
    (hitem : (weight, a) ∈ boundaryWeights.zip assertions) (hstep : a.step = r.lastRow) :
    assertionSum p T r.lastRow.toNat boundaryWeights assertions =
      assertionTerm p T r.lastRow.toNat weight a := by
  have htwo := r.two_le_length
  have hlastRow := r.toNat_lastRow
  obtain ⟨firsts, last, rfl, hfirsts, hlast⟩ := hpins.ends
  have hne : ∀ a ∈ firsts, a.step.toNat ≠ r.lastRow.toNat := by
    intro a ha h
    have hzero : a.step.toNat = 0 := congrArg UInt64.toNat (hfirsts a ha)
    omega
  rcases List.eq_nil_or_concat' boundaryWeights with rfl | ⟨weights, lastWeight, rfl⟩
  · cases hitem
  · have hinit : weights.length = firsts.length := by simpa using hlength
    -- What stands before the last assertion is about the first row.
    have hzero : assertionSum p T r.lastRow.toNat weights firsts = 0 :=
      assertionSum_eq_zero fun _ a ha h => absurd h (hne a ha)
    rw [List.zip_append hinit] at hitem
    rcases List.mem_append.1 hitem with h | h
    · refine absurd ?_ (hne a (List.of_mem_zip h).2)
      rw [hstep]
    · cases List.mem_singleton.1 h
      rw [assertionSum, List.zip_append hinit, List.map_append, List.sum_append]
      change assertionSum p T r.lastRow.toNat weights firsts + (List.map _ [(weight, a)]).sum = _
      rw [hzero, zero_add, List.map_singleton, List.sum_singleton]
      exact if_pos (congrArg UInt64.toNat hstep)

end Pins

namespace Shaped

section Domain

variable [Fact q.toNat.Prime] {r : Recurrence} {p : Parameters} {t : TraceTable q}
  {publicInputs : List (Residue q)} {assertions : List (Assertion q)}
  {transitionWeights boundaryWeights : List (Weight q)}

theorem length_columns (h : r.Shaped p t) : t.interpolant.columns.length = r.rule.width :=
  t.length_columns_interpolant.trans h.width_eq

theorem bounded (h : r.Shaped p t) (happlies : r.Applies p transitionWeights boundaryWeights) :
    (r.symbolic t.interpolant assertions transitionWeights boundaryWeights).Bounded p := by
  have hlength : r.length = p.traceLength := h.fits.traceLength
  have ht : t.length = r.length.toNat := by rw [h.length_eq, hlength]
  refine bounded_symbolic hlength.symm (ht ▸ h.dvd) h.length_columns (fun P hP => ?_)
    happlies.degree_le
  exact (t.length_coefficients_interpolant hP).trans ht

variable (hg : orderOf (Residue.generator : Residue q) = q.toNat - 1)

include hg

theorem isPrimitiveRoot_root (h : r.Shaped p t) : IsPrimitiveRoot t.root p.traceLength.toNat :=
  h.length_eq ▸ t.isPrimitiveRoot_root hg h.dvd

theorem eval_numerator_root_pow (h : r.Shaped p t) (hpins : r.Pins publicInputs assertions) {k : ℕ}
    (hk : k < p.traceLength.toNat) :
    ((r.symbolic t.interpolant assertions transitionWeights boundaryWeights).numerator p).eval
        (t.root ^ k) =
      p.transitionSum (t.root ^ k) transitionWeights
          ((r.symbolic t.interpolant assertions transitionWeights boundaryWeights).transitionAt
            (t.root ^ k)) *
          (t.root ^ k - t.root ^ (p.traceLength.toNat - 1)) +
        assertionSum p t.interpolant k boundaryWeights assertions := by
  let s := r.symbolic t.interpolant assertions transitionWeights boundaryWeights
  have hsteps : ∀ a ∈ s.assertions, a.step.toNat < p.traceLength.toNat := by
    intro a ha
    obtain ⟨assertion, hassertion, rfl⟩ := List.mem_map.1 ha
    rw [← show r.length = p.traceLength from h.fits.traceLength]
    exact hpins.step_lt hassertion
  have hroot : IsPrimitiveRoot s.generator p.traceLength.toNat := h.isPrimitiveRoot_root hg
  -- The symbolic assertions are the assertions one by one, so both make up the same sum.
  have hzip : boundaryWeights.zip s.assertions =
      (boundaryWeights.zip assertions).map (Prod.map id t.interpolant.symbolicAssertion) :=
    List.zip_map_right
  refine (SymbolicInputs.eval_numerator_row hroot hsteps hk).trans ?_
  refine congrArg _ ?_
  change ((boundaryWeights.zip s.assertions).map _).sum = _
  rw [hzip, List.map_map]
  rfl

/-- On a row before the last, the numerator has the weighed sum of the residues of its frame. -/
theorem eval_numerator_row (h : r.Shaped p t) (hpins : r.Pins publicInputs assertions) {k : ℕ}
    (hk : k < p.traceLength.toNat) {f : Frame q} (hf : t.frame k = .ok f)
    {evaluation : TransitionEvaluation q} (hevaluate : r.transitions f = .ok evaluation) :
    ((r.symbolic t.interpolant assertions transitionWeights boundaryWeights).numerator p).eval
        (t.root ^ k) =
      p.transitionSum (t.root ^ k) transitionWeights evaluation *
          (t.root ^ k - t.root ^ (p.traceLength.toNat - 1)) +
        assertionSum p t.interpolant k boundaryWeights assertions := by
  have hvalue : r.transitions f =
      .ok ((r.symbolic t.interpolant assertions transitionWeights boundaryWeights).transitionAt
        (t.root ^ k)) := by
    refine transitions_frameAt h.length_columns ?_
    rw [t.frameAt_root_pow hg h.dvd (h.length_eq ▸ hk), hf]
  cases Except.ok.inj (hevaluate.symm.trans hvalue)
  exact h.eval_numerator_root_pow hg hpins hk

theorem eval_numerator_lastRow (h : r.Shaped p t) (hpins : r.Pins publicInputs assertions) :
    ((r.symbolic t.interpolant assertions transitionWeights boundaryWeights).numerator p).eval
        (t.root ^ r.lastRow.toNat) =
      assertionSum p t.interpolant r.lastRow.toNat boundaryWeights assertions := by
  have htwo := p.two_le_traceLength
  have hlast : r.lastRow.toNat = p.traceLength.toNat - 1 := by
    rw [r.toNat_lastRow, show r.length = p.traceLength from h.fits.traceLength]
  rw [h.eval_numerator_root_pow hg hpins (by omega), hlast, sub_self, mul_zero, zero_add]

end Domain

end Shaped

/-! ## Four rows -/

def fourRows : Recurrence := ⟨.affine, 4, by decide, by decide⟩

/-- The same number of rows, but of three times the degree. -/
def fourCubes : Recurrence := ⟨.cubic, 4, by decide, by decide⟩

/-- Parameters of either, with a composition domain of twice as many points. -/
def fourRowsParameters : Parameters where
  traceLength := 4
  traceWidth := 1
  assertionCount := 2
  blowup := 2
  publicInputCount := 2
  faultless := by decide

/-- A trace of four rows that starts with one and goes on with the three given cells. -/
def fourCells (second third last : UInt64) : TraceTable Modulus.small where
  columns := [[1, .ofWord second, .ofWord third, .ofWord last]]
  length := 4
  columns_ne_nil := List.cons_ne_nil _ _
  length_column := List.forall_mem_singleton.2 rfl
  two_le_length := by decide
  isPowerOfTwo_length := by decide

end Recurrence

end OutOfDomain
