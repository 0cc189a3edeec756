import OutOfDomain.Composition
import OutOfDomain.Proofs.Check.Acceptance
import OutOfDomain.Proofs.DensePoly.Interpolation
import OutOfDomain.Proofs.Trace.Interpolant

/-!
# What composing promises

For a prime modulus whose generator generates all units, a composition that succeeds has interpolated
the trace, has folded the constraints at every point of the coset without an error, and returns the
polynomial with as many coefficients as there are points that takes the folded values
(`Composition.composes_of_compose`). Its columns, opened at a point, carry its value there
(`Composition.combineChannel_channel`). Whether there is a composition depends on the number of units
and on nothing else but the points one by one (`Composition.exists_compose_iff`).

`Verifier.verifyAt` is the check that a prover and a verifier run together: the frame is that of the
trace polynomials, the channel opens the columns of what the prover claims. Nothing in it says that
the claimed polynomial was composed from the trace.
-/

set_option autoImplicit false

namespace OutOfDomain

variable {q : Modulus}

theorem Residue.mapProgression_eq_ok_iff {ε α : Type} {f : Residue q → Except ε α}
    {first ratio : Residue q} {count : ℕ} {values : List α} :
    Residue.mapProgression f first ratio count = .ok values ↔
      values.length = count ∧ ∀ i (h : i < values.length), f (first * ratio ^ i) = .ok values[i] := by
  induction count generalizing first values with
  | zero =>
    constructor
    · rintro ⟨⟩
      exact ⟨rfl, nofun⟩
    · rintro ⟨h, -⟩
      rw [List.length_eq_zero_iff.1 h]
      rfl
  | succ count ih =>
    -- The recursion matches on the first value. As a bind, the inversion lemmas open it.
    have hstep : mapProgression f first ratio (count + 1) =
        (f first >>= fun a => (a :: ·) <$> mapProgression f (first * ratio) ratio count) := by
      rw [mapProgression]
      cases f first <;> rfl
    rw [hstep, bind_eq_ok_iff]
    simp only [map_eq_ok_iff, ih, mul_assoc, ← pow_succ']
    constructor
    · rintro ⟨a, ha, rest, ⟨hlength, hrest⟩, rfl⟩
      refine ⟨by rw [List.length_cons, hlength], fun i hi => ?_⟩
      cases i with
      | zero => rwa [pow_zero, mul_one]
      | succ i => exact hrest i (Nat.lt_of_succ_lt_succ hi)
    · rintro ⟨hlength, hall⟩
      match values, hlength with
      | a :: rest, hlength =>
        refine ⟨a, ?_, rest, ⟨Nat.succ_inj.1 hlength, fun i hi => ?_⟩, rfl⟩
        · have := hall 0 (Nat.succ_pos _)
          rwa [pow_zero, mul_one] at this
        · exact hall (i + 1) (Nat.succ_lt_succ hi)

/-! ## The composition domain -/

namespace Parameters

variable (p : Parameters)

/-- The ratio of the coset that constraints are composed on. -/
def compositionRoot : Residue q :=
  Residue.generator ^ ((q.toNat - 1) / (p.traceLength.toNat * p.blowup.toNat))

theorem rootOfUnity?_compositionDomainSize_eq_some_iff {root : Residue q} :
    Residue.rootOfUnity? p.compositionDomainSize = some root ↔
      p.traceLength.toNat * p.blowup.toNat ∣ q.toNat - 1 ∧ root = p.compositionRoot := by
  have htwo := p.two_le_traceLength
  have hle := p.traceLength_le_length_mul_blowup
  rw [Residue.rootOfUnity?_eq_some_iff, p.toNat_compositionDomainSize]
  exact and_iff_right (by omega)

theorem isPrimitiveRoot_compositionRoot [Fact q.toNat.Prime]
    (hg : orderOf (Residue.generator : Residue q) = q.toNat - 1)
    (hdvd : p.traceLength.toNat * p.blowup.toNat ∣ q.toNat - 1) :
    IsPrimitiveRoot (p.compositionRoot : Residue q) (p.traceLength.toNat * p.blowup.toNat) := by
  rw [← p.toNat_compositionDomainSize]
  exact Residue.isPrimitiveRoot_of_rootOfUnity? hg
    (p.rootOfUnity?_compositionDomainSize_eq_some_iff.2 ⟨hdvd, rfl⟩)

end Parameters

/-- The evaluators of a system return these constraints on the frame of trace polynomials at a
point. -/
structure ConstraintSystem.EvaluatesTo (system : ConstraintSystem q) (T : TraceInterpolant q)
    (publicInputs : List (Residue q)) (x : Residue q) (f : Frame q)
    (transition : TransitionEvaluation q) (boundary : BoundaryEvaluation q) : Prop where
  frame : T.frameAt x = .ok f
  transitions : system.transitions f = .ok transition
  boundaries : system.boundaries f publicInputs T.generator x = .ok boundary

namespace Composition

/-! ## Openings -/

theorem combineChannel_channel {c : Composition q} {width : UInt64} (hwidth : 1 ≤ width.toNat)
    (hcolumns : c.columns = c.polynomial.splitColumns width.toNat) (z : Residue q) :
    (c.channel z).length = width.toNat ∧ combineChannel (c.channel z) z = c.evaluate z := by
  have hlength : c.columns.length = width.toNat := by
    rw [hcolumns, DensePoly.splitColumns, List.length_map, List.length_range,
      Nat.max_eq_left hwidth]
  have hword : c.columns.length.toUInt64.toNat = width.toNat := by
    rw [hlength, Nat.toUInt64, UInt64.ofNat_toNat]
  unfold channel
  rw [Residue.pow_eq_pow, hword, List.length_map, hcolumns]
  exact ⟨by rw [← hcolumns, hlength], combineChannel_splitColumns _ hwidth z⟩

/-! ## Values on the coset -/

/-- The value of the constraints at a point is what a verifier folds them to there. -/
theorem valueAt_eq_ok_iff {p : Parameters} {system : ConstraintSystem q} {T : TraceInterpolant q}
    {publicInputs : List (Residue q)} {transitionWeights boundaryWeights : List (Weight q)}
    {x value : Residue q} :
    valueAt p system T publicInputs transitionWeights boundaryWeights x = .ok value ↔
      ∃ f transition boundary, system.EvaluatesTo T publicInputs x f transition boundary ∧
        ∃ a, Verifier.accumulate { parameters := p } x T.generator transitionWeights boundaryWeights
          transition boundary = .ok a ∧ a.finalValue = value := by
  unfold valueAt
  simp only [bind_eq_ok_iff, mapError_eq_ok_iff]
  constructor
  · rintro ⟨f, hf, transition, htransition, boundary, hboundary, a, ha, h⟩
    exact ⟨f, transition, boundary, ⟨hf, htransition, hboundary⟩, a, ha, Except.ok.inj h⟩
  · rintro ⟨f, transition, boundary, h, a, ha, rfl⟩
    exact ⟨f, h.frame, transition, h.transitions, boundary, h.boundaries, a, ha, rfl⟩

/-- A polynomial of as many coefficients as the coset has points takes the values of the constraints
there, and is dealt out into as many columns as the trace has. -/
structure Composes (c : Composition q) (p : Parameters) (system : ConstraintSystem q)
    (T : TraceInterpolant q) (publicInputs : List (Residue q))
    (transitionWeights boundaryWeights : List (Weight q)) : Prop where
  length_coefficients :
    c.polynomial.coefficients.length = p.traceLength.toNat * p.blowup.toNat
  columns_eq : c.columns = c.polynomial.splitColumns p.traceWidth.toNat
  valueAt_eq : ∃ root : Residue q, IsPrimitiveRoot root (p.traceLength.toNat * p.blowup.toNat) ∧
    ∀ i < p.traceLength.toNat * p.blowup.toNat,
      valueAt p system T publicInputs transitionWeights boundaryWeights
        (Residue.generator * root ^ i) = .ok (c.evaluate (Residue.generator * root ^ i))

section Compose

variable {p : Parameters} {system : ConstraintSystem q} {t : TraceTable q}
  {publicInputs : List (Residue q)} {transitionWeights boundaryWeights : List (Weight q)}
  {c : Composition q}

/-- The steps of a composition, for any modulus. -/
theorem compose_eq_ok_iff :
    compose p system t publicInputs transitionWeights boundaryWeights = .ok c ↔
      t.width = p.traceWidth.toNat ∧ t.length = p.traceLength.toNat ∧
      ∃ T root values, t.interpolate = .ok T ∧
        Residue.rootOfUnity? p.compositionDomainSize = some root ∧
        Residue.mapProgression (valueAt p system T publicInputs transitionWeights boundaryWeights)
          .generator root p.compositionDomainSize.toNat = .ok values ∧
        DensePoly.interpolateCoset? values .generator root = some c.polynomial ∧
        c.columns = c.polynomial.splitColumns p.traceWidth.toNat := by
  constructor
  · intro h
    unfold compose at h
    simp only [ne_eq, ite_not] at h
    split at h
    · rename_i hwidth
      split at h
      · rename_i hlength
        obtain ⟨T, hT, h⟩ := bind_eq_ok_iff.1 h
        split at h
        · cases h
        · rename_i root hroot
          obtain ⟨values, hvalues, h⟩ := bind_eq_ok_iff.1 h
          split at h
          · cases h
          · rename_i polynomial hpolynomial
            cases h
            exact ⟨hwidth, hlength, T, root, values, mapError_eq_ok_iff.1 hT, hroot, hvalues,
              hpolynomial, rfl⟩
      · cases h
    · cases h
  · rintro ⟨hwidth, hlength, T, root, values, hT, hroot, hvalues, hpolynomial, hcolumns⟩
    unfold compose
    rw [if_neg (not_not.2 hwidth), if_neg (not_not.2 hlength)]
    refine bind_eq_ok_iff.2 ⟨T, mapError_eq_ok_iff.2 hT, ?_⟩
    simp only [hroot]
    refine bind_eq_ok_iff.2 ⟨values, hvalues, ?_⟩
    simp only [hpolynomial, ← hcolumns]
    rfl

section Prime

variable [Fact q.toNat.Prime] (hg : orderOf (Residue.generator : Residue q) = q.toNat - 1)

include hg

/-- Where the generator generates all units, a composition needs units for its domain and a value of
the constraints at every point of the coset; it interpolates the values. -/
theorem compose_eq_ok_iff_values :
    compose p system t publicInputs transitionWeights boundaryWeights = .ok c ↔
      t.width = p.traceWidth.toNat ∧ t.length = p.traceLength.toNat ∧
      p.traceLength.toNat * p.blowup.toNat ∣ q.toNat - 1 ∧
      ∃ values, values.length = p.traceLength.toNat * p.blowup.toNat ∧
        (∀ i (h : i < values.length),
          valueAt p system t.interpolant publicInputs transitionWeights boundaryWeights
            (Residue.generator * p.compositionRoot ^ i) = .ok values[i]) ∧
        c.polynomial = DensePoly.interpolateCoset values .generator p.compositionRoot ∧
        c.columns = c.polynomial.splitColumns p.traceWidth.toNat := by
  have htwo := p.two_le_traceLength
  have hle := p.traceLength_le_length_mul_blowup
  have hgenerator := Residue.generator_ne_zero hg
  -- There are at least as many points as rows, so there are some.
  have hinterpolate : ∀ {values : List (Residue q)},
      p.traceLength.toNat * p.blowup.toNat ∣ q.toNat - 1 →
      values.length = p.traceLength.toNat * p.blowup.toNat →
      DensePoly.interpolateCoset? values .generator p.compositionRoot =
        some (DensePoly.interpolateCoset values .generator p.compositionRoot) := by
    intro values hdvd hcount
    refine DensePoly.interpolateCoset?_eq_some ?_ hgenerator ?_
    · rintro rfl
      rw [List.length_nil] at hcount
      omega
    · rw [hcount]
      exact p.isPrimitiveRoot_compositionRoot hg hdvd
  rw [compose_eq_ok_iff]
  simp only [p.rootOfUnity?_compositionDomainSize_eq_some_iff, Residue.mapProgression_eq_ok_iff,
    p.toNat_compositionDomainSize]
  refine and_congr_right fun _ => and_congr_right fun hlength => ?_
  constructor
  · rintro ⟨T, root, values, hT, ⟨hdvd, rfl⟩, ⟨hcount, hvalues⟩, hpolynomial, hcolumns⟩
    obtain ⟨-, rfl⟩ := t.eq_interpolant_of_interpolate hg hT
    rw [hinterpolate hdvd hcount, Option.some.injEq] at hpolynomial
    exact ⟨hdvd, values, hcount, hvalues, hpolynomial.symm, hcolumns⟩
  · rintro ⟨hdvd, values, hcount, hvalues, hpolynomial, hcolumns⟩
    have hrows : t.length ∣ q.toNat - 1 := hlength ▸ (Nat.dvd_mul_right _ _).trans hdvd
    refine ⟨t.interpolant, p.compositionRoot, values, t.interpolate_eq_ok hg hrows, ⟨hdvd, rfl⟩,
      ⟨hcount, hvalues⟩, ?_, hcolumns⟩
    rw [hinterpolate hdvd hcount, hpolynomial]

/-- Whether there is a composition, apart from what it is. -/
theorem exists_compose_iff :
    (∃ c, compose p system t publicInputs transitionWeights boundaryWeights = .ok c) ↔
      t.width = p.traceWidth.toNat ∧ t.length = p.traceLength.toNat ∧
      p.traceLength.toNat * p.blowup.toNat ∣ q.toNat - 1 ∧
      ∀ i < p.traceLength.toNat * p.blowup.toNat, ∃ value,
        valueAt p system t.interpolant publicInputs transitionWeights boundaryWeights
          (Residue.generator * p.compositionRoot ^ i) = .ok value := by
  simp only [compose_eq_ok_iff_values hg]
  constructor
  · rintro ⟨c, hwidth, hlength, hdvd, values, hcount, hvalues, -⟩
    exact ⟨hwidth, hlength, hdvd, fun i hi => ⟨_, hvalues i (hcount ▸ hi)⟩⟩
  · rintro ⟨hwidth, hlength, hdvd, hvalues⟩
    choose value hvalue using hvalues
    let values := List.ofFn fun i : Fin (p.traceLength.toNat * p.blowup.toNat) => value i i.isLt
    have hcount : values.length = p.traceLength.toNat * p.blowup.toNat := List.length_ofFn
    let polynomial := DensePoly.interpolateCoset values .generator p.compositionRoot
    refine ⟨⟨polynomial, polynomial.splitColumns p.traceWidth.toNat⟩, hwidth, hlength, hdvd, values,
      hcount, fun i hi => ?_, rfl, rfl⟩
    rw [List.getElem_ofFn]
    exact hvalue i (hcount ▸ hi)

/-- A composition takes the values of the constraints on the coset. -/
theorem valueAt_of_compose
    (h : compose p system t publicInputs transitionWeights boundaryWeights = .ok c) {i : ℕ}
    (hi : i < p.traceLength.toNat * p.blowup.toNat) :
    valueAt p system t.interpolant publicInputs transitionWeights boundaryWeights
        (Residue.generator * p.compositionRoot ^ i) =
      .ok (c.evaluate (Residue.generator * p.compositionRoot ^ i)) := by
  obtain ⟨-, -, hdvd, values, hcount, hvalues, hpolynomial, -⟩ :=
    (compose_eq_ok_iff_values hg).1 h
  have hprimitive := p.isPrimitiveRoot_compositionRoot hg hdvd
  rw [← hcount] at hi hprimitive
  rw [hvalues i hi, evaluate, hpolynomial,
    DensePoly.evaluate_interpolateCoset (Residue.generator_ne_zero hg) hprimitive hi]

theorem composes_of_compose
    (h : compose p system t publicInputs transitionWeights boundaryWeights = .ok c) :
    t.width = p.traceWidth.toNat ∧ t.length = p.traceLength.toNat ∧ t.length ∣ q.toNat - 1 ∧
      c.Composes p system t.interpolant publicInputs transitionWeights boundaryWeights := by
  obtain ⟨hwidth, hlength, hdvd, values, hcount, -, hpolynomial, hcolumns⟩ :=
    (compose_eq_ok_iff_values hg).1 h
  refine ⟨hwidth, hlength, hlength ▸ (Nat.dvd_mul_right _ _).trans hdvd, ?_, hcolumns,
    p.compositionRoot, p.isPrimitiveRoot_compositionRoot hg hdvd,
    fun i hi => valueAt_of_compose hg h hi⟩
  rw [hpolynomial, DensePoly.length_interpolateCoset, hcount]

end Prime

end Compose

end Composition

/-! ## Checks of a claimed composition -/

/-- Check a claimed composition at a point, against the trace polynomials. -/
def Verifier.verifyAt (v : Verifier) (system : ConstraintSystem q) (T : TraceInterpolant q)
    (c : Composition q) (publicInputs : List (Residue q))
    (transitionWeights boundaryWeights : List (Weight q)) (z : Residue q) :
    Except CheckError Unit := do
  let frame ← CheckError.ofConstraint (T.frameAt z)
  v.verifySystem system
    { z, generator := T.generator, frame, publicInputs, transitionWeights, boundaryWeights,
      channel := c.channel z }

end OutOfDomain
