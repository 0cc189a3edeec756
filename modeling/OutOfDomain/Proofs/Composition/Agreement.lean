import OutOfDomain.Proofs.Composition

/-!
# Both sides agree where they were composed

A prover folds the constraints at the points of a coset, interpolates the values, deals the polynomial
out into columns and opens the columns. A verifier puts the opened values together and folds the
constraints itself. At the points of the coset the two ways lead to one value, and nothing about the
constraints is needed for that (`agreesAt_coset_of_compose`): the system may be any two functions, the
trace may break every constraint, and a declared degree may be false. What is needed is that a
composition takes the values that it was interpolated from (`Composition.valueAt_of_compose`) and that
its columns carry its value (`Composition.combineChannel_channel`).

So a check at a point that was composed at says nothing. It is outside the coset that a check tells
valid traces from others, and there the degrees have to be true.
-/

set_option autoImplicit false

namespace OutOfDomain

variable {q : Modulus} {p : Parameters} {system : ConstraintSystem q} {T : TraceInterpolant q}
  {publicInputs : List (Residue q)} {transitionWeights boundaryWeights : List (Weight q)}
  {c : Composition q} {x value : Residue q}

/-! ## One point -/

/-- A prover and a verifier agree at a point. The claimed polynomial has the value there that the
constraints fold to, and if the system and the public inputs fit the parameters, a check of the opened
columns accepts. Both hold for either strategy. -/
structure Composition.AgreesAt (c : Composition q) (p : Parameters) (system : ConstraintSystem q)
    (T : TraceInterpolant q) (publicInputs : List (Residue q))
    (transitionWeights boundaryWeights : List (Weight q)) (x : Residue q) : Prop where
  evaluate_eq : ∃ f transition boundary, system.EvaluatesTo T publicInputs x f transition boundary ∧
    ∀ strategy schedule channel, ∃ a,
      Verifier.evaluateConstraints ⟨p, strategy, schedule⟩
        { z := x, generator := T.generator, transitionWeights, boundaryWeights, transition, boundary,
          channel } = .ok a ∧
      c.evaluate x = a.finalValue
  accepts : system.layout.Fits p → publicInputs.length = p.publicInputCount.toNat →
    ∀ strategy schedule,
      Verifier.verifyAt ⟨p, strategy, schedule⟩ system T c publicInputs transitionWeights
        boundaryWeights x = .ok ()

/-- The value that a prover folds the constraints to is the one that any verifier folds them to. -/
theorem Composition.exists_evaluatesTo_of_valueAt
    (h : valueAt p system T publicInputs transitionWeights boundaryWeights x = .ok value) :
    ∃ f transition boundary, system.EvaluatesTo T publicInputs x f transition boundary ∧
      ∀ strategy schedule channel, ∃ a,
        Verifier.evaluateConstraints ⟨p, strategy, schedule⟩
          { z := x, generator := T.generator, transitionWeights, boundaryWeights, transition,
            boundary, channel } = .ok a ∧
        value = a.finalValue := by
  obtain ⟨f, transition, boundary, hconstraints, a, ha, rfl⟩ := valueAt_eq_ok_iff.1 h
  refine ⟨f, transition, boundary, hconstraints, fun strategy schedule channel => ⟨a, ?_, rfl⟩⟩
  -- What inputs fold to mentions no strategy, and no channel either.
  let inputs : EvaluatedInputs q :=
    ⟨x, T.generator, transitionWeights, boundaryWeights, transition, boundary, channel⟩
  have hfolds : inputs.FoldsTo p a :=
    (Verifier.evaluateConstraints_eq_ok_iff (v := { parameters := p })).1 ha
  exact Verifier.evaluateConstraints_eq_ok_iff.2 hfolds

theorem Composition.agreesAt_of_valueAt (hwidth : T.columns.length = p.traceWidth.toNat)
    (hcolumns : c.columns = c.polynomial.splitColumns p.traceWidth.toNat)
    (h : valueAt p system T publicInputs transitionWeights boundaryWeights x =
      .ok (c.evaluate x)) :
    c.AgreesAt p system T publicInputs transitionWeights boundaryWeights x := by
  have hevaluate := exists_evaluatesTo_of_valueAt h
  refine ⟨hevaluate, fun hfits hinputs strategy schedule => ?_⟩
  obtain ⟨f, transition, boundary, hconstraints, hfolds⟩ := hevaluate
  obtain ⟨a, ha, hvalue⟩ := hfolds strategy schedule (c.channel x)
  obtain ⟨hchannel, hcombine⟩ := combineChannel_channel p.one_le_traceWidth hcolumns x
  have hframe : f.width = p.traceWidth.toNat := by
    rw [Frame.width, (TraceInterpolant.frameAt_eq_ok_iff.1 hconstraints.frame).1,
      TraceInterpolant.length_rowAt, hwidth]
  unfold Verifier.verifyAt
  refine bind_eq_ok_iff.2 ⟨f, ofConstraint_eq_ok_iff.2 hconstraints.frame, ?_⟩
  refine Verifier.verifySystem_eq_ok_iff.2 ⟨hfits, hframe, hinputs, transition, boundary,
    hconstraints.transitions, hconstraints.boundaries, ?_⟩
  refine (Verifier.verify_of_evaluateConstraints hchannel ha).trans ?_
  rw [checkConsistency_eq_ok_iff, ← hvalue, ← hcombine]
  exact (combineChannel_eq_sum _ _).symm

/-! ## The coset -/

/-- **The two sides agree on the coset.** Take any constraint system, any trace, valid or not, any
public inputs and any weights, over a prime modulus whose generator generates all units. If they can
be composed, then the trace has polynomials, the domain has a root of unity, and at every point of the
coset the composition has the value that a verifier folds the constraints of the frame to; and a check
of the frame and the opened columns accepts there, if the layout of the system and the number of public
inputs are those of the parameters. -/
theorem agreesAt_coset_of_compose [Fact q.toNat.Prime] {t : TraceTable q}
    (hg : orderOf (Residue.generator : Residue q) = q.toNat - 1)
    (hcompose : Composition.compose p system t publicInputs transitionWeights boundaryWeights
      = .ok c) :
    ∃ T root, t.interpolate = .ok T ∧
      Residue.rootOfUnity? p.compositionDomainSize = some root ∧
      ∀ i < p.traceLength.toNat * p.blowup.toNat,
        c.AgreesAt p system T publicInputs transitionWeights boundaryWeights
          (Residue.generator * root ^ i) := by
  obtain ⟨hwidth, -, hdvd, hcomposes⟩ := Composition.composes_of_compose hg hcompose
  obtain ⟨-, -, hsize, -⟩ := (Composition.compose_eq_ok_iff_values hg).1 hcompose
  refine ⟨t.interpolant, p.compositionRoot, t.interpolate_eq_ok hg hdvd,
    p.rootOfUnity?_compositionDomainSize_eq_some_iff.2 ⟨hsize, rfl⟩, fun i hi => ?_⟩
  exact Composition.agreesAt_of_valueAt (t.length_columns_interpolant.trans hwidth)
    hcomposes.columns_eq (Composition.valueAt_of_compose hg hcompose hi)

/-! ## A system that looks at nothing -/

/-- A system whose residues do not depend on the frame, and whose degrees are not those of its
residues. -/
def constantSystem : ConstraintSystem Modulus.small where
  id := "constant"
  layout := ⟨1, 2, 2, 0⟩
  transitions _ := .ok ⟨[.ofWord 7], [2]⟩
  boundaries _ _ _ _ := .ok ⟨[⟨.ofWord 5, 1, 0⟩, ⟨.ofWord 3, 0, 1⟩]⟩

def constantParameters : Parameters where
  traceLength := 2
  traceWidth := 1
  assertionCount := 2
  blowup := 2
  publicInputCount := 0
  faultless := by decide

/-- A trace for it, which might be any other. -/
def constantCells : TraceTable Modulus.small where
  columns := [[1, .ofWord 2]]
  length := 2
  columns_ne_nil := List.cons_ne_nil _ _
  length_column := List.forall_mem_singleton.2 rfl
  two_le_length := by decide
  isPowerOfTwo_length := by decide

/-- What is composed from it. -/
def constantComposition : Composition Modulus.small :=
  let polynomial : DensePoly Modulus.small := ⟨[.ofWord 17, .ofWord 30, .ofWord 96, .ofWord 22]⟩
  ⟨polynomial, [polynomial]⟩

theorem agreesAt_constantComposition :
    ∃ T root, constantCells.interpolate = .ok T ∧
      Residue.rootOfUnity? 4 = some root ∧
      ∀ i < 4, constantComposition.AgreesAt constantParameters constantSystem T []
        [⟨.ofWord 2, .ofWord 3⟩] [⟨1, 1⟩, ⟨1, 1⟩] (Residue.generator * root ^ i) := by
  have hcompose : Composition.compose constantParameters constantSystem constantCells []
      [⟨.ofWord 2, .ofWord 3⟩] [⟨1, 1⟩, ⟨1, 1⟩] = .ok constantComposition := by decide +kernel
  exact agreesAt_coset_of_compose Modulus.orderOf_generator_small hcompose

end OutOfDomain
