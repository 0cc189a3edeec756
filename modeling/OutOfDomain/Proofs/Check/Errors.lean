import OutOfDomain.Proofs.Check.Acceptance

/-!
# Which errors a check can end in

A check is put together from few parts that can fail: sizes are compared, degrees and rows are
looked at, the two sides are compared, and residues are divided. The first kinds of failure say
something about the inputs or about the proof (`CheckError.IsPlain`). What remains are divisions, and
the lemmas here reduce a bound on the errors of a whole check to a bound on the errors of its three
kinds of division: the one that forms the transition divisor, the one by it, and the one by the
distance from a row. The last two come after the first, so they may use that there is a divisor.

No part raises to a power that is refused. That is why two of the errors are unreachable, and
`internalErrors_unreachable` says so: an exponent is never out of range, for any modulus, and a
quotient always multiplies back if the modulus is prime.
-/

set_option autoImplicit false

namespace OutOfDomain

variable {q : Modulus}

/-! ## Divisions and the rest -/

/-- An error that no division causes: something does not fit the parameters, or the two sides
differ. -/
inductive CheckError.IsPlain : CheckError → Prop
  | shapeMismatch (what : Part) (expected actual : ℕ) :
    IsPlain (.shapeMismatch what expected actual)
  | degreeOutOfRange (what : Graded) (index degree max : ℕ) :
    IsPlain (.degreeOutOfRange what index degree max)
  | assertionStepOutOfRange (assertion step traceLength : ℕ) :
    IsPlain (.assertionStepOutOfRange assertion step traceLength)
  | consistencyViolation (channel constraints : ℕ) :
    IsPlain (.consistencyViolation channel constraints)

section Bounds

variable {P : CheckError → Prop}

theorem onlyRaises_checkedQuotient {numerator divisor : Residue q} {kind : DivisorKind}
    (hdegenerate : P (.degenerateDivisor kind)) (hmismatch : P (.quotientMismatch kind)) :
    OnlyRaises P (checkedQuotient numerator divisor kind) := by
  unfold checkedQuotient
  split
  · exact .error hdegenerate
  · rename_i inverse _
    by_cases h : numerator * inverse * divisor = numerator
    · exact (if_pos h).symm ▸ .ok _
    · exact (if_neg h).symm ▸ .error hmismatch

/-- For a prime modulus, a division by anything but zero does not fail. -/
theorem onlyRaises_checkedQuotient_of_prime [Fact q.toNat.Prime] {numerator divisor : Residue q}
    {kind : DivisorKind} (h : divisor = 0 → P (.degenerateDivisor kind)) :
    OnlyRaises P (checkedQuotient numerator divisor kind) := by
  rw [checkedQuotient_eq]
  split
  · exact .error (h ‹_›)
  · exact .ok _

theorem onlyRaises_expectSize {what : Part} {expected actual : ℕ}
    (h : P (.shapeMismatch what expected actual)) :
    OnlyRaises P (expectSize what expected actual) := by
  unfold expectSize
  split
  · exact .ok _
  · exact .error h

theorem onlyRaises_size (hplain : ∀ e : CheckError, e.IsPlain → P e) {what : Part}
    {expected actual : ℕ} : OnlyRaises P (expectSize what expected actual) :=
  onlyRaises_expectSize (hplain _ (.shapeMismatch ..))

theorem onlyRaises_evaluate {p : Parameters} {z generator : Residue q}
    (hdegenerate : P (.degenerateDivisor .transition))
    (hquotient : ∀ numerator divisor : Residue q,
      OnlyRaises P (checkedQuotient numerator divisor .transition)) :
    OnlyRaises P (TransitionDivisor.evaluate z generator p) := by
  rw [TransitionDivisor.evaluate_eq]
  refine .bind (hquotient _ _) fun value _ => ?_
  split
  · exact .error hdegenerate
  · exact .ok _

section Folds

variable {p : Parameters} {z generator : Residue q} {weights : List (Weight q)}
  {strategy : FoldStrategy}

theorem onlyRaises_foldTransitions {evaluation : TransitionEvaluation q} {d : TransitionDivisor q}
    (hshape : ∀ what expected actual, P (.shapeMismatch what expected actual))
    (hdegree : ∀ column degree max, P (.degreeOutOfRange .transitionConstraint column degree max))
    (hquotient : ∀ numerator, OnlyRaises P (d.divide numerator)) :
    OnlyRaises P (foldTransitions p z weights evaluation d strategy) := by
  rw [foldTransitions_eq]
  refine .bind (onlyRaises_expectSize (hshape _ _ _)) fun _ _ => ?_
  refine .bind (onlyRaises_expectSize (hshape _ _ _)) fun _ _ => ?_
  refine .bind (.mapM fun item _ => ?_) fun terms _ => hquotient _
  rw [Parameters.transitionTerm_eq]
  split
  · exact .ok _
  · exact .error (hdegree _ _ _)

theorem onlyRaises_assertionQuotient {assertion : ℕ} {weight : Weight q}
    {a : AssertionEvaluation q}
    (hdegree : ∀ degree max, P (.degreeOutOfRange .boundaryDivisor assertion degree max))
    (hstep : ∀ step length, P (.assertionStepOutOfRange assertion step length))
    (hquotient : a.step.toNat < p.traceLength.toNat → ∀ numerator,
      OnlyRaises P (checkedQuotient numerator (z - generator ^ a.step.toNat)
        (.boundary assertion a.step.toNat))) :
    OnlyRaises P (assertionQuotient p z generator strategy assertion weight a) := by
  have hproduct : OnlyRaises P (p.boundaryTerm z assertion weight a) := by
    rw [Parameters.boundaryTerm_eq]
    split
    · exact .ok _
    · exact .error (hdegree _ _)
  unfold assertionQuotient
  rw [BoundaryDivisor.singlePole_eq]
  by_cases h : a.step.toNat < p.traceLength.toNat
  · rw [if_pos h]
    cases strategy with
    | sequential => exact .bind hproduct fun product _ => hquotient h product
    | reduction =>
      change OnlyRaises P (p.boundaryTerm z assertion weight a >>= _)
      exact .bind hproduct fun product _ => hquotient h product
  · rw [if_neg h]
    cases strategy with
    | sequential => exact .bind hproduct fun product _ => .error (hstep _ _)
    | reduction => exact .error (hstep _ _)

theorem onlyRaises_foldBoundaries {evaluation : BoundaryEvaluation q} {seed : Residue q}
    (hplain : ∀ e : CheckError, e.IsPlain → P e)
    (hquotient : ∀ step < p.traceLength.toNat, ∀ numerator assertion,
      OnlyRaises P (checkedQuotient numerator (z - generator ^ step) (.boundary assertion step))) :
    OnlyRaises P (foldBoundaries p z generator weights evaluation seed strategy) := by
  rw [foldBoundaries_eq]
  refine .bind (onlyRaises_size hplain) fun _ _ => ?_
  refine .bind (.mapM fun item _ => ?_) fun quotients _ => .ok _
  exact onlyRaises_assertionQuotient (fun _ _ => hplain _ (.degreeOutOfRange ..))
    (fun _ _ => hplain _ (.assertionStepOutOfRange ..)) fun h numerator => hquotient _ h numerator _

end Folds

/-! ## Checks -/

namespace Verifier

variable {v : Verifier} {z generator : Residue q}

theorem onlyRaises_accumulate {transitionWeights boundaryWeights : List (Weight q)}
    {transition : TransitionEvaluation q} {boundary : BoundaryEvaluation q}
    (hplain : ∀ e : CheckError, e.IsPlain → P e)
    (hdivisor : OnlyRaises P (TransitionDivisor.evaluate z generator v.parameters))
    (hquotient : ∀ divisor, TransitionDivisor.evaluate z generator v.parameters = .ok divisor →
      ∀ numerator, OnlyRaises P (divisor.divide numerator))
    (hpole : ∀ divisor, TransitionDivisor.evaluate z generator v.parameters = .ok divisor →
      ∀ step < v.parameters.traceLength.toNat, ∀ numerator assertion,
        OnlyRaises P
          (checkedQuotient numerator (z - generator ^ step) (.boundary assertion step))) :
    OnlyRaises P
      (v.accumulate z generator transitionWeights boundaryWeights transition boundary) := by
  unfold accumulate
  refine .bind (onlyRaises_size hplain) fun _ _ => .bind (onlyRaises_size hplain) fun _ _ => ?_
  refine .bind (onlyRaises_size hplain) fun _ _ => .bind (onlyRaises_size hplain) fun _ _ => ?_
  refine .bind (onlyRaises_size hplain) fun _ _ => ?_
  refine .bind hdivisor fun divisor hok => ?_
  refine .bind (onlyRaises_foldTransitions (fun _ _ _ => hplain _ (.shapeMismatch ..))
    (fun _ _ _ => hplain _ (.degreeOutOfRange ..)) (hquotient divisor hok)) fun result _ => ?_
  exact .bind (onlyRaises_foldBoundaries hplain (hpole divisor hok)) fun _ _ => .ok _

theorem onlyRaises_finish {channel : List (Residue q)} {a : Accumulation q}
    (hplain : ∀ e : CheckError, e.IsPlain → P e) : OnlyRaises P (finish channel z a) := by
  unfold finish checkConsistency
  split
  · exact .ok _
  · exact .error (hplain _ (.consistencyViolation ..))

theorem onlyRaises_verify {inputs : EvaluatedInputs q}
    (hplain : ∀ e : CheckError, e.IsPlain → P e)
    (hconstraints : OnlyRaises P (v.evaluateConstraints inputs)) :
    OnlyRaises P (v.verify inputs) := by
  refine .bind (onlyRaises_size hplain) fun _ _ => ?_
  exact .bind hconstraints fun _ _ => onlyRaises_finish hplain

/-- The evaluators of a system add errors of their own, and no others. -/
theorem onlyRaises_verifySystem {system : ConstraintSystem q} {inputs : FrameInputs q}
    (hplain : ∀ e : CheckError, e.IsPlain → P e) (hconstraint : ∀ e, P (.constraint e))
    (haccumulate : ∀ transition boundary, OnlyRaises P
      (v.accumulate inputs.z inputs.generator inputs.transitionWeights inputs.boundaryWeights
        transition boundary)) :
    OnlyRaises P (v.verifySystem system inputs) := by
  have hevaluator : ∀ {α : Type} (x : Except ConstraintError α),
      OnlyRaises P (CheckError.ofConstraint x) := by
    intro α x
    cases x with
    | error e => exact .error (hconstraint e)
    | ok a => exact .ok a
  unfold verifySystem
  refine .bind (onlyRaises_size hplain) fun _ _ => .bind (onlyRaises_size hplain) fun _ _ => ?_
  refine .bind (onlyRaises_size hplain) fun _ _ => .bind (onlyRaises_size hplain) fun _ _ => ?_
  refine .bind (onlyRaises_size hplain) fun _ _ => .bind (onlyRaises_size hplain) fun _ _ => ?_
  refine .bind (onlyRaises_size hplain) fun _ _ => .bind (hevaluator _) fun transition _ => ?_
  refine .bind (hevaluator _) fun boundary _ => ?_
  exact .bind (haccumulate transition boundary) fun _ _ => onlyRaises_finish hplain

end Verifier

end Bounds

/-! ## Errors that cannot be reached -/

/-- No check over the modulus ends in the error, whichever way in is taken, and whatever the inputs
and the constraint system are. -/
structure Verifier.NeverRaises (v : Verifier) (q : Modulus) (e : CheckError) : Prop where
  verify : ∀ inputs : EvaluatedInputs q, v.verify inputs ≠ .error e
  evaluateConstraints : ∀ inputs : EvaluatedInputs q, v.evaluateConstraints inputs ≠ .error e
  verifySystem : ∀ (system : ConstraintSystem q) (inputs : FrameInputs q),
    v.verifySystem system inputs ≠ .error e

/-- An error is unreachable if it is neither plain nor of a constraint system, and no division ends
in it. -/
theorem Verifier.neverRaises {v : Verifier} {e : CheckError} (hplain : ¬ e.IsPlain)
    (hconstraint : ∀ e', .constraint e' ≠ e) (hdegenerate : ∀ kind, .degenerateDivisor kind ≠ e)
    (hquotient : ∀ (numerator divisor : Residue q) (kind : DivisorKind),
      checkedQuotient numerator divisor kind ≠ .error e) :
    v.NeverRaises q e := by
  have hplain' : ∀ e' : CheckError, e'.IsPlain → e' ≠ e := by
    rintro e' h rfl
    exact hplain h
  have hquotient' : ∀ (numerator divisor : Residue q) (kind : DivisorKind),
      OnlyRaises (· ≠ e) (checkedQuotient numerator divisor kind) := by
    rintro numerator divisor kind _ h rfl
    exact hquotient _ _ _ h
  have haccumulate : ∀ (z generator : Residue q) (transitionWeights boundaryWeights)
      (transition : TransitionEvaluation q) (boundary : BoundaryEvaluation q), OnlyRaises (· ≠ e)
        (v.accumulate z generator transitionWeights boundaryWeights transition boundary) := by
    intro z generator transitionWeights boundaryWeights transition boundary
    refine onlyRaises_accumulate hplain' (onlyRaises_evaluate (hdegenerate _) fun _ _ => ?_) ?_ ?_
    · exact hquotient' _ _ _
    · exact fun _ _ _ => hquotient' _ _ _
    · exact fun _ _ _ _ _ _ => hquotient' _ _ _
  refine ⟨fun inputs h => ?_, fun inputs h => ?_, fun system inputs h => ?_⟩
  · exact onlyRaises_verify hplain' (haccumulate _ _ _ _ _ _) e h rfl
  · exact haccumulate _ _ _ _ _ _ e h rfl
  · exact onlyRaises_verifySystem hplain' hconstraint (fun _ _ => haccumulate _ _ _ _ _ _) e h rfl

/-- Every word that a check computes with on the way to an exponent is the number that its formula
says: no operation wraps. The exponents are those of degrees that are in range; for others there is
none. -/
structure Parameters.ExponentsExact (p : Parameters) : Prop where
  product : (p.traceLength * p.blowup).toNat = p.traceLength.toNat * p.blowup.toNat
  maxDegree : p.maxDegree.toNat + 1 = p.traceLength.toNat * p.blowup.toNat
  lastRow : (p.traceLength - 1).toNat + 1 = p.traceLength.toNat
  transition : ∀ column degree exponent, p.transitionExponent column degree = .ok exponent →
    exponent.toNat + degree.toNat = p.maxDegree.toNat
  lift : (p.maxDegree - (p.traceLength - 1)).toNat + (p.traceLength - 1).toNat = p.maxDegree.toNat
  boundary : ∀ assertion divisorDegree exponent,
    p.boundaryExponent assertion divisorDegree = .ok exponent →
      exponent.toNat = (p.maxDegree - (p.traceLength - 1)).toNat + divisorDegree.toNat

theorem Parameters.exponentsExact (p : Parameters) : p.ExponentsExact := by
  have hlength := p.two_le_traceLength
  have hlast := p.toNat_traceLength_sub_one
  have hmax := p.lastRow_le_maxDegree
  have hlift := p.toNat_lift
  refine ⟨p.toNat_length_mul_blowup, p.toNat_maxDegree_add_one, by omega,
    fun column degree exponent h => ?_, by omega, fun assertion divisorDegree exponent h => ?_⟩
  · unfold transitionExponent at h
    split at h
    · cases h
    · rename_i hdegree
      rw [UInt64.lt_iff_toNat_lt, Nat.not_lt] at hdegree
      cases h
      rw [toNat_transitionExponent p hdegree]
      omega
  · unfold boundaryExponent at h
    simp only at h
    split at h
    · cases h
    · rename_i hdegree
      rw [UInt64.lt_iff_toNat_lt, Nat.not_lt, hlast] at hdegree
      cases h
      rw [toNat_boundaryExponent p hdegree, hlift]

/-- **Internal errors are unreachable.** Whatever the parameters, the strategy, the inputs and the
constraint system are, no check ends in an exponent that its declared width does not fit, for any
modulus; none ends in a quotient that does not multiply back, if the modulus is prime; and no
exponent is the result of an operation that has wrapped. -/
theorem internalErrors_unreachable (v : Verifier) (q : Modulus) :
    (∀ overflow, v.NeverRaises q (.exponentOutOfRange overflow)) ∧
      (q.toNat.Prime → ∀ kind, v.NeverRaises q (.quotientMismatch kind)) ∧
      v.parameters.ExponentsExact := by
  refine ⟨fun overflow => ?_, fun hq kind => ?_, v.parameters.exponentsExact⟩
  · refine Verifier.neverRaises nofun nofun nofun fun numerator divisor kind h => ?_
    exact onlyRaises_checkedQuotient (P := (· ≠ .exponentOutOfRange overflow)) nofun nofun _ h rfl
  · have : Fact q.toNat.Prime := ⟨hq⟩
    refine Verifier.neverRaises nofun nofun nofun fun numerator divisor kind' h => ?_
    exact onlyRaises_checkedQuotient_of_prime (P := (· ≠ .quotientMismatch kind)) (fun _ => nofun) _
      h rfl

/-- The longest trace that fits a word, with room for no blowup: counting its rows takes all 64
bits. -/
def longestParameters : Parameters where
  traceLength := 0x8000000000000000
  traceWidth := 1
  assertionCount := 1
  blowup := 1
  publicInputCount := 0
  faultless := by
    rw [Draft.fault?_eq_none_iff]
    exact ⟨by decide, ⟨63, rfl⟩, by decide, ⟨0, rfl⟩, by decide⟩

theorem quotientMismatch_unreachable_longest :
    Modulus.small.toNat.Prime ∧
      Verifier.verify ⟨longestParameters, .reduction, .standard⟩ (workedInputs 31) ≠
        .error (.quotientMismatch .transition) := by
  have hprime : Modulus.small.toNat.Prime := Fact.out
  exact ⟨hprime, ((internalErrors_unreachable _ _).2.1 hprime _).verify _⟩

end OutOfDomain
