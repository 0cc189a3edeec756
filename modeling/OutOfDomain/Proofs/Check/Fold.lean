import OutOfDomain.Proofs.Check.Terms

/-!
# What the folds compute

Both folds are a list of terms and a sum, and the first item without a term ends them. The sequential
fold adds each term as it is found, the reduction finds all of them first and adds them up as a tree;
`foldTransitions_eq` and `foldBoundaries_eq` bring both into one form, errors included. All that a
strategy is left to decide is the order in which an assertion is looked at (`assertionQuotient`).

The running value of the sequential fold re-checks the *difference* that a quotient has made to it,
the reduction the quotient itself. In a ring, adding a quotient and subtracting what was there gives
the quotient back, whether or not it is one, so neither re-check ever fails, for any modulus.

What a successful fold has found is read off that form: `foldTransitions_eq_ok_iff` and
`foldBoundaries_eq_ok_iff` do not mention a strategy.
-/

set_option autoImplicit false

namespace OutOfDomain

variable {q : Modulus}

/-! ## Balanced sums -/

theorem sum_pairUp (terms : List (Residue q)) : (pairUp terms).sum = terms.sum := by
  fun_induction pairUp terms with
  | case1 a b rest ih => rw [List.sum_cons, ih, List.sum_cons, List.sum_cons, add_assoc]
  | case2 rest _ => rfl

theorem pairwiseSum_eq_sum (terms : List (Residue q)) : pairwiseSum terms = terms.sum := by
  fun_induction pairwiseSum terms with
  | case1 => rw [List.sum_nil]
  | case2 a => rw [List.sum_singleton]
  | case3 a b rest ih =>
    rw [ih, List.sum_cons, sum_pairUp, List.sum_cons, List.sum_cons, add_assoc]

/-! ## Folds that find a term for every item -/

section Folds

variable {ε α : Type}

/-- A fold whose step adds the term of its item ends as the list of terms does: in the first error,
or in the seed plus the sum of the terms. -/
theorem foldlM_eq_map_mapM {step : Residue q → α → Except ε (Residue q)}
    {term : α → Except ε (Residue q)}
    (hstep : ∀ value item, step value item = (value + ·) <$> term item) (items : List α)
    (seed : Residue q) :
    items.foldlM step seed = (fun terms => seed + terms.sum) <$> items.mapM term := by
  -- The seed is generalized, since each step moves it by the term of its item.
  induction items generalizing seed with
  | nil => rw [List.foldlM_nil, List.mapM_nil, map_pure, List.sum_nil, add_zero]
  | cons item items ih =>
    rw [List.foldlM_cons, List.mapM_cons, hstep]
    cases term item with
    | error e => rfl
    | ok t =>
      change items.foldlM step (seed + t) = _
      rw [ih]
      cases items.mapM term with
      | error e => rfl
      | ok terms =>
        change Except.ok (seed + t + terms.sum) = Except.ok (seed + (t :: terms).sum)
        rw [List.sum_cons, add_assoc]

/-- Numbered items have the terms of the items, where the number is for errors only. -/
theorem forall₂_zipIdx_iff {β : Type} {R : α → β → Prop} {items : List α} {terms : List β} :
    List.Forall₂ (fun item t => R item.1 t) items.zipIdx terms ↔ List.Forall₂ R items terms := by
  have hfst := List.zipIdx_map_fst 0 items
  exact List.forall₂_map_left_iff.symm.trans (by rw [hfst])

theorem forall_mem_zip_snd {β : Type} {as : List α} {bs : List β} (h : as.length = bs.length)
    (c : β → Prop) : (∀ item ∈ as.zip bs, c item.2) ↔ ∀ b ∈ bs, c b := by
  have hsnd := List.map_snd_zip h.ge
  conv_rhs => rw [← hsnd]
  exact List.forall_mem_map.symm

/-- Terms that are computed under a condition exist exactly if every item meets it. -/
theorem forall₂_and_eq_iff {β : Type} {c : α → Prop} {f : α → β} {items : List α}
    {terms : List β} :
    List.Forall₂ (fun item t => c item ∧ t = f item) items terms ↔
      (∀ item ∈ items, c item) ∧ terms = items.map f := by
  induction items generalizing terms with
  | nil => simp
  | cons item items ih =>
    rw [List.forall₂_cons_left_iff, List.forall_mem_cons, List.map_cons]
    constructor
    · rintro ⟨_, _, ⟨hc, rfl⟩, hall, rfl⟩
      obtain ⟨hcs, rfl⟩ := ih.1 hall
      exact ⟨⟨hc, hcs⟩, rfl⟩
    · rintro ⟨⟨hc, hcs⟩, rfl⟩
      exact ⟨_, _, ⟨hc, rfl⟩, ih.2 ⟨hcs, rfl⟩, rfl⟩

end Folds

@[simp] theorem expectSize_eq_ok_iff {what : Part} {expected actual : ℕ} {u : Unit} :
    expectSize what expected actual = .ok u ↔ expected = actual := by
  unfold expectSize
  split
  · rename_i h
    exact iff_of_true rfl h
  · rename_i h
    exact iff_of_false nofun h

/-! ## The transition constraints -/

/-- The sum of the weighed transition residues at the point `z`. -/
def Parameters.transitionSum (p : Parameters) (z : Residue q) (weights : List (Weight q))
    (evaluation : TransitionEvaluation q) : Residue q :=
  ((weights.zip (evaluation.residues.zip evaluation.degrees)).map fun (weight, residue, degree) =>
    p.transitionWeight z weight degree * residue).sum

theorem forall_mem_zip_degrees {weights : List (Weight q)} {residues : List (Residue q)}
    {degrees : List UInt64} (hw : weights.length = residues.length)
    (hd : degrees.length = residues.length) (c : UInt64 → Prop) :
    (∀ item ∈ weights.zip (residues.zip degrees), c item.2.2) ↔ ∀ d ∈ degrees, c d := by
  have hzip : weights.length = (residues.zip degrees).length := by
    rw [List.length_zip, hd, Nat.min_self, hw]
  exact (forall_mem_zip_snd hzip fun item => c item.2).trans (forall_mem_zip_snd hd.symm c)

section Transitions

variable {p : Parameters} {z : Residue q} {weights : List (Weight q)}
  {evaluation : TransitionEvaluation q} {d : TransitionDivisor q} {strategy : FoldStrategy}
  {r : Residue q}

theorem transitionTerm_eq_ok_iff {column : ℕ} {weight : Weight q} {residue t : Residue q}
    {degree : UInt64} :
    p.transitionTerm z column weight residue degree = .ok t ↔
      degree.toNat ≤ p.maxDegree.toNat ∧ t = p.transitionWeight z weight degree * residue := by
  rw [Parameters.transitionTerm_eq]
  by_cases h : degree.toNat ≤ p.maxDegree.toNat
  · rw [if_pos h]
    constructor
    · intro h'
      cases h'
      exact ⟨h, rfl⟩
    · rintro ⟨-, rfl⟩
      rfl
  · rw [if_neg h]
    exact iff_of_false nofun fun h' => h h'.1

/-- Both strategies find a term for every column, up to the first that has none, and divide the sum
of the terms. -/
theorem foldTransitions_eq :
    foldTransitions p z weights evaluation d strategy = (do
      expectSize .transitionWeights evaluation.residues.length weights.length
      expectSize .transitionDegrees evaluation.residues.length evaluation.degrees.length
      let terms ← (weights.zip (evaluation.residues.zip evaluation.degrees)).zipIdx.mapM fun item =>
        p.transitionTerm z item.2 item.1.1 item.1.2.1 item.1.2.2
      d.divide terms.sum) := by
  unfold foldTransitions
  refine bind_congr fun _ => bind_congr fun _ => ?_
  cases strategy with
  | sequential =>
    refine (congrArg (· >>= d.divide) (foldlM_eq_map_mapM (fun _ _ => rfl) _ _)).trans ?_
    simp only [map_eq_bind_pure_comp, bind_assoc, Function.comp_apply, pure_bind, zero_add]
  | reduction =>
    refine bind_congr fun terms => ?_
    rw [pairwiseSum_eq_sum]

theorem foldTransitions_eq_ok_iff :
    foldTransitions p z weights evaluation d strategy = .ok r ↔
      weights.length = evaluation.residues.length ∧
      evaluation.degrees.length = evaluation.residues.length ∧
      (∀ degree ∈ evaluation.degrees, degree.toNat ≤ p.maxDegree.toNat) ∧
      IsCheckedQuotient (p.transitionSum z weights evaluation) d.value r := by
  let R : Weight q × Residue q × UInt64 → Residue q → Prop := fun item t =>
    item.2.2.toNat ≤ p.maxDegree.toNat ∧ t = p.transitionWeight z item.1 item.2.2 * item.2.1
  have hterms : ∀ {items : List (Weight q × Residue q × UInt64)} {terms : List (Residue q)},
      items.zipIdx.mapM (fun item => p.transitionTerm z item.2 item.1.1 item.1.2.1 item.1.2.2) =
          .ok terms ↔
        (∀ item ∈ items, item.2.2.toNat ≤ p.maxDegree.toNat) ∧
          terms = items.map fun (weight, residue, degree) =>
            p.transitionWeight z weight degree * residue := by
    intro items terms
    rw [mapM_eq_ok_iff, ← forall₂_and_eq_iff]
    simp only [transitionTerm_eq_ok_iff]
    exact forall₂_zipIdx_iff (R := R)
  rw [foldTransitions_eq]
  simp only [bind_eq_ok_iff, expectSize_eq_ok_iff, exists_const, hterms, TransitionDivisor.divide,
    checkedQuotient_eq_ok_iff]
  constructor
  · rintro ⟨hw, hd, _, ⟨hc, rfl⟩, hr⟩
    exact ⟨hw.symm, hd.symm, (forall_mem_zip_degrees hw.symm hd.symm _).1 hc, hr⟩
  · rintro ⟨hw, hd, hc, hr⟩
    refine ⟨hw.symm, hd.symm, _, ⟨?_, rfl⟩, hr⟩
    exact (forall_mem_zip_degrees hw hd fun degree => degree.toNat ≤ p.maxDegree.toNat).2 hc

end Transitions

/-! ## The assertions -/

/-- A residue is what an assertion adds to the fold: its degree and its row are in range, and the
residue passes for the quotient of the weighed residue and the distance from the row. -/
structure IsAssertionTerm (p : Parameters) (z generator : Residue q) (weight : Weight q)
    (a : AssertionEvaluation q) (t : Residue q) : Prop where
  divisorDegree_le : a.divisorDegree.toNat ≤ p.traceLength.toNat - 1
  step_lt : a.step.toNat < p.traceLength.toNat
  quotient : IsCheckedQuotient (p.boundaryWeight z weight a.divisorDegree * a.residue)
    (z - generator ^ a.step.toNat) t

/-- The running value moves by a quotient. What was added is what the difference gives back, so the
re-check never fails. -/
theorem absorbQuotient_ofValue (value product divisor : Residue q) (kind : DivisorKind) :
    absorbQuotient value product (.ofValue divisor kind) =
      (value + ·) <$> checkedQuotient product divisor kind := by
  unfold absorbQuotient
  rw [BoundaryDivisor.divide_ofValue, BoundaryDivisor.value_ofValue]
  cases h : checkedQuotient product divisor kind with
  | error e => rfl
  | ok t =>
    refine if_pos ?_
    rw [add_sub_cancel_left, (checkedQuotient_eq_ok_iff.1 h).mul_eq]

/-- A quotient that is re-checked on its own has been checked already. -/
theorem recheck_checkedQuotient (product divisor : Residue q) (kind : DivisorKind) :
    (do
      let quotient ← checkedQuotient product divisor kind
      if quotient * divisor = product then return quotient
      else throw (.quotientMismatch kind)) = checkedQuotient product divisor kind := by
  cases h : checkedQuotient product divisor kind with
  | error e => rfl
  | ok t => exact if_pos (checkedQuotient_eq_ok_iff.1 h).mul_eq

section Assertions

variable (p : Parameters) (z generator : Residue q)

/-- What an assertion adds to the fold, or its first fault. The strategies look at the degree and at
the row in different orders; both divide last. -/
def assertionQuotient (strategy : FoldStrategy) (assertion : ℕ) (weight : Weight q)
    (a : AssertionEvaluation q) : Except CheckError (Residue q) :=
  match strategy with
  | .sequential => do
    let product ← p.boundaryTerm z assertion weight a
    let divisor ← BoundaryDivisor.singlePole z generator assertion a.step p
    divisor.divide product
  | .reduction => do
    let divisor ← BoundaryDivisor.singlePole z generator assertion a.step p
    let product ← p.boundaryTerm z assertion weight a
    divisor.divide product

variable {p z generator} {strategy : FoldStrategy} {weight : Weight q} {a : AssertionEvaluation q}

theorem sequentialStep_eq (value : Residue q) (assertion : ℕ) (weight : Weight q)
    (a : AssertionEvaluation q) :
    (do
      let product ← p.boundaryTerm z assertion weight a
      let divisor ← BoundaryDivisor.singlePole z generator assertion a.step p
      absorbQuotient value product divisor) =
      (value + ·) <$> assertionQuotient p z generator .sequential assertion weight a := by
  unfold assertionQuotient
  rw [BoundaryDivisor.singlePole_eq]
  cases p.boundaryTerm z assertion weight a with
  | error e => rfl
  | ok product =>
    split
    · exact absorbQuotient_ofValue ..
    · rfl

theorem reductionTerm_eq (assertion : ℕ) (weight : Weight q) (a : AssertionEvaluation q) :
    (do
      let divisor ← BoundaryDivisor.singlePole z generator assertion a.step p
      let product ← p.boundaryTerm z assertion weight a
      let quotient ← divisor.divide product
      if quotient * divisor.value = product then return quotient
      else throw (.quotientMismatch divisor.kind)) =
      assertionQuotient p z generator .reduction assertion weight a := by
  unfold assertionQuotient
  rw [BoundaryDivisor.singlePole_eq]
  split
  · cases p.boundaryTerm z assertion weight a with
    | error e => rfl
    | ok product => exact recheck_checkedQuotient ..
  · rfl

/-- An assertion whose degree and row are in range is divided, in either order. -/
theorem assertionQuotient_of_inRange (assertion : ℕ)
    (hdegree : a.divisorDegree.toNat ≤ p.traceLength.toNat - 1)
    (hstep : a.step.toNat < p.traceLength.toNat) :
    assertionQuotient p z generator strategy assertion weight a =
      checkedQuotient (p.boundaryWeight z weight a.divisorDegree * a.residue)
        (z - generator ^ a.step.toNat) (.boundary assertion a.step.toNat) := by
  cases strategy <;>
  · unfold assertionQuotient
    rw [Parameters.boundaryTerm_eq, if_pos hdegree, BoundaryDivisor.singlePole_eq, if_pos hstep]
    rfl

/-- The degree is the first fault, unless the reduction finds the row out of range before. -/
theorem assertionQuotient_of_degree (assertion : ℕ)
    (hdegree : ¬ a.divisorDegree.toNat ≤ p.traceLength.toNat - 1)
    (h : strategy = .sequential ∨ a.step.toNat < p.traceLength.toNat) :
    assertionQuotient p z generator strategy assertion weight a =
      .error (.degreeOutOfRange .boundaryDivisor assertion a.divisorDegree.toNat
        (p.traceLength.toNat - 1)) := by
  unfold assertionQuotient
  rw [Parameters.boundaryTerm_eq, if_neg hdegree]
  cases strategy with
  | sequential => rfl
  | reduction =>
    rw [BoundaryDivisor.singlePole_eq, if_pos (h.resolve_left nofun)]
    rfl

/-- The row is the first fault, unless the sequential fold finds the degree out of range before. -/
theorem assertionQuotient_of_step (assertion : ℕ)
    (hstep : ¬ a.step.toNat < p.traceLength.toNat)
    (h : strategy = .reduction ∨ a.divisorDegree.toNat ≤ p.traceLength.toNat - 1) :
    assertionQuotient p z generator strategy assertion weight a =
      .error (.assertionStepOutOfRange assertion a.step.toNat p.traceLength.toNat) := by
  unfold assertionQuotient
  rw [BoundaryDivisor.singlePole_eq, if_neg hstep]
  cases strategy with
  | sequential =>
    rw [Parameters.boundaryTerm_eq, if_pos (h.resolve_left nofun)]
    rfl
  | reduction => rfl

theorem assertionQuotient_eq_ok_iff {assertion : ℕ} {t : Residue q} :
    assertionQuotient p z generator strategy assertion weight a = .ok t ↔
      IsAssertionTerm p z generator weight a t := by
  by_cases hdegree : a.divisorDegree.toNat ≤ p.traceLength.toNat - 1
  · by_cases hstep : a.step.toNat < p.traceLength.toNat
    · rw [assertionQuotient_of_inRange assertion hdegree hstep, checkedQuotient_eq_ok_iff]
      exact ⟨fun h => ⟨hdegree, hstep, h⟩, fun h => h.quotient⟩
    · rw [assertionQuotient_of_step assertion hstep (.inr hdegree)]
      exact iff_of_false nofun fun h => hstep h.step_lt
  · refine iff_of_false ?_ fun h => hdegree h.divisorDegree_le
    -- Behind a degree out of range the row may be out of range as well, and then it is reported.
    by_cases h : strategy = .sequential ∨ a.step.toNat < p.traceLength.toNat
    · rw [assertionQuotient_of_degree assertion hdegree h]
      exact nofun
    · rw [not_or] at h
      have hreduction : strategy = .reduction := by
        cases strategy with
        | sequential => exact absurd rfl h.1
        | reduction => rfl
      rw [assertionQuotient_of_step assertion h.2 (.inl hreduction)]
      exact nofun

variable {weights : List (Weight q)} {evaluation : BoundaryEvaluation q} {seed : Residue q}

/-- Both strategies find a quotient for every assertion, up to the first that has a fault, and add
them to the seed. -/
theorem foldBoundaries_eq :
    foldBoundaries p z generator weights evaluation seed strategy = (do
      expectSize .boundaryWeights evaluation.assertions.length weights.length
      let quotients ← (weights.zip evaluation.assertions).zipIdx.mapM fun item =>
        assertionQuotient p z generator strategy item.2 item.1.1 item.1.2
      return seed + quotients.sum) := by
  unfold foldBoundaries
  refine bind_congr fun _ => ?_
  cases strategy with
  | sequential =>
    refine (foldlM_eq_map_mapM (fun value item => ?_) _ _).trans (map_eq_bind_pure_comp ..)
    exact sequentialStep_eq value item.2 item.1.1 item.1.2
  | reduction =>
    refine congrArg₂ (· >>= ·) (congrArg (List.mapM · _) (funext fun item => ?_))
      (funext fun quotients => ?_)
    · exact reductionTerm_eq item.2 item.1.1 item.1.2
    · rw [pairwiseSum_eq_sum]

theorem foldBoundaries_eq_ok_iff {r : Residue q} :
    foldBoundaries p z generator weights evaluation seed strategy = .ok r ↔
      weights.length = evaluation.assertions.length ∧
      ∃ terms,
        List.Forall₂ (fun item t => IsAssertionTerm p z generator item.1 item.2 t)
          (weights.zip evaluation.assertions) terms ∧
        r = seed + terms.sum := by
  let R : Weight q × AssertionEvaluation q → Residue q → Prop := fun item t =>
    IsAssertionTerm p z generator item.1 item.2 t
  rw [foldBoundaries_eq]
  simp only [bind_eq_ok_iff, expectSize_eq_ok_iff, exists_const, mapM_eq_ok_iff,
    assertionQuotient_eq_ok_iff]
  refine and_congr eq_comm (exists_congr fun terms => and_congr ?_ ?_)
  · exact forall₂_zipIdx_iff (R := R)
  · constructor
    · rintro ⟨⟩
      rfl
    · rintro rfl
      rfl

end Assertions

end OutOfDomain
