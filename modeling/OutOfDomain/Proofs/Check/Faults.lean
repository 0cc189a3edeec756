import OutOfDomain.Proofs.Check.Guard

/-!
# Which fault a check reports

Inputs come from documents, so they may have any number of faults at once, and a check ends at one of
them. The order is spread over six comparisons of sizes, the transition divisor and two folds that
stop early. Here it is one list: `EvaluatedInputs.faults` puts down *all* faults of inputs in order,
with no loop and no value carried along, and `verify_eq_first_fault` says that a sequential check over
a field ends in the head of that list, or accepts if the list is empty.

A part of a check that does nothing but look for faults is `reportFirst` of a list of faults, and a
sequence of such parts is `reportFirst` of their lists one after the other, where a later list may
assume that the earlier ones are empty (`bind_eq_reportFirst`). That assumption is what makes the
later parts meaningful: the folds pair up lists whose sizes have been compared, and the two sides are
quotients by residues that are not zero.
-/

set_option autoImplicit false

namespace OutOfDomain

variable {q : Modulus}

/-! ## The first of several faults -/

section First

variable {α β : Type}

/-- End in the first of the faults, or in the value if there is none. -/
def reportFirst (faults : List CheckError) (a : α) : Except CheckError α :=
  match faults with
  | [] => .ok a
  | e :: _ => .error e

/-- The fault under its condition, and none otherwise. -/
def faultIf (c : Prop) [Decidable c] (e : CheckError) : List CheckError := if c then [e] else []

theorem reportFirst_faultIf (c : Prop) [Decidable c] (e : CheckError) (a : α) :
    reportFirst (faultIf c e) a = if c then .error e else .ok a := by
  unfold faultIf
  split <;> rfl

@[simp] theorem faultIf_eq_nil_iff {c : Prop} [Decidable c] {e : CheckError} :
    faultIf c e = [] ↔ ¬ c := by
  unfold faultIf
  split
  · exact iff_of_false nofun (not_not_intro ‹_›)
  · exact iff_of_true rfl ‹_›

theorem mem_faultIf {c : Prop} [Decidable c] {e e' : CheckError} :
    e ∈ faultIf c e' ↔ c ∧ e = e' := by
  unfold faultIf
  split
  · rename_i h
    rw [List.mem_singleton, and_iff_right h]
  · rename_i h
    exact iff_of_false List.not_mem_nil fun h' => h h'.1

/-- A sequence reports the faults of its parts one after the other. The second part need only be
known for the case that the first one has none. -/
theorem bind_eq_reportFirst {x : Except CheckError α} {f : α → Except CheckError β}
    {es es' : List CheckError} {a : α} {b : β} (hx : x = reportFirst es a)
    (hf : es = [] → f a = reportFirst es' b) : (x >>= f) = reportFirst (es ++ es') b := by
  subst hx
  cases es with
  | nil => exact hf rfl
  | cons e es => rfl

theorem reportFirst_append {es : List CheckError} (es' : List CheckError) (a : α) (h : es ≠ []) :
    reportFirst (es ++ es') a = reportFirst es a := by
  cases es with
  | nil => exact absurd rfl h
  | cons e es => rfl

/-- What follows some faults only matters if there are none. -/
theorem reportFirst_append_congr {es es' es'' : List CheckError} {a : α}
    (h : es = [] → reportFirst es' a = reportFirst es'' a) :
    reportFirst (es ++ es') a = reportFirst (es ++ es'') a := by
  cases es with
  | nil => exact h rfl
  | cons e es => rfl

theorem onlyRaises_reportFirst {P : CheckError → Prop} {faults : List CheckError} {a : α}
    (h : ∀ e ∈ faults, P e) : OnlyRaises P (reportFirst faults a) := by
  cases faults with
  | nil => exact .ok a
  | cons e faults => exact .error (h e List.mem_cons_self)

theorem mapM_eq_reportFirst {f : α → Except CheckError β} {faults : α → List CheckError}
    {value : α → β} {as : List α} (h : ∀ a, f a = reportFirst (faults a) (value a)) :
    as.mapM f = reportFirst (as.flatMap faults) (as.map value) := by
  induction as with
  | nil => rfl
  | cons a as ih =>
    rw [List.mapM_cons, List.flatMap_cons, List.map_cons]
    refine bind_eq_reportFirst (h a) fun _ => ?_
    rw [← List.append_nil (as.flatMap faults)]
    exact bind_eq_reportFirst ih fun _ => rfl

/-- Numbered items, with faults that only depend on the number and on a part of the item. -/
theorem mapM_zipIdx_eq_reportFirst {γ : Type} {f : α × ℕ → Except CheckError β}
    {faults : γ × ℕ → List CheckError} {part : α → γ} {value : α → β}
    (h : ∀ a i, f (a, i) = reportFirst (faults (part a, i)) (value a)) (items : List α) :
    items.zipIdx.mapM f =
      reportFirst ((items.map part).zipIdx.flatMap faults) (items.map value) := by
  have hfaults : (items.map part).zipIdx.flatMap faults =
      items.zipIdx.flatMap fun item => faults (part item.1, item.2) := by
    rw [List.zipIdx_map, List.flatMap_map]
    rfl
  have hvalues : items.map value = items.zipIdx.map fun item => value item.1 := by
    conv_lhs => rw [← List.zipIdx_map_fst 0 items]
    exact List.map_map
  rw [hfaults, hvalues]
  exact mapM_eq_reportFirst fun item => h item.1 item.2

end First

/-! ## Sizes -/

/-- A size that is compared: what is counted, how many there should be and how many there are. -/
structure Size where
  what : Part
  expected : ℕ
  actual : ℕ

/-- The fault of a size that differs from the expected one. -/
def Size.faults (s : Size) : List CheckError :=
  faultIf (s.expected ≠ s.actual) (.shapeMismatch s.what s.expected s.actual)

/-- The faults of some sizes, in order. -/
def sizeFaults (sizes : List Size) : List CheckError := sizes.flatMap Size.faults

theorem sizeFaults_cons (s : Size) (sizes : List Size) :
    sizeFaults (s :: sizes) = s.faults ++ sizeFaults sizes :=
  List.flatMap_cons

theorem sizeFaults_append (sizes sizes' : List Size) :
    sizeFaults (sizes ++ sizes') = sizeFaults sizes ++ sizeFaults sizes' :=
  List.flatMap_append

theorem Size.faults_of_eq {what : Part} {expected actual : ℕ} (h : expected = actual) :
    Size.faults ⟨what, expected, actual⟩ = [] :=
  faultIf_eq_nil_iff.2 (not_not.2 h)

theorem sizeFaults_eq_nil_iff {sizes : List Size} :
    sizeFaults sizes = [] ↔ ∀ s ∈ sizes, s.expected = s.actual := by
  simp only [sizeFaults, Size.faults, List.flatMap_eq_nil_iff, faultIf_eq_nil_iff, not_not]

theorem expectSize_eq_reportFirst (s : Size) :
    expectSize s.what s.expected s.actual = reportFirst s.faults () := by
  rw [Size.faults, reportFirst_faultIf, ite_not]
  rfl

/-- Sizes that are compared one after the other, before anything else. -/
theorem expectSizes_bind {α : Type} (s : Size) (sizes : List Size) (x : Except CheckError α) :
    (do reportFirst (sizeFaults (s :: sizes)) (); x) = (do
      expectSize s.what s.expected s.actual
      reportFirst (sizeFaults sizes) ()
      x) := by
  rw [← bind_assoc]
  exact congrArg (· >>= fun _ => x)
    (bind_eq_reportFirst (expectSize_eq_reportFirst s) fun _ => rfl).symm

/-- The first of some sizes that differ is a fault of shape. -/
theorem exists_shapeMismatch_of_sizeFaults {α : Type} {sizes : List Size} (a : α)
    (h : sizeFaults sizes ≠ []) :
    ∃ what expected actual,
      reportFirst (sizeFaults sizes) a = .error (.shapeMismatch what expected actual) := by
  have hall : ∀ e ∈ sizeFaults sizes, ∃ what expected actual,
      e = .shapeMismatch what expected actual := by
    intro e he
    obtain ⟨s, -, hs⟩ := List.mem_flatMap.1 he
    exact ⟨_, _, _, (mem_faultIf.1 hs).2⟩
  cases hf : sizeFaults sizes with
  | nil => exact absurd hf h
  | cons e es =>
    obtain ⟨what, expected, actual, rfl⟩ := hall e (hf ▸ List.mem_cons_self)
    exact ⟨what, expected, actual, rfl⟩

namespace EvaluatedInputs

variable (inputs : EvaluatedInputs q) (p : Parameters)

/-- The sizes of what is folded, in the order in which they are compared. -/
def foldSizes : List Size :=
  [⟨.transitionResidues, p.traceWidth.toNat, inputs.transition.residues.length⟩,
    ⟨.transitionDegrees, p.traceWidth.toNat, inputs.transition.degrees.length⟩,
    ⟨.transitionWeights, p.traceWidth.toNat, inputs.transitionWeights.length⟩,
    ⟨.boundaryAssertions, p.assertionCount.toNat, inputs.boundary.assertions.length⟩,
    ⟨.boundaryWeights, p.assertionCount.toNat, inputs.boundaryWeights.length⟩]

/-- All sizes. That of the channel is compared before the others. -/
def sizes : List Size :=
  ⟨.channel, p.traceWidth.toNat, inputs.channel.length⟩ :: inputs.foldSizes p

variable {inputs p}

theorem sizeFaults_foldSizes_eq_nil_iff :
    sizeFaults (inputs.foldSizes p) = [] ↔ inputs.Sized p := by
  rw [sizeFaults_eq_nil_iff]
  simp only [foldSizes, List.forall_mem_cons, List.not_mem_nil, false_imp_iff, implies_true,
    and_true]
  constructor
  · rintro ⟨hr, hd, hw, ha, hb⟩
    exact ⟨hr.symm, hd.symm, hw.symm, ha.symm, hb.symm⟩
  · rintro ⟨hr, hd, hw, ha, hb⟩
    exact ⟨hr.symm, hd.symm, hw.symm, ha.symm, hb.symm⟩

theorem sizeFaults_sizes_eq_nil_iff :
    sizeFaults (inputs.sizes p) = [] ↔
      inputs.channel.length = p.traceWidth.toNat ∧ inputs.Sized p := by
  rw [← sizeFaults_foldSizes_eq_nil_iff, sizeFaults_eq_nil_iff, sizeFaults_eq_nil_iff, sizes,
    List.forall_mem_cons]
  exact and_congr_left fun _ => eq_comm

end EvaluatedInputs

/-- What is left of an accumulation once the sizes have been compared. -/
def Verifier.foldSized (v : Verifier) (inputs : EvaluatedInputs q) :
    Except CheckError (Accumulation q) := do
  let p := v.parameters
  let divisor ← TransitionDivisor.evaluate inputs.z inputs.generator p
  let transitionResult ←
    foldTransitions p inputs.z inputs.transitionWeights inputs.transition divisor v.strategy
  let finalValue ← foldBoundaries p inputs.z inputs.generator inputs.boundaryWeights
    inputs.boundary transitionResult v.strategy
  return { transitionResult, finalValue }

theorem Verifier.evaluateConstraints_eq_bind (v : Verifier) (inputs : EvaluatedInputs q) :
    v.evaluateConstraints inputs = (do
      reportFirst (sizeFaults (inputs.foldSizes v.parameters)) ()
      v.foldSized inputs) := by
  simp only [EvaluatedInputs.foldSizes, expectSizes_bind]
  rfl

/-! ## Faults of evaluated inputs -/

namespace EvaluatedInputs

section Lists

variable (inputs : EvaluatedInputs q) (p : Parameters)

/-- The point lies on a row, or on what a wrong generator takes for the last one. -/
def pointFaults : List CheckError :=
  faultIf (inputs.z ^ p.traceLength.toNat = 1 ∨
      inputs.z = inputs.generator ^ (p.traceLength.toNat - 1))
    (.degenerateDivisor .transition)

/-- The columns whose degree is above the highest. -/
def columnFaults : List CheckError :=
  inputs.transition.degrees.zipIdx.flatMap fun (degree, column) =>
    faultIf (p.maxDegree.toNat < degree.toNat)
      (.degreeOutOfRange .transitionConstraint column degree.toNat p.maxDegree.toNat)

/-- The faults of one assertion: its degree, its row, and the distance of the point from that row. -/
def faultsOf (a : AssertionEvaluation q) (assertion : ℕ) : List CheckError :=
  faultIf (p.traceLength.toNat - 1 < a.divisorDegree.toNat)
      (.degreeOutOfRange .boundaryDivisor assertion a.divisorDegree.toNat
        (p.traceLength.toNat - 1)) ++
    (faultIf (p.traceLength.toNat ≤ a.step.toNat)
      (.assertionStepOutOfRange assertion a.step.toNat p.traceLength.toNat) ++
    faultIf (inputs.z = inputs.generator ^ a.step.toNat)
      (.degenerateDivisor (.boundary assertion a.step.toNat)))

/-- The faults of all assertions, one assertion after the other. -/
def assertionFaults : List CheckError :=
  inputs.boundary.assertions.zipIdx.flatMap fun (a, assertion) => inputs.faultsOf p a assertion

variable [Fact q.toNat.Prime]

/-- The two sides differ. -/
def disagreement : List CheckError :=
  faultIf (inputs.channelValue ≠ inputs.constraintValue p)
    (.consistencyViolation inputs.channelValue.toNat (inputs.constraintValue p).toNat)

/-- All faults of inputs, in the order in which they are reported. -/
def faults : List CheckError :=
  sizeFaults (inputs.sizes p) ++ (inputs.pointFaults p ++ (inputs.columnFaults p ++
    (inputs.assertionFaults p ++ inputs.disagreement p)))

end Lists

/-- Every index that the folds run over is an index of all lists that they look it up in. -/
structure InBounds (inputs : EvaluatedInputs q) : Prop where
  column : ∀ i < inputs.transition.residues.length,
    i < inputs.transitionWeights.length ∧ i < inputs.transition.degrees.length
  assertion : ∀ j < inputs.boundary.assertions.length, j < inputs.boundaryWeights.length

theorem Sized.inBounds {inputs : EvaluatedInputs q} {p : Parameters} (h : inputs.Sized p) :
    inputs.InBounds := by
  refine ⟨fun i hi => ?_, fun j hj => ?_⟩
  · rw [h.length_transitionWeights, h.length_degrees, ← h.length_residues]
    exact ⟨hi, hi⟩
  · rw [h.length_boundaryWeights, ← h.length_assertions]
    exact hj

end EvaluatedInputs

/-! ## The parts of a check -/

section Parts

variable {inputs : EvaluatedInputs q} {p : Parameters}

theorem transitionTerm_eq_reportFirst (column : ℕ) (weight : Weight q) (residue : Residue q)
    (degree : UInt64) :
    p.transitionTerm inputs.z column weight residue degree =
      reportFirst (faultIf (p.maxDegree.toNat < degree.toNat)
          (.degreeOutOfRange .transitionConstraint column degree.toNat p.maxDegree.toNat))
        (p.transitionWeight inputs.z weight degree * residue) := by
  rw [Parameters.transitionTerm_eq, reportFirst_faultIf, ← ite_not]
  simp only [Nat.not_le]

variable [Fact q.toNat.Prime]

theorem evaluate_eq_reportFirst :
    TransitionDivisor.evaluate inputs.z inputs.generator p = reportFirst (inputs.pointFaults p)
      ⟨(inputs.z ^ p.traceLength.toNat - 1) /
        (inputs.z - inputs.generator ^ (p.traceLength.toNat - 1))⟩ := by
  rw [TransitionDivisor.evaluate_eq_ite, EvaluatedInputs.pointFaults, reportFirst_faultIf]

theorem assertionQuotient_eq_reportFirst (assertion : ℕ) (weight : Weight q)
    (a : AssertionEvaluation q) :
    assertionQuotient p inputs.z inputs.generator .sequential assertion weight a =
      reportFirst (inputs.faultsOf p a assertion) (inputs.assertionValue p weight a) := by
  unfold assertionQuotient
  refine bind_eq_reportFirst (a := p.boundaryWeight inputs.z weight a.divisorDegree * a.residue)
    ?_ fun _ => bind_eq_reportFirst
      (a := .ofValue (inputs.z - inputs.generator ^ a.step.toNat) (.boundary assertion a.step.toNat))
      ?_ fun _ => ?_
  · rw [Parameters.boundaryTerm_eq, reportFirst_faultIf, ← ite_not]
    simp only [Nat.not_le]
  · rw [BoundaryDivisor.singlePole_eq, reportFirst_faultIf, ← ite_not]
    simp only [Nat.not_lt]
  · rw [BoundaryDivisor.divide_ofValue, checkedQuotient_eq, reportFirst_faultIf]
    simp only [sub_eq_zero]
    rfl

/-- Off the rows, the fold of sized columns reports the first degree that is out of range. -/
theorem foldTransitions_eq_reportFirst {strategy : FoldStrategy} (hsized : inputs.Sized p)
    (hpoint : inputs.pointFaults p = []) :
    foldTransitions p inputs.z inputs.transitionWeights inputs.transition
        ⟨(inputs.z ^ p.traceLength.toNat - 1) /
          (inputs.z - inputs.generator ^ (p.traceLength.toNat - 1))⟩ strategy =
      reportFirst (inputs.columnFaults p) (inputs.transitionValue p) := by
  have hweights : inputs.transition.residues.length = inputs.transitionWeights.length :=
    hsized.length_residues.trans hsized.length_transitionWeights.symm
  have hdegrees : inputs.transition.residues.length = inputs.transition.degrees.length :=
    hsized.length_residues.trans hsized.length_degrees.symm
  obtain ⟨hpow, hlast⟩ := not_or.1 (faultIf_eq_nil_iff.1 hpoint)
  have hdivisor : (inputs.z ^ p.traceLength.toNat - 1) /
      (inputs.z - inputs.generator ^ (p.traceLength.toNat - 1)) ≠ 0 :=
    div_ne_zero (sub_ne_zero.2 hpow) (sub_ne_zero.2 hlast)
  let items := inputs.transitionWeights.zip
    (inputs.transition.residues.zip inputs.transition.degrees)
  have hpart : items.map (fun item => item.2.2) = inputs.transition.degrees := by
    have hzip : (inputs.transition.residues.zip inputs.transition.degrees).length ≤
        inputs.transitionWeights.length := by
      rw [List.length_zip, ← hdegrees, Nat.min_self, hweights]
    exact List.map_map.symm.trans (by rw [List.map_snd_zip hzip, List.map_snd_zip hdegrees.ge])
  have hterms : items.zipIdx.mapM (fun item =>
        p.transitionTerm inputs.z item.2 item.1.1 item.1.2.1 item.1.2.2) =
      reportFirst (inputs.columnFaults p)
        (items.map fun item => p.transitionWeight inputs.z item.1 item.2.2 * item.2.1) := by
    rw [EvaluatedInputs.columnFaults, ← hpart]
    exact mapM_zipIdx_eq_reportFirst (fun item column => transitionTerm_eq_reportFirst ..) items
  rw [foldTransitions_eq, ← List.append_nil (inputs.columnFaults p),
    expectSize_eq_ok_iff (u := ()).2 hweights, expectSize_eq_ok_iff (u := ()).2 hdegrees]
  refine bind_eq_reportFirst (x := items.zipIdx.mapM _) hterms fun _ => ?_
  rw [TransitionDivisor.divide, checkedQuotient_eq, if_neg hdivisor]
  exact congrArg Except.ok (div_div_eq_mul_div _ _ _)

/-- The sequential fold of sized assertions reports the first fault of the first that has one. -/
theorem foldBoundaries_eq_reportFirst (hsized : inputs.Sized p) :
    foldBoundaries p inputs.z inputs.generator inputs.boundaryWeights inputs.boundary
        (inputs.transitionValue p) .sequential =
      reportFirst (inputs.assertionFaults p) (inputs.constraintValue p) := by
  have hweights : inputs.boundary.assertions.length = inputs.boundaryWeights.length :=
    hsized.length_assertions.trans hsized.length_boundaryWeights.symm
  let items := inputs.boundaryWeights.zip inputs.boundary.assertions
  have hpart : items.map Prod.snd = inputs.boundary.assertions := List.map_snd_zip hweights.le
  have hquotients : items.zipIdx.mapM (fun item =>
        assertionQuotient p inputs.z inputs.generator .sequential item.2 item.1.1 item.1.2) =
      reportFirst (inputs.assertionFaults p)
        (items.map fun item => inputs.assertionValue p item.1 item.2) := by
    rw [EvaluatedInputs.assertionFaults, ← hpart]
    exact mapM_zipIdx_eq_reportFirst (fun item assertion => assertionQuotient_eq_reportFirst ..) items
  rw [foldBoundaries_eq, ← List.append_nil (inputs.assertionFaults p),
    expectSize_eq_ok_iff (u := ()).2 hweights]
  exact bind_eq_reportFirst (x := items.zipIdx.mapM _) hquotients fun _ => rfl

theorem finish_eq_reportFirst (result : Residue q) :
    Verifier.finish inputs.channel inputs.z ⟨result, inputs.constraintValue p⟩ =
      reportFirst (inputs.disagreement p) () := by
  unfold Verifier.finish
  rw [combineChannel_eq_sum, EvaluatedInputs.disagreement, reportFirst_faultIf, ite_not]
  rfl

end Parts

/-! ## The order of faults -/

section Order

variable [Fact q.toNat.Prime] {inputs : EvaluatedInputs q} {p : Parameters}

theorem verify_eq_reportFirst (s : Schedule) :
    Verifier.verify ⟨p, .sequential, s⟩ inputs = reportFirst (inputs.faults p) () := by
  have hsizes : inputs.faults p =
      Size.faults ⟨.channel, p.traceWidth.toNat, inputs.channel.length⟩ ++
        (sizeFaults (inputs.foldSizes p) ++ (inputs.pointFaults p ++ (inputs.columnFaults p ++
          (inputs.assertionFaults p ++ inputs.disagreement p)))) :=
    List.append_assoc ..
  rw [hsizes]
  refine bind_eq_reportFirst (expectSize_eq_reportFirst ⟨_, _, _⟩) fun _ => ?_
  rw [Verifier.evaluateConstraints_eq_bind, bind_assoc]
  refine bind_eq_reportFirst rfl fun hfold => ?_
  have hsized : inputs.Sized p := EvaluatedInputs.sizeFaults_foldSizes_eq_nil_iff.1 hfold
  unfold Verifier.foldSized
  simp only [bind_assoc, pure_bind]
  refine bind_eq_reportFirst evaluate_eq_reportFirst fun hpoint => ?_
  refine bind_eq_reportFirst (foldTransitions_eq_reportFirst hsized hpoint) fun _ => ?_
  refine bind_eq_reportFirst (foldBoundaries_eq_reportFirst hsized) fun _ => ?_
  exact finish_eq_reportFirst _

/-- **The order of faults.** Over a field, a sequential check ends in the first of all faults of its
inputs: a size that differs, then the point, then the columns, then the assertions one by one, then
the two sides; it accepts if there is none. A size that differs comes before everything else, and
unless one is reported, no index of a fold is out of bounds. -/
theorem verify_eq_first_fault (p : Parameters) (s : Schedule) (inputs : EvaluatedInputs q) :
    Verifier.verify ⟨p, .sequential, s⟩ inputs = reportFirst (inputs.faults p) () ∧
      (¬ (inputs.channel.length = p.traceWidth.toNat ∧ inputs.Sized p) →
        ∃ what expected actual, Verifier.verify ⟨p, .sequential, s⟩ inputs =
          .error (.shapeMismatch what expected actual)) ∧
      ((∀ what expected actual, Verifier.verify ⟨p, .sequential, s⟩ inputs ≠
          .error (.shapeMismatch what expected actual)) → inputs.InBounds) := by
  have hsize : ¬ (inputs.channel.length = p.traceWidth.toNat ∧ inputs.Sized p) →
      ∃ what expected actual, Verifier.verify ⟨p, .sequential, s⟩ inputs =
        .error (.shapeMismatch what expected actual) := by
    intro h
    rw [← EvaluatedInputs.sizeFaults_sizes_eq_nil_iff] at h
    obtain ⟨what, expected, actual, hfirst⟩ := exists_shapeMismatch_of_sizeFaults () h
    refine ⟨what, expected, actual, ?_⟩
    rw [verify_eq_reportFirst, EvaluatedInputs.faults, reportFirst_append _ _ h, hfirst]
  refine ⟨verify_eq_reportFirst s, hsize, fun h => ?_⟩
  by_contra hbounds
  obtain ⟨what, expected, actual, hshape⟩ := hsize fun hsized => hbounds hsized.2.inBounds
  exact h what expected actual hshape

end Order

/-- Inputs of which everything is out of range, of as many weights of columns as are given. The point
is on no row, though. -/
def tangledInputs (weights : List (Weight Modulus.small)) : EvaluatedInputs Modulus.small :=
  { workedInputs 30 with
    transitionWeights := weights
    transition := ⟨[.ofWord 10], [9]⟩
    boundary := ⟨[⟨.ofWord 5, 7, 7⟩]⟩ }

/-- The degree of the column comes before all faults of the assertion, and a missing weight before
that. -/
theorem verify_tangledInputs :
    Verifier.verify ⟨workedParameters, .sequential, .standard⟩
        (tangledInputs [⟨.ofWord 2, .ofWord 3⟩]) =
          .error (.degreeOutOfRange .transitionConstraint 0 9 3) ∧
      Verifier.verify ⟨workedParameters, .sequential, .standard⟩ (tangledInputs []) =
        .error (.shapeMismatch .transitionWeights 1 0) := by
  have hcolumn :=
    (verify_eq_first_fault workedParameters .standard (tangledInputs [⟨.ofWord 2, .ofWord 3⟩])).1
  have hweight := (verify_eq_first_fault workedParameters .standard (tangledInputs [])).1
  exact ⟨hcolumn.trans (by decide +kernel), hweight.trans (by decide +kernel)⟩

end OutOfDomain
