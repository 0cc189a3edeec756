import OutOfDomain.Proofs.Check.Acceptance

/-!
# Changing one scalar

How much does a check notice? The gap between its two sides is affine in every single scalar of the
inputs (`EvaluatedInputs.exists_slope`): a change of the scalar moves the gap by a slope times the
change. Inputs that are accepted have no gap, so after the change of one scalar they are accepted
exactly if the slope is zero. `EvaluatedInputs.Blind` lists where it is, and it is a short list: a
weight does not count where the residue that it weighs is zero, a residue not where its weight is, and
at the point zero nothing counts that is multiplied with a power of the point.

The point, the generator, the degrees and the rows are no scalars in this sense: they stand in
exponents and in denominators.
-/

set_option autoImplicit false

namespace OutOfDomain

variable {q : Modulus}

/-! ## Sums and lists with one entry changed -/

section Lists

variable {α β : Type}

theorem zip_modify (f : α → α) (g : β → β) (as : List α) (bs : List β) (i : ℕ) :
    (as.modify i f).zip (bs.modify i g) = (as.zip bs).modify i (Prod.map f g) := by
  induction as generalizing bs i with
  | nil => cases i <;> simp
  | cons a as ih =>
    cases bs with
    | nil => cases i <;> simp
    | cons b bs =>
      cases i with
      | zero => simp
      | succ i => simp [ih]

theorem zipIdx_modify (f : α → α) (as : List α) (i : ℕ) :
    (as.modify i f).zipIdx = as.zipIdx.modify i (Prod.map f id) := by
  rw [List.zipIdx_eq_zip_range', List.zipIdx_eq_zip_range', List.length_modify, ← zip_modify,
    List.modify_id]

/-- The sum moves by the change of the one term that has changed. -/
theorem sum_map_modify {f : α → Residue q} {g : α → α} {as : List α} {i : ℕ} {a : α}
    (ha : as[i]? = some a) :
    ((as.modify i g).map f).sum = (as.map f).sum + (f (g a) - f a) := by
  induction as generalizing i with
  | nil => cases ha
  | cons b as ih =>
    cases i with
    | zero =>
      cases ha
      rw [List.modify_zero_cons, List.map_cons, List.map_cons, List.sum_cons, List.sum_cons]
      ring
    | succ i =>
      rw [List.modify_succ_cons, List.map_cons, List.map_cons, List.sum_cons, List.sum_cons,
        ih (i := i) ha]
      ring

theorem forall_mem_modify_iff {g : α → α} {c : α → Prop} (hc : ∀ a, c (g a) ↔ c a) {as : List α}
    {i : ℕ} : (∀ a ∈ as.modify i g, c a) ↔ ∀ a ∈ as, c a := by
  induction as generalizing i with
  | nil => simp
  | cons b as ih =>
    cases i with
    | zero => simp [hc]
    | succ i => simp [ih]

end Lists

/-! ## Scalars -/

/-- What can be changed in a constraint: one coefficient of its weight, or its residue. -/
inductive Scalar where
  | c0
  | c1
  | residue
  deriving DecidableEq, Repr

namespace Scalar

/-- The scalar of a constraint. -/
def get : Scalar → Weight q → Residue q → Residue q
  | c0, weight, _ => weight.c0
  | c1, weight, _ => weight.c1
  | residue, _, r => r

/-- The weight of a constraint after its scalar has been replaced. -/
def setWeight (x : Residue q) : Scalar → Weight q → Weight q
  | c0, weight => { weight with c0 := x }
  | c1, weight => { weight with c1 := x }
  | residue, weight => weight

/-- The residue of a constraint after its scalar has been replaced. -/
def setResidue (x : Residue q) : Scalar → Residue q → Residue q
  | residue, _ => x
  | _, r => r

/-- An assertion after its scalar has been replaced. -/
def setAssertion (x : Residue q) (s : Scalar) (a : AssertionEvaluation q) :
    AssertionEvaluation q :=
  { a with residue := s.setResidue x a.residue }

/-- What a change of the scalar is multiplied with in the weighed residue. -/
def slope (adjustment : Residue q) (weight : Weight q) (r : Residue q) : Scalar → Residue q
  | c0 => r
  | c1 => adjustment * r
  | residue => weight.at adjustment

/-- The scalar does not count in the residue, weighed at the point `z` and lifted by the exponent. -/
def Blind (z : Residue q) (exponent : ℕ) (weight : Weight q) (r : Residue q) : Scalar → Prop
  | c0 => r = 0
  | c1 => r = 0 ∨ z = 0 ∧ 0 < exponent
  | residue => weight.at (z ^ exponent) = 0

theorem at_setWeight_mul_setResidue (s : Scalar) (x adjustment : Residue q) (weight : Weight q)
    (r : Residue q) :
    (s.setWeight x weight).at adjustment * s.setResidue x r - weight.at adjustment * r =
      s.slope adjustment weight r * (x - s.get weight r) := by
  cases s <;>
  · simp only [Weight.at, setWeight, setResidue, slope, get]
    ring

theorem slope_eq_zero_iff [Fact q.toNat.Prime] (s : Scalar) (z : Residue q) (exponent : ℕ)
    (weight : Weight q) (r : Residue q) :
    s.slope (z ^ exponent) weight r = 0 ↔ s.Blind z exponent weight r := by
  cases s with
  | c0 => exact Iff.rfl
  | c1 =>
    change z ^ exponent * r = 0 ↔ r = 0 ∨ z = 0 ∧ 0 < exponent
    rw [mul_eq_zero, pow_eq_zero_iff', Nat.pos_iff_ne_zero, or_comm]
  | residue => exact Iff.rfl

end Scalar

/-- Where in the inputs a scalar stands. -/
inductive Site where
  | channel (index : ℕ)
  | column (scalar : Scalar) (index : ℕ)
  | assertion (scalar : Scalar) (index : ℕ)
  deriving DecidableEq, Repr

namespace EvaluatedInputs

/-- The scalar that stands at a site, if the site exists. -/
def scalar? (inputs : EvaluatedInputs q) : Site → Option (Residue q)
  | .channel i => inputs.channel[i]?
  | .column s i => do
    return s.get (← inputs.transitionWeights[i]?) (← inputs.transition.residues[i]?)
  | .assertion s i => do
    return s.get (← inputs.boundaryWeights[i]?) (← inputs.boundary.assertions[i]?).residue

/-- The inputs with another scalar at a site, and the same everywhere else. -/
def replace (inputs : EvaluatedInputs q) (x : Residue q) : Site → EvaluatedInputs q
  | .channel i => { inputs with channel := inputs.channel.modify i fun _ => x }
  | .column s i =>
    { inputs with
      transitionWeights := inputs.transitionWeights.modify i (s.setWeight x)
      transition :=
        { inputs.transition with residues := inputs.transition.residues.modify i (s.setResidue x) } }
  | .assertion s i =>
    { inputs with
      boundaryWeights := inputs.boundaryWeights.modify i (s.setWeight x)
      boundary := ⟨inputs.boundary.assertions.modify i (s.setAssertion x)⟩ }

/-- The check does not notice what stands at the site. -/
def Blind (inputs : EvaluatedInputs q) (p : Parameters) : Site → Prop
  | .channel i => inputs.z = 0 ∧ 0 < i
  | .column s i => ∃ weight ∈ inputs.transitionWeights[i]?,
    ∃ r ∈ inputs.transition.residues[i]?, ∃ degree ∈ inputs.transition.degrees[i]?,
      s.Blind inputs.z (p.maxDegree.toNat - degree.toNat) weight r
  | .assertion s i => ∃ weight ∈ inputs.boundaryWeights[i]?,
    ∃ a ∈ inputs.boundary.assertions[i]?,
      s.Blind inputs.z
        (p.maxDegree.toNat - (p.traceLength.toNat - 1) + a.divisorDegree.toNat) weight a.residue

variable {inputs : EvaluatedInputs q} {p : Parameters}

/-! ## Sizes and ranges stay -/

theorem Sized.replace (h : inputs.Sized p) (x : Residue q) (site : Site) :
    (inputs.replace x site).Sized p := by
  cases site with
  | channel i => exact ⟨h.1, h.2, h.3, h.4, h.5⟩
  | column s i =>
    exact ⟨(List.length_modify ..).trans h.1, h.2, (List.length_modify ..).trans h.3, h.4, h.5⟩
  | assertion s i =>
    exact ⟨h.1, h.2, h.3, (List.length_modify ..).trans h.4, (List.length_modify ..).trans h.5⟩

theorem Regular.replace (h : inputs.Regular p) (x : Residue q) (site : Site) :
    (inputs.replace x site).Regular p := by
  cases site with
  | channel i => exact ⟨h.1, h.2, h.3, h.4, h.5, h.6⟩
  | column s i => exact ⟨h.1, h.2, h.3, h.4, h.5, h.6⟩
  | assertion s i =>
    have hkeep : ∀ c : AssertionEvaluation q → Prop, (∀ a, c (s.setAssertion x a) ↔ c a) →
        (∀ a ∈ inputs.boundary.assertions, c a) →
          ∀ a ∈ inputs.boundary.assertions.modify i (s.setAssertion x), c a :=
      fun c hc => (forall_mem_modify_iff hc).2
    refine ⟨h.1, h.2, h.3, hkeep _ (fun _ => Iff.rfl) h.4, hkeep _ (fun _ => Iff.rfl) h.5, ?_⟩
    exact hkeep (fun a => inputs.z ≠ inputs.generator ^ a.step.toNat) (fun _ => Iff.rfl) h.6

theorem length_channel_replace (x : Residue q) (site : Site) :
    (inputs.replace x site).channel.length = inputs.channel.length := by
  cases site with
  | channel i => exact List.length_modify ..
  | column s i => rfl
  | assertion s i => rfl

/-! ## The gap between the two sides -/

theorem channelValue_replace {i : ℕ} {old : Residue q} (h : inputs.channel[i]? = some old)
    (x : Residue q) :
    (inputs.replace x (.channel i)).channelValue =
      inputs.channelValue + inputs.z ^ i * (x - old) := by
  have hentry : inputs.channel.zipIdx[i]? = some (old, i) := by
    rw [List.getElem?_zipIdx, h, Option.map_some, Nat.zero_add]
  change (List.map _ (inputs.channel.modify i fun _ => x).zipIdx).sum = _
  rw [zipIdx_modify, sum_map_modify hentry]
  change inputs.channelValue + (x * inputs.z ^ i - old * inputs.z ^ i) = _
  ring

theorem transitionSum_replace (s : Scalar) {i : ℕ} {weight : Weight q} {r : Residue q}
    {degree : UInt64} (hw : inputs.transitionWeights[i]? = some weight)
    (hr : inputs.transition.residues[i]? = some r)
    (hd : inputs.transition.degrees[i]? = some degree) (x : Residue q) :
    p.transitionSum inputs.z (inputs.replace x (.column s i)).transitionWeights
        (inputs.replace x (.column s i)).transition =
      p.transitionSum inputs.z inputs.transitionWeights inputs.transition +
        s.slope (inputs.z ^ (p.maxDegree.toNat - degree.toNat)) weight r *
          (x - s.get weight r) := by
  have hzip : (inputs.transitionWeights.modify i (s.setWeight x)).zip
      ((inputs.transition.residues.modify i (s.setResidue x)).zip inputs.transition.degrees) =
        (inputs.transitionWeights.zip
          (inputs.transition.residues.zip inputs.transition.degrees)).modify i
            (Prod.map (s.setWeight x) (Prod.map (s.setResidue x) id)) := by
    rw [← zip_modify, ← zip_modify, List.modify_id]
  have hentry : (inputs.transitionWeights.zip
      (inputs.transition.residues.zip inputs.transition.degrees))[i]? =
        some (weight, r, degree) :=
    List.getElem?_zip_eq_some.2 ⟨hw, List.getElem?_zip_eq_some.2 ⟨hr, hd⟩⟩
  rw [← Scalar.at_setWeight_mul_setResidue]
  change (List.map _ ((inputs.transitionWeights.modify i (s.setWeight x)).zip
    ((inputs.transition.residues.modify i (s.setResidue x)).zip
      inputs.transition.degrees))).sum = _
  rw [hzip, sum_map_modify hentry]
  rfl

variable [Fact q.toNat.Prime]

theorem assertionSum_replace (s : Scalar) {i : ℕ} {weight : Weight q} {a : AssertionEvaluation q}
    (hw : inputs.boundaryWeights[i]? = some weight)
    (ha : inputs.boundary.assertions[i]? = some a) (x : Residue q) :
    (((inputs.replace x (.assertion s i)).boundaryWeights.zip
        (inputs.replace x (.assertion s i)).boundary.assertions).map fun (weight, a) =>
          inputs.assertionValue p weight a).sum =
      ((inputs.boundaryWeights.zip inputs.boundary.assertions).map fun (weight, a) =>
          inputs.assertionValue p weight a).sum +
        s.slope (inputs.z ^ (p.maxDegree.toNat - (p.traceLength.toNat - 1)
            + a.divisorDegree.toNat)) weight a.residue * (x - s.get weight a.residue) /
          (inputs.z - inputs.generator ^ a.step.toNat) := by
  have hentry : (inputs.boundaryWeights.zip inputs.boundary.assertions)[i]? = some (weight, a) :=
    List.getElem?_zip_eq_some.2 ⟨hw, ha⟩
  rw [← Scalar.at_setWeight_mul_setResidue, sub_div]
  change (List.map _ ((inputs.boundaryWeights.modify i (s.setWeight x)).zip
    (inputs.boundary.assertions.modify i (s.setAssertion x)))).sum = _
  rw [zip_modify, sum_map_modify hentry]
  rfl

/-- The difference between what the channel carries and what the constraints are worth. -/
def gap (inputs : EvaluatedInputs q) (p : Parameters) : Residue q :=
  inputs.channelValue - inputs.constraintValue p

theorem gap_replace_channel {i : ℕ} {old : Residue q} (h : inputs.channel[i]? = some old)
    (x : Residue q) :
    (inputs.replace x (.channel i)).gap p = inputs.gap p + inputs.z ^ i * (x - old) := by
  rw [gap, channelValue_replace h]
  change inputs.channelValue + _ - inputs.constraintValue p = _
  rw [gap]
  ring

theorem gap_replace_column (s : Scalar) {i : ℕ} {weight : Weight q} {r : Residue q}
    {degree : UInt64} (hw : inputs.transitionWeights[i]? = some weight)
    (hr : inputs.transition.residues[i]? = some r)
    (hd : inputs.transition.degrees[i]? = some degree) (x : Residue q) :
    (inputs.replace x (.column s i)).gap p =
      inputs.gap p + -(s.slope (inputs.z ^ (p.maxDegree.toNat - degree.toNat)) weight r *
        (inputs.z - inputs.generator ^ (p.traceLength.toNat - 1)) /
          (inputs.z ^ p.traceLength.toNat - 1)) * (x - s.get weight r) := by
  have hsum := transitionSum_replace (p := p) s hw hr hd x
  have hvalue : (inputs.replace x (.column s i)).gap p =
      inputs.channelValue - (p.transitionSum inputs.z
        (inputs.replace x (.column s i)).transitionWeights
        (inputs.replace x (.column s i)).transition *
          (inputs.z - inputs.generator ^ (p.traceLength.toNat - 1)) /
            (inputs.z ^ p.traceLength.toNat - 1) +
        ((inputs.boundaryWeights.zip inputs.boundary.assertions).map fun (weight, a) =>
          inputs.assertionValue p weight a).sum) := rfl
  rw [hvalue, hsum, gap, constraintValue, transitionValue]
  ring

theorem gap_replace_assertion (s : Scalar) {i : ℕ} {weight : Weight q} {a : AssertionEvaluation q}
    (hw : inputs.boundaryWeights[i]? = some weight)
    (ha : inputs.boundary.assertions[i]? = some a) (x : Residue q) :
    (inputs.replace x (.assertion s i)).gap p =
      inputs.gap p + -(s.slope (inputs.z ^ (p.maxDegree.toNat - (p.traceLength.toNat - 1)
          + a.divisorDegree.toNat)) weight a.residue /
        (inputs.z - inputs.generator ^ a.step.toNat)) * (x - s.get weight a.residue) := by
  have hsum := assertionSum_replace (p := p) s hw ha x
  have hvalue : (inputs.replace x (.assertion s i)).gap p =
      inputs.channelValue - (inputs.transitionValue p +
        (((inputs.replace x (.assertion s i)).boundaryWeights.zip
          (inputs.replace x (.assertion s i)).boundary.assertions).map fun (weight, a) =>
            inputs.assertionValue p weight a).sum) := rfl
  rw [hvalue, hsum, gap, constraintValue]
  ring

/-- **The gap is affine in every scalar**, and the scalars with slope zero are those at blind
sites. -/
theorem exists_slope (hsized : inputs.Sized p) (hregular : inputs.Regular p) {site : Site}
    {old : Residue q} (hold : inputs.scalar? site = some old) :
    ∃ slope : Residue q, (slope = 0 ↔ inputs.Blind p site) ∧
      ∀ x, (inputs.replace x site).gap p = inputs.gap p + slope * (x - old) := by
  cases site with
  | channel i =>
    refine ⟨inputs.z ^ i, ?_, gap_replace_channel hold⟩
    rw [pow_eq_zero_iff', ← Nat.pos_iff_ne_zero]
    rfl
  | column s i =>
    obtain ⟨weight, hw, h⟩ := Option.bind_eq_some_iff.1 hold
    obtain ⟨r, hr, h⟩ := Option.bind_eq_some_iff.1 h
    cases h
    obtain ⟨degree, hd⟩ : ∃ degree, inputs.transition.degrees[i]? = some degree := by
      have hi : i < inputs.transition.residues.length := (List.getElem?_eq_some_iff.1 hr).1
      rw [hsized.length_residues, ← hsized.length_degrees] at hi
      exact ⟨_, List.getElem?_eq_getElem hi⟩
    refine ⟨_, ?_, gap_replace_column s hw hr hd⟩
    have hlast := sub_ne_zero.2 hregular.ne_lastRow
    have hpower := sub_ne_zero.2 hregular.pow_ne_one
    rw [neg_eq_zero, div_eq_zero_iff, mul_eq_zero, or_iff_left hpower, or_iff_left hlast,
      s.slope_eq_zero_iff]
    simp only [Blind, hw, hr, hd, Option.mem_some_iff, exists_eq_left']
  | assertion s i =>
    obtain ⟨weight, hw, h⟩ := Option.bind_eq_some_iff.1 hold
    obtain ⟨a, ha, h⟩ := Option.bind_eq_some_iff.1 h
    cases h
    refine ⟨_, ?_, gap_replace_assertion s hw ha⟩
    have hrow := sub_ne_zero.2 (hregular.ne_row a (List.mem_of_getElem? ha))
    rw [neg_eq_zero, div_eq_zero_iff, or_iff_left hrow, s.slope_eq_zero_iff]
    simp only [Blind, hw, ha, Option.mem_some_iff, exists_eq_left']

end EvaluatedInputs

/-- **A check notices the change of a single scalar, except at blind sites.** For a prime modulus and
inputs that are accepted, replacing one scalar by another residue leads to a rejection that carries
the two sides, unless the site is blind: then the inputs are still accepted. -/
theorem verify_replace [Fact q.toNat.Prime] (v : Verifier) (inputs : EvaluatedInputs q)
    (site : Site) (old x : Residue q) (haccept : v.verify inputs = .ok ())
    (hold : inputs.scalar? site = some old) (hne : x ≠ old) :
    (inputs.Blind v.parameters site → v.verify (inputs.replace x site) = .ok ()) ∧
      (¬ inputs.Blind v.parameters site →
        v.verify (inputs.replace x site) =
          .error (.consistencyViolation (inputs.replace x site).channelValue.toNat
            ((inputs.replace x site).constraintValue v.parameters).toNat)) := by
  obtain ⟨hchannel, hsized, hregular, heq⟩ := Verifier.verify_eq_ok_iff.1 haccept
  obtain ⟨slope, hslope, hgap⟩ := EvaluatedInputs.exists_slope hsized hregular hold
  -- The accepted inputs have no gap, so that of the others is the slope times the change.
  have hside : (inputs.replace x site).channelValue =
      (inputs.replace x site).constraintValue v.parameters ↔ inputs.Blind v.parameters site := by
    have hzero : inputs.gap v.parameters = 0 := sub_eq_zero.2 heq
    rw [← sub_eq_zero]
    change (inputs.replace x site).gap v.parameters = 0 ↔ _
    rw [hgap, hzero, zero_add, mul_eq_zero, or_iff_left (sub_ne_zero.2 hne), hslope]
  rw [Verifier.verify_eq_checkConsistency
    ((EvaluatedInputs.length_channel_replace x site).trans hchannel) (hsized.replace x site)
    (hregular.replace x site)]
  exact ⟨fun h => checkConsistency_eq_ok_iff.2 (hside.2 h), fun h => if_neg (mt hside.1 h)⟩

/-- Inputs that are accepted at the point zero, where nothing counts that is lifted. -/
def originInputs : EvaluatedInputs Modulus.small := { workedInputs 72 with z := 0 }

/-- At the point zero, the coefficient of a residue that is lifted may be anything; that of the
residue as it is may not. -/
theorem verify_replace_originInputs :
    Verifier.verify ⟨workedParameters, .reduction, .standard⟩ originInputs = .ok () ∧
      Verifier.verify ⟨workedParameters, .reduction, .standard⟩
        (originInputs.replace (.ofWord 7) (.column .c1 0)) = .ok () ∧
      Verifier.verify ⟨workedParameters, .reduction, .standard⟩
        (originInputs.replace (.ofWord 7) (.column .c0 0)) =
          .error (.consistencyViolation 72 22) := by
  have haccept : Verifier.verify ⟨workedParameters, .reduction, .standard⟩ originInputs = .ok () := by
    decide +kernel
  have hlifted := verify_replace _ _ (.column .c1 0) (.ofWord 3) (.ofWord 7) haccept rfl (by decide)
  have hbare := verify_replace _ _ (.column .c0 0) (.ofWord 2) (.ofWord 7) haccept rfl (by decide)
  refine ⟨haccept, hlifted.1 ⟨_, rfl, _, rfl, _, rfl, .inr ⟨rfl, by decide⟩⟩, ?_⟩
  rw [hbare.2 ?_]
  · decide +kernel
  · rintro ⟨_, _, r, hr, _, _, hzero⟩
    cases hr
    have hresidue : (Residue.ofWord 10 : Residue Modulus.small) ≠ 0 := by decide
    exact hresidue hzero

end OutOfDomain
