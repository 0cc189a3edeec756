import OutOfDomain.Proofs.Check.Sensitivity
import OutOfDomain.Proofs.Recurrence.Evaluation

/-!
# Tampering with the frame or the statement

Whoever changes a public input of an accepted check, or a cell of the next row, changes one residue:
that of the assertion about the cell that the input publishes (`Recurrence.assertionOf`), or that of
the column of the cell. All other residues stay, and so do degrees, rows and sizes. The constraints
then move by the change of the input or the cell, times the weight of that residue, times a factor
that an accepted point makes other than zero. So the check rejects, unless the weight is zero.

The current row is another matter: the rule and the assertions read it, so one of its cells can enter
several residues.
-/

set_option autoImplicit false

namespace OutOfDomain

variable {q : Modulus}

/-! ## Lists with one entry replaced -/

section Lists

variable {α β γ : Type} {as : List α} {bs : List β} {i : ℕ}

theorem modify_eq_set_of_getElem? {a : α} (h : as[i]? = some a) (f : α → α) :
    as.modify i f = as.set i (f a) := by
  rw [List.modify_eq_set_getElem?, h]
  rfl

theorem zipWith_set_left {b : β} (hb : bs[i]? = some b) (f : α → β → γ) (x : α) :
    List.zipWith f (as.set i x) bs = (List.zipWith f as bs).set i (f x b) := by
  induction as generalizing bs i with
  | nil => simp
  | cons a as ih =>
    obtain ⟨b', bs, rfl⟩ := List.exists_cons_of_ne_nil (List.ne_nil_of_mem (List.mem_of_getElem? hb))
    cases i with
    | zero =>
      cases hb
      rfl
    | succ i => exact congrArg (f a b' :: ·) (ih (i := i) hb)

theorem zip_set_right {a : α} (ha : as[i]? = some a) (x : β) :
    as.zip (bs.set i x) = (as.zip bs).set i (a, x) := by
  have hcomm : ∀ cs : List β, as.zip cs = List.zipWith (fun c a => (a, c)) cs as :=
    fun _ => List.zipWith_comm
  rw [hcomm, hcomm, zipWith_set_left ha]

end Lists

/-! ## One residue replaced -/

/-- The outcome of a check whose constraints may have moved away from the channel: it accepts if they
have not, and otherwise rejects with the two values. -/
structure RejectedUnless (c : Prop) (channel constraints : Residue q)
    (outcome : Except CheckError Unit) : Prop where
  accepted : c → outcome = .ok ()
  rejected : ¬ c → outcome = .error (.consistencyViolation channel.toNat constraints.toNat)

theorem rejectedUnless_checkConsistency {c : Prop} {channel constraints : Residue q}
    (h : channel = constraints ↔ c) :
    RejectedUnless c channel constraints (checkConsistency channel constraints) :=
  ⟨fun hc => checkConsistency_eq_ok_iff.2 (h.2 hc), fun hc => if_neg (mt h.1 hc)⟩

section Residues

variable [Fact q.toNat.Prime] {v : Verifier} {inputs : EvaluatedInputs q} {i : ℕ}
  {weight : Weight q} {x : Residue q}

/-- A replacement that leaves the channel as it is moves the constraints by a slope times the change,
and is noticed unless the slope is zero. -/
theorem rejectedUnless_of_gap (haccept : v.verify inputs = .ok ()) (site : Site)
    {slope change : Residue q} {c : Prop}
    (hchannel : (inputs.replace x site).channelValue = inputs.channelValue)
    (hgap : (inputs.replace x site).gap v.parameters =
      inputs.gap v.parameters + -slope * change)
    (hslope : slope = 0 ↔ c) (hchange : change ≠ 0) :
    RejectedUnless c inputs.channelValue (inputs.channelValue + slope * change)
      (v.verify (inputs.replace x site)) := by
  obtain ⟨hlength, hsized, hregular, heq⟩ := Verifier.verify_eq_ok_iff.1 haccept
  have hvalue : (inputs.replace x site).constraintValue v.parameters =
      inputs.channelValue + slope * change := by
    have hzero : inputs.gap v.parameters = 0 := sub_eq_zero.2 heq
    rw [hzero, zero_add, EvaluatedInputs.gap, hchannel, sub_eq_iff_eq_add] at hgap
    rw [hgap]
    ring
  rw [Verifier.verify_eq_checkConsistency
    ((EvaluatedInputs.length_channel_replace x site).trans hlength) (hsized.replace x site)
    (hregular.replace x site), hchannel, hvalue]
  refine rejectedUnless_checkConsistency ?_
  rw [left_eq_add, mul_eq_zero, or_iff_left hchange, hslope]

theorem rejectedUnless_column (haccept : v.verify inputs = .ok ()) {residue : Residue q}
    {degree : UInt64} (hw : inputs.transitionWeights[i]? = some weight)
    (hr : inputs.transition.residues[i]? = some residue)
    (hd : inputs.transition.degrees[i]? = some degree) (hne : x ≠ residue) :
    RejectedUnless (v.parameters.transitionWeight inputs.z weight degree = 0) inputs.channelValue
      (inputs.channelValue + v.parameters.transitionWeight inputs.z weight degree *
        (inputs.z - inputs.generator ^ (v.parameters.traceLength.toNat - 1)) /
          (inputs.z ^ v.parameters.traceLength.toNat - 1) * (x - residue))
      (v.verify (inputs.replace x (.column .residue i))) := by
  obtain ⟨-, -, hregular, -⟩ := Verifier.verify_eq_ok_iff.1 haccept
  have hlast := sub_ne_zero.2 hregular.ne_lastRow
  have hpower := sub_ne_zero.2 hregular.pow_ne_one
  refine rejectedUnless_of_gap haccept (.column .residue i) rfl
    (EvaluatedInputs.gap_replace_column .residue hw hr hd x) ?_ (sub_ne_zero.2 hne)
  rw [div_eq_zero_iff, or_iff_left hpower, mul_eq_zero, or_iff_left hlast]

theorem rejectedUnless_assertion (haccept : v.verify inputs = .ok ()) {a : AssertionEvaluation q}
    (hw : inputs.boundaryWeights[i]? = some weight)
    (ha : inputs.boundary.assertions[i]? = some a) (hne : x ≠ a.residue) :
    RejectedUnless (v.parameters.boundaryWeight inputs.z weight a.divisorDegree = 0)
      inputs.channelValue
      (inputs.channelValue + v.parameters.boundaryWeight inputs.z weight a.divisorDegree /
        (inputs.z - inputs.generator ^ a.step.toNat) * (x - a.residue))
      (v.verify (inputs.replace x (.assertion .residue i))) := by
  obtain ⟨-, -, hregular, -⟩ := Verifier.verify_eq_ok_iff.1 haccept
  have hrow := sub_ne_zero.2 (hregular.ne_row a (List.mem_of_getElem? ha))
  refine rejectedUnless_of_gap haccept (.assertion .residue i) rfl
    (EvaluatedInputs.gap_replace_assertion .residue hw ha x) ?_ (sub_ne_zero.2 hne)
  rw [div_eq_zero_iff, or_iff_left hrow]

end Residues

/-! ## Frames and statements with one entry replaced -/

/-- The frame with another value in one cell of the next row. -/
def Frame.replaceNext (f : Frame q) (column : ℕ) (x : Residue q) : Frame q :=
  { f with
    next := f.next.set column x
    length_next := (List.length_set ..).trans f.length_next }

namespace FrameInputs

/-- The inputs with another value for one cell of the next row. -/
def replaceNext (inputs : FrameInputs q) (column : ℕ) (x : Residue q) : FrameInputs q :=
  { inputs with frame := inputs.frame.replaceNext column x }

/-- The inputs with another public input in one place. -/
def replacePublicInput (inputs : FrameInputs q) (index : ℕ) (x : Residue q) : FrameInputs q :=
  { inputs with publicInputs := inputs.publicInputs.set index x }

variable {inputs : FrameInputs q} {p : Parameters}

theorem EntrySized.replaceNext (h : inputs.EntrySized p) (column : ℕ) (x : Residue q) :
    (inputs.replaceNext column x).EntrySized p :=
  ⟨h.width_frame, h.length_publicInputs, h.length_channel⟩

theorem EntrySized.replacePublicInput (h : inputs.EntrySized p) (index : ℕ) (x : Residue q) :
    (inputs.replacePublicInput index x).EntrySized p :=
  ⟨h.width_frame, (List.length_set ..).trans h.length_publicInputs, h.length_channel⟩

end FrameInputs

namespace Recurrence

/-- The assertion about the cell that a public input publishes. The rule of two cells has two fixed
assertions in front of it. -/
def assertionOf (r : Recurrence) (index : ℕ) : ℕ :=
  match r.rule with
  | .affine | .cubic => index
  | .fibonacci => index + 2

variable {r : Recurrence} {inputs : FrameInputs q} {x : Residue q}

theorem assertionOf_eq (r : Recurrence) (index : ℕ) :
    r.assertionOf index = (r.fixedAssertions : List (Assertion q)).length + index := by
  rw [assertionOf, fixedAssertions]
  cases r.rule with
  | affine | cubic => exact (Nat.zero_add index).symm
  | fibonacci => exact Nat.add_comm index 2

section PublicInputs

variable {publicInputs : List (Residue q)} {index : ℕ} {cell : UInt64 × UInt64}

theorem exists_publishedCell (hinputs : publicInputs.length = r.rule.publicInputCount)
    {value : Residue q} (hvalue : publicInputs[index]? = some value) :
    ∃ cell, r.publishedCells[index]? = some cell := by
  have hindex := (List.getElem?_eq_some_iff.1 hvalue).1
  rw [hinputs, ← length_publishedCells] at hindex
  exact ⟨_, List.getElem?_eq_getElem hindex⟩

/-- What an input says is asserted in its place. -/
theorem getElem?_assertionsOn (hcell : r.publishedCells[index]? = some cell) {value : Residue q}
    (hvalue : publicInputs[index]? = some value) :
    (r.assertionsOn publicInputs)[r.assertionOf index]? = some ⟨cell.1, cell.2, value⟩ := by
  have hzip : (r.publishedCells.zip publicInputs)[index]? = some (cell, value) :=
    List.getElem?_zip_eq_some.2 ⟨hcell, hvalue⟩
  rw [assertionOf_eq (q := q), assertionsOn, List.getElem?_append_right (Nat.le_add_right _ _),
    Nat.add_sub_cancel_left, List.getElem?_map, hzip]
  rfl

theorem getElem?_boundaryOn {f : Frame q} (hcell : r.publishedCells[index]? = some cell)
    {value : Residue q} (hvalue : publicInputs[index]? = some value) :
    (r.boundaryOn f publicInputs).assertions[r.assertionOf index]? =
      some (Assertion.on f ⟨cell.1, cell.2, value⟩) := by
  rw [boundaryOn, List.getElem?_map, getElem?_assertionsOn hcell hvalue]
  rfl

theorem assertionsOn_set (hcell : r.publishedCells[index]? = some cell) :
    r.assertionsOn (publicInputs.set index x) =
      (r.assertionsOn publicInputs).set (r.assertionOf index) ⟨cell.1, cell.2, x⟩ := by
  rw [assertionOf_eq (q := q), assertionsOn, zip_set_right hcell, List.map_set, assertionsOn,
    List.set_append_right _ _ (Nat.le_add_right _ _), Nat.add_sub_cancel_left]

theorem evaluated_replacePublicInput (hcell : r.publishedCells[index]? = some cell)
    {old : Residue q} (hold : inputs.publicInputs[index]? = some old) :
    r.evaluated (inputs.replacePublicInput index x) =
      (r.evaluated inputs).replace (inputs.frame.current.getD cell.1.toNat 0 - x)
        (.assertion .residue (r.assertionOf index)) := by
  have hentry : ((r.assertionsOn inputs.publicInputs).map (·.on inputs.frame))[r.assertionOf index]? =
      some (Assertion.on inputs.frame ⟨cell.1, cell.2, old⟩) := getElem?_boundaryOn hcell hold
  have hassertions : (r.assertionsOn (inputs.publicInputs.set index x)).map (·.on inputs.frame) =
      ((r.assertionsOn inputs.publicInputs).map (·.on inputs.frame)).modify (r.assertionOf index)
        (Scalar.residue.setAssertion (inputs.frame.current.getD cell.1.toNat 0 - x)) := by
    rw [modify_eq_set_of_getElem? hentry, assertionsOn_set hcell, List.map_set]
    rfl
  have hweights : inputs.boundaryWeights.modify (r.assertionOf index)
      (Scalar.residue.setWeight (inputs.frame.current.getD cell.1.toNat 0 - x)) =
        inputs.boundaryWeights := List.modify_id ..
  unfold evaluated EvaluatedInputs.replace
  simp only [FrameInputs.evaluated, boundaryOn]
  rw [hweights, ← hassertions]
  rfl

end PublicInputs

theorem evaluated_replaceNext {column : ℕ} {expected : Residue q}
    (hexpected : (r.rule.next inputs.frame.current)[column]? = some expected) :
    r.evaluated (inputs.replaceNext column x) =
      (r.evaluated inputs).replace (x - expected) (.column .residue column) := by
  have hresidues : List.zipWith (· - ·) (inputs.frame.next.set column x)
      (r.rule.next inputs.frame.current) =
        (List.zipWith (· - ·) inputs.frame.next (r.rule.next inputs.frame.current)).modify column
          (Scalar.residue.setResidue (x - expected)) := by
    rw [zipWith_set_left hexpected, List.set_eq_modify]
    rfl
  have hweights : inputs.transitionWeights.modify column
      (Scalar.residue.setWeight (x - expected)) = inputs.transitionWeights := List.modify_id ..
  unfold evaluated EvaluatedInputs.replace
  simp only [FrameInputs.evaluated, transitionOn]
  rw [hweights, ← hresidues]
  rfl

section Checks

variable [Fact q.toNat.Prime] {v : Verifier}

theorem verify_replacePublicInput {index : ℕ} {cell : UInt64 × UInt64} {old : Residue q}
    {weight : Weight q} (hverify : v.verify (r.evaluated inputs) = .ok ())
    (hcell : r.publishedCells[index]? = some cell)
    (hold : inputs.publicInputs[index]? = some old)
    (hweight : inputs.boundaryWeights[r.assertionOf index]? = some weight) (hne : x ≠ old) :
    RejectedUnless (v.parameters.boundaryWeight inputs.z weight singlePoleDegree = 0)
      (r.evaluated inputs).channelValue
      ((r.evaluated inputs).channelValue +
        v.parameters.boundaryWeight inputs.z weight singlePoleDegree /
          (inputs.z - inputs.generator ^ cell.2.toNat) * (old - x))
      (v.verify (r.evaluated (inputs.replacePublicInput index x))) := by
  have hassertion : (r.evaluated inputs).boundary.assertions[r.assertionOf index]? =
      some (Assertion.on inputs.frame ⟨cell.1, cell.2, old⟩) := getElem?_boundaryOn hcell hold
  have hchange : inputs.frame.current.getD cell.1.toNat 0 - x -
      (inputs.frame.current.getD cell.1.toNat 0 - old) = old - x := by ring
  have hresidue : inputs.frame.current.getD cell.1.toNat 0 - x ≠
      (Assertion.on inputs.frame ⟨cell.1, cell.2, old⟩).residue := fun h =>
    hne (sub_right_injective h)
  have h := rejectedUnless_assertion hverify hweight hassertion hresidue
  rw [← evaluated_replacePublicInput hcell hold] at h
  change RejectedUnless _ _ (_ + _ / _ * (_ - x - (_ - old))) _ at h
  rwa [hchange] at h

theorem verify_replaceNext {column : ℕ} {expected old : Residue q} {degree : UInt64}
    {weight : Weight q} (hverify : v.verify (r.evaluated inputs) = .ok ())
    (hexpected : (r.rule.next inputs.frame.current)[column]? = some expected)
    (hold : inputs.frame.next[column]? = some old)
    (hdegree : (r.transitionOn inputs.frame).degrees[column]? = some degree)
    (hweight : inputs.transitionWeights[column]? = some weight) (hne : x ≠ old) :
    RejectedUnless (v.parameters.transitionWeight inputs.z weight degree = 0)
      (r.evaluated inputs).channelValue
      ((r.evaluated inputs).channelValue +
        v.parameters.transitionWeight inputs.z weight degree *
          (inputs.z - inputs.generator ^ (v.parameters.traceLength.toNat - 1)) /
            (inputs.z ^ v.parameters.traceLength.toNat - 1) * (x - old))
      (v.verify (r.evaluated (inputs.replaceNext column x))) := by
  have hresidue : (r.evaluated inputs).transition.residues[column]? = some (old - expected) := by
    change (List.zipWith _ _ _)[column]? = _
    rw [List.getElem?_zipWith, hold, hexpected]
  have hchange : x - expected - (old - expected) = x - old := by ring
  have h := rejectedUnless_column hverify hweight hresidue hdegree
    (x := x - expected) fun h => hne (sub_left_injective h)
  rwa [← evaluated_replaceNext hexpected, hchange] at h

/-- **Tampering with the statement or with the next row is noticed.** Over a prime field, whatever
frame check of a recurrence is accepted: with another value for one public input it is rejected,
unless the weight of the assertion about the cell that the input publishes is zero at the point, and
with another value in one cell of the next row, unless that of the column is. If the weight is zero,
the check still accepts; if it is not, the two values that are reported differ by the weighed
change. -/
theorem verifySystem_tampered (r : Recurrence) (v : Verifier) (inputs : FrameInputs q)
    (haccept : v.verifySystem (r.system q) inputs = .ok ()) :
    (∀ index old x, inputs.publicInputs[index]? = some old → x ≠ old →
      ∃ weight cell, inputs.boundaryWeights[r.assertionOf index]? = some weight ∧
        r.publishedCells[index]? = some cell ∧
        RejectedUnless (v.parameters.boundaryWeight inputs.z weight singlePoleDegree = 0)
          (combineChannel inputs.channel inputs.z)
          (combineChannel inputs.channel inputs.z +
            v.parameters.boundaryWeight inputs.z weight singlePoleDegree /
              (inputs.z - inputs.generator ^ cell.2.toNat) * (old - x))
          (v.verifySystem (r.system q) (inputs.replacePublicInput index x))) ∧
    (∀ column old x, inputs.frame.next[column]? = some old → x ≠ old →
      ∃ weight, inputs.transitionWeights[column]? = some weight ∧
        RejectedUnless
          (v.parameters.transitionWeight inputs.z weight (r.rule.degree * r.lastRow) = 0)
          (combineChannel inputs.channel inputs.z)
          (combineChannel inputs.channel inputs.z +
            v.parameters.transitionWeight inputs.z weight (r.rule.degree * r.lastRow) *
              (inputs.z - inputs.generator ^ (r.length.toNat - 1)) /
                (inputs.z ^ r.length.toNat - 1) * (x - old))
          (v.verifySystem (r.system q) (inputs.replaceNext column x))) := by
  obtain ⟨hfits, hentry, hverify⟩ := verifySystem_accepts haccept
  obtain ⟨-, hsized, -, -⟩ := Verifier.verify_eq_ok_iff.1 hverify
  have hchannel : combineChannel inputs.channel inputs.z = (r.evaluated inputs).channelValue :=
    combineChannel_eq_sum ..
  have hlength := toNat_traceLength_of_fits hfits
  rw [hchannel]
  constructor
  · intro index old x hold hne
    obtain ⟨cell, hcell⟩ := exists_publishedCell
      (hentry.length_publicInputs.trans (toNat_publicInputCount_of_fits hfits)) hold
    have hassertion := (List.getElem?_eq_some_iff.1 (getElem?_assertionsOn hcell hold)).1
    have hweights : (r.assertionsOn inputs.publicInputs).length = inputs.boundaryWeights.length :=
      (List.length_map _).symm.trans
        (hsized.length_assertions.trans hsized.length_boundaryWeights.symm)
    have hweight := List.getElem?_eq_getElem (hweights ▸ hassertion)
    refine ⟨_, cell, hweight, hcell, ?_⟩
    rw [verifySystem_eq_verify hfits (hentry.replacePublicInput index x)]
    exact verify_replacePublicInput hverify hcell hold hweight hne
  · intro column old x hold hne
    have hcolumn : column < inputs.frame.width :=
      (List.getElem?_eq_some_iff.1 hold).1.trans_eq inputs.frame.length_next
    have hexpected := List.getElem?_eq_getElem
      (hcolumn.trans_eq (r.rule.length_next inputs.frame.current).symm)
    have hwidth := hentry.width_frame.trans (toNat_traceWidth_of_fits hfits)
    have hdegree : (r.transitionOn inputs.frame).degrees[column]? =
        some (r.rule.degree * r.lastRow) := List.getElem?_replicate_of_lt (hwidth ▸ hcolumn)
    have hweights : inputs.frame.width = inputs.transitionWeights.length :=
      hentry.width_frame.trans hsized.length_transitionWeights.symm
    have hweight := List.getElem?_eq_getElem (hweights ▸ hcolumn)
    refine ⟨_, hweight, ?_⟩
    rw [verifySystem_eq_verify hfits (hentry.replaceNext column x), ← hlength]
    exact verify_replaceNext hverify hexpected hold hdegree hweight hne

end Checks

/-! ## Pairs at the point five -/

def eightPairsParameters : Parameters where
  traceLength := 8
  traceWidth := 2
  assertionCount := 3
  blowup := 2
  publicInputCount := 1
  faultless := by decide

/-- An accepted check of the rule of two cells. The weight of the second column is zero at the point,
that of the published cell is not. -/
def pairsInputs : FrameInputs Modulus.small where
  z := .ofWord 5
  generator := .ofWord 64
  frame := ⟨[.ofWord 10, .ofWord 20], [.ofWord 30, .ofWord 40], nofun, rfl⟩
  publicInputs := [.ofWord 21]
  transitionWeights := [⟨.ofWord 2, .ofWord 3⟩, ⟨.ofWord 91, 1⟩]
  boundaryWeights := [⟨1, 1⟩, ⟨1, .ofWord 2⟩, ⟨.ofWord 4, .ofWord 5⟩]
  channel := [.ofWord 20, 1]

/-- Another end of the run is noticed, another value in the second column is not. -/
theorem verifySystem_tampered_pairsInputs :
    Verifier.verifySystem ⟨eightPairsParameters, .sequential, .standard⟩ (eightPairs.system _)
        pairsInputs = .ok () ∧
      Verifier.verifySystem ⟨eightPairsParameters, .sequential, .standard⟩ (eightPairs.system _)
        (pairsInputs.replacePublicInput 0 (.ofWord 22)) = .error (.consistencyViolation 25 61) ∧
      Verifier.verifySystem ⟨eightPairsParameters, .sequential, .standard⟩ (eightPairs.system _)
        (pairsInputs.replaceNext 1 (.ofWord 41)) = .ok () := by
  have haccept : Verifier.verifySystem ⟨eightPairsParameters, .sequential, .standard⟩
      (eightPairs.system _) pairsInputs = .ok () := by decide +kernel
  obtain ⟨hinputs, hcells⟩ := verifySystem_tampered eightPairs _ pairsInputs haccept
  obtain ⟨weight, cell, hweight, hcell, hinput⟩ := hinputs 0 (.ofWord 21) (.ofWord 22) rfl (by decide)
  obtain ⟨weight', hweight', hnext⟩ := hcells 1 (.ofWord 40) (.ofWord 41) rfl (by decide)
  cases hweight
  cases hcell
  cases hweight'
  refine ⟨haccept, (hinput.rejected ?_).trans ?_, hnext.accepted ?_⟩
  · decide +kernel
  · decide +kernel
  · decide +kernel

end Recurrence

end OutOfDomain
