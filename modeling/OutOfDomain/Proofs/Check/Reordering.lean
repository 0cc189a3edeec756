import OutOfDomain.Proofs.Check.Accumulation
import OutOfDomain.Proofs.Check.Quotients

/-!
# The order of columns and assertions

A column is a weight, a residue and a degree; an assertion is a weight and an evaluation. The folds
number both, but only to name them in errors, and both add up what they find. So a permutation of the
columns and one of the assertions change neither whether the constraints have values nor what these
are (`evaluateConstraints_reorder_iff`).

The reason is that `EvaluatedInputs.FoldsTo` looks at the columns and at the assertions as items
without a place. `EvaluatedInputs.Rearranges` says just that two inputs have the same items, and it is
symmetric, so one direction is enough. Nothing is said about fields: a quotient that passes the check
belongs to its assertion, whatever the modulus and wherever the assertion stands.

Errors are another matter. They carry the number of the item, and of several faults the first is
reported.
-/

set_option autoImplicit false

namespace OutOfDomain

variable {q : Modulus}

/-! ## Items in another order -/

section Lists

variable {α β : Type}

/-- The items at the given places, in the order of the places. -/
def pick (places : List ℕ) (items : List α) : List α := places.filterMap (items[·]?)

theorem pick_range (items : List α) : pick (List.range items.length) items = items := by
  induction items with
  | nil => rfl
  | cons item items ih =>
    have hfirst : (item :: items)[0]? = some item := rfl
    rw [List.length_cons, List.range_succ_eq_map, pick, List.filterMap_cons_some hfirst,
      List.filterMap_map]
    exact congrArg (item :: ·) ih

theorem pick_perm {places : List ℕ} {items : List α}
    (h : places.Perm (List.range items.length)) : (pick places items).Perm items := by
  conv_rhs => rw [← pick_range items]
  exact h.filterMap _

/-- Picking from two lists side by side is picking pairs. -/
theorem zip_pick {as : List α} {bs : List β} (h : as.length = bs.length) (places : List ℕ) :
    (pick places as).zip (pick places bs) = pick places (as.zip bs) := by
  induction places with
  | nil => rfl
  | cons i places ih =>
    by_cases hi : i < as.length
    · obtain ⟨a, ha⟩ : ∃ a, as[i]? = some a := ⟨_, List.getElem?_eq_getElem hi⟩
      obtain ⟨b, hb⟩ : ∃ b, bs[i]? = some b := ⟨_, List.getElem?_eq_getElem (h ▸ hi)⟩
      have hzip : (as.zip bs)[i]? = some (a, b) := List.getElem?_zip_eq_some.2 ⟨ha, hb⟩
      unfold pick at ih ⊢
      rw [List.filterMap_cons_some ha, List.filterMap_cons_some hb, List.filterMap_cons_some hzip,
        List.zip_cons_cons, ih]
    · -- A place outside both lists is skipped in both.
      have hle : as.length ≤ i := Nat.le_of_not_lt hi
      have ha : as[i]? = none := List.getElem?_eq_none hle
      have hb : bs[i]? = none := List.getElem?_eq_none (h ▸ hle)
      have hzip : (as.zip bs)[i]? = none :=
        List.getElem?_eq_none ((List.length_zip ▸ Nat.min_le_left _ _).trans hle)
      unfold pick at ih ⊢
      rw [List.filterMap_cons_none ha, List.filterMap_cons_none hb, List.filterMap_cons_none hzip,
        ih]

end Lists

namespace EvaluatedInputs

/-- Every column has a weight, a residue and a degree, and every assertion has a weight. -/
structure Matched (inputs : EvaluatedInputs q) : Prop where
  length_transitionWeights : inputs.transitionWeights.length = inputs.transition.residues.length
  length_degrees : inputs.transition.degrees.length = inputs.transition.residues.length
  length_boundaryWeights : inputs.boundaryWeights.length = inputs.boundary.assertions.length

/-- The inputs with the columns and the assertions that stand at the given places, each with all that
belongs to it. -/
def reorder (inputs : EvaluatedInputs q) (columns assertions : List ℕ) : EvaluatedInputs q where
  z := inputs.z
  generator := inputs.generator
  transitionWeights := pick columns inputs.transitionWeights
  boundaryWeights := pick assertions inputs.boundaryWeights
  transition := ⟨pick columns inputs.transition.residues, pick columns inputs.transition.degrees⟩
  boundary := ⟨pick assertions inputs.boundary.assertions⟩
  channel := inputs.channel

/-- Two inputs have the same columns and the same assertions at the same point, up to their order. -/
structure Rearranges (inputs' inputs : EvaluatedInputs q) : Prop where
  z_eq : inputs'.z = inputs.z
  generator_eq : inputs'.generator = inputs.generator
  transitionWeights : inputs'.transitionWeights.Perm inputs.transitionWeights
  residues : inputs'.transition.residues.Perm inputs.transition.residues
  degrees : inputs'.transition.degrees.Perm inputs.transition.degrees
  columns : (inputs'.transitionWeights.zip
      (inputs'.transition.residues.zip inputs'.transition.degrees)).Perm
    (inputs.transitionWeights.zip (inputs.transition.residues.zip inputs.transition.degrees))
  boundaryWeights : inputs'.boundaryWeights.Perm inputs.boundaryWeights
  assertions : inputs'.boundary.assertions.Perm inputs.boundary.assertions
  weighedAssertions : (inputs'.boundaryWeights.zip inputs'.boundary.assertions).Perm
    (inputs.boundaryWeights.zip inputs.boundary.assertions)

variable {inputs inputs' : EvaluatedInputs q}

theorem Rearranges.symm (h : inputs'.Rearranges inputs) : inputs.Rearranges inputs' where
  z_eq := h.z_eq.symm
  generator_eq := h.generator_eq.symm
  transitionWeights := h.transitionWeights.symm
  residues := h.residues.symm
  degrees := h.degrees.symm
  columns := h.columns.symm
  boundaryWeights := h.boundaryWeights.symm
  assertions := h.assertions.symm
  weighedAssertions := h.weighedAssertions.symm

theorem rearranges_reorder (hmatched : inputs.Matched) {columns assertions : List ℕ}
    (hcolumns : columns.Perm (List.range inputs.transition.residues.length))
    (hassertions : assertions.Perm (List.range inputs.boundary.assertions.length)) :
    (inputs.reorder columns assertions).Rearranges inputs := by
  have hw := hmatched.length_transitionWeights
  have hd := hmatched.length_degrees
  have hb := hmatched.length_boundaryWeights
  have hitem : (inputs.transition.residues.zip inputs.transition.degrees).length =
      inputs.transition.residues.length := by
    rw [List.length_zip, hd, Nat.min_self]
  have hcolumn : (inputs.transitionWeights.zip
      (inputs.transition.residues.zip inputs.transition.degrees)).length =
        inputs.transition.residues.length := by
    rw [List.length_zip, hitem, hw, Nat.min_self]
  have hassertion : (inputs.boundaryWeights.zip inputs.boundary.assertions).length =
      inputs.boundary.assertions.length := by
    rw [List.length_zip, hb, Nat.min_self]
  refine ⟨rfl, rfl, pick_perm (hw ▸ hcolumns), pick_perm hcolumns, pick_perm (hd ▸ hcolumns), ?_,
    pick_perm (hb ▸ hassertions), pick_perm hassertions, ?_⟩
  · change ((pick columns _).zip ((pick columns _).zip (pick columns _))).Perm _
    rw [zip_pick hd.symm, zip_pick (hw.trans hitem.symm)]
    exact pick_perm (hcolumn ▸ hcolumns)
  · change ((pick assertions _).zip (pick assertions _)).Perm _
    rw [zip_pick hb]
    exact pick_perm (hassertion ▸ hassertions)

theorem Rearranges.transitionSum_eq (h : inputs'.Rearranges inputs) (p : Parameters) :
    p.transitionSum inputs'.z inputs'.transitionWeights inputs'.transition =
      p.transitionSum inputs.z inputs.transitionWeights inputs.transition := by
  unfold Parameters.transitionSum
  rw [h.z_eq]
  exact (h.columns.map _).sum_eq

/-- What one input folds to, the other folds to: the terms of its assertions are those of the other,
in its own order. -/
theorem Rearranges.foldsTo {p : Parameters} {a : Accumulation q} (h : inputs'.Rearranges inputs)
    (hfolds : inputs.FoldsTo p a) : inputs'.FoldsTo p a where
  length_residues := h.residues.length_eq.trans hfolds.length_residues
  length_degrees := h.degrees.length_eq.trans hfolds.length_degrees
  length_transitionWeights := h.transitionWeights.length_eq.trans hfolds.length_transitionWeights
  length_assertions := h.assertions.length_eq.trans hfolds.length_assertions
  length_boundaryWeights := h.boundaryWeights.length_eq.trans hfolds.length_boundaryWeights
  degree_le := fun degree hdegree => hfolds.degree_le degree (h.degrees.mem_iff.1 hdegree)
  transitionResult := by
    rw [h.transitionSum_eq p, h.z_eq, h.generator_eq]
    exact hfolds.transitionResult
  finalValue := by
    obtain ⟨terms, hterms, hfinal⟩ := hfolds.finalValue
    obtain ⟨terms', hterms', hperm⟩ := List.perm_comp_forall₂ h.weighedAssertions hterms
    rw [h.z_eq, h.generator_eq]
    exact ⟨terms', hterms', by rw [hfinal, hperm.sum_eq]⟩

end EvaluatedInputs

/-- **The folds do not depend on the order of their items**, for any modulus and either strategy. With
the columns and the assertions in any order, each with its weight, the constraints have values exactly
if they had values before, and the transition result and the final value are the same. -/
theorem evaluateConstraints_reorder_iff (v : Verifier) (inputs : EvaluatedInputs q)
    (hmatched : inputs.Matched) (columns assertions : List ℕ)
    (hcolumns : columns.Perm (List.range inputs.transition.residues.length))
    (hassertions : assertions.Perm (List.range inputs.boundary.assertions.length))
    (a : Accumulation q) :
    v.evaluateConstraints (inputs.reorder columns assertions) = .ok a ↔
      v.evaluateConstraints inputs = .ok a := by
  have h := EvaluatedInputs.rearranges_reorder hmatched hcolumns hassertions
  have hfolds : (inputs.reorder columns assertions).FoldsTo v.parameters a ↔
      inputs.FoldsTo v.parameters a := ⟨h.symm.foldsTo, h.foldsTo⟩
  exact Verifier.evaluateConstraints_eq_ok_iff.trans
    (hfolds.trans Verifier.evaluateConstraints_eq_ok_iff.symm)

/-! ## Three columns and two assertions -/

/-- The parameters of a check with more than one item of either kind. -/
def threeColumnsParameters : Parameters where
  traceLength := 2
  traceWidth := 3
  assertionCount := 2
  blowup := 2
  publicInputCount := 0
  faultless := by decide

/-- Three columns of different degrees and two assertions about different rows, modulo fifteen. All
divisors are multiples of three, and only sums of multiples of three can be divided. -/
def threeColumns : EvaluatedInputs Modulus.fifteen where
  z := .ofWord 5
  generator := .ofWord 14
  transitionWeights := [⟨.ofWord 1, .ofWord 2⟩, ⟨.ofWord 3, .ofWord 4⟩, ⟨.ofWord 5, .ofWord 6⟩]
  boundaryWeights := [⟨1, 1⟩, ⟨.ofWord 2, .ofWord 4⟩]
  transition := ⟨[.ofWord 6, .ofWord 7, .ofWord 5], [1, 2, 3]⟩
  boundary := ⟨[⟨.ofWord 3, 0, 1⟩, ⟨.ofWord 9, 1, 1⟩]⟩
  channel := [1, 1, 1]

/-- The last column first and the assertions exchanged: the values are the same. -/
theorem evaluateConstraints_reorder_threeColumns :
    [2, 0, 1].Perm (List.range 3) ∧ [1, 0].Perm (List.range 2) ∧
      Verifier.evaluateConstraints ⟨threeColumnsParameters, .sequential, .standard⟩ threeColumns =
        .ok ⟨.ofWord 3, .ofWord 9⟩ ∧
      Verifier.evaluateConstraints ⟨threeColumnsParameters, .sequential, .standard⟩
          (threeColumns.reorder [2, 0, 1] [1, 0]) = .ok ⟨.ofWord 3, .ofWord 9⟩ := by
  have hvalues : Verifier.evaluateConstraints ⟨threeColumnsParameters, .sequential, .standard⟩
      threeColumns = .ok ⟨.ofWord 3, .ofWord 9⟩ := by decide +kernel
  have hcolumns : [2, 0, 1].Perm (List.range 3) := by decide
  have hassertions : [1, 0].Perm (List.range 2) := by decide
  exact ⟨hcolumns, hassertions, hvalues,
    (evaluateConstraints_reorder_iff _ threeColumns ⟨rfl, rfl, rfl⟩ _ _ hcolumns hassertions _).2
      hvalues⟩

/-- What is reported of a column has its number in the new order. -/
example :
    Verifier.evaluateConstraints ⟨threeColumnsParameters, .reduction, .standard⟩
        (EvaluatedInputs.reorder
          { threeColumns with transition := ⟨threeColumns.transition.residues, [1, 2, 4]⟩ }
          [2, 0, 1] [0, 1]) =
      .error (.degreeOutOfRange .transitionConstraint 0 4 3) := by
  decide +kernel

end OutOfDomain
