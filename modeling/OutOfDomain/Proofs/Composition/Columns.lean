import Mathlib.Data.List.Perm.Basic
import OutOfDomain.Proofs.Composition

/-!
# Columns are dealt out and put together again

A composition is committed to by columns. `DensePoly.splitColumns` deals the coefficients out, and
`combineChannel` puts the opened columns together again; neither looks at the number of coefficients,
so the columns may differ in length, and some may be empty.

`DensePoly.IsDeal` says what a deal is without saying how it is made: how many columns there are, which
coefficient each of their places holds, and that every coefficient has gone to one of them. The last
part follows the definition along the coefficients, as the value of a polynomial from its columns does
(`DensePoly.sum_everyNth`): one coefficient more in front moves every other one to the next column, and
the last column comes round to the first.

That the two undo each other (`combineChannel_undoes_splitColumns`) is a matter of ring arithmetic. It
holds for any modulus and at any point, zero included, where every column but the first is opened in
vain.
-/

set_option autoImplicit false

namespace OutOfDomain

variable {q : Modulus}

namespace DensePoly

/-! ## Places -/

theorem getElem?_everyNth {α : Type} (gap wait : ℕ) (items : List α) (k : ℕ) :
    (everyNth gap wait items)[k]? = items[k * (gap + 1) + wait]? := by
  induction items generalizing wait k with
  | nil => cases wait <;> rfl
  | cons a rest ih =>
    cases wait with
    | zero =>
      cases k with
      | zero => simp [everyNth]
      | succ k =>
        have hplace : (k + 1) * (gap + 1) + 0 = k * (gap + 1) + gap + 1 := by ring
        rw [everyNth, List.getElem?_cons_succ, ih, hplace, List.getElem?_cons_succ]
    | succ wait => rw [everyNth, ih, ← Nat.add_assoc, List.getElem?_cons_succ]

theorem flatMap_everyNth_perm {α : Type} (gap : ℕ) (items : List α) :
    ((List.range (gap + 1)).flatMap fun i => everyNth gap i items).Perm items := by
  induction items with
  | nil => simp [everyNth]
  | cons a rest ih =>
    have hfirst : ((List.range (gap + 1)).flatMap fun i => everyNth gap i (a :: rest)) =
        a :: (everyNth gap gap rest ++ (List.range gap).flatMap fun i => everyNth gap i rest) := by
      rw [List.range_succ_eq_map, List.flatMap_cons, List.flatMap_map]
      rfl
    have hlast : ((List.range (gap + 1)).flatMap fun i => everyNth gap i rest) =
        ((List.range gap).flatMap fun i => everyNth gap i rest) ++ everyNth gap gap rest := by
      rw [List.range_succ, List.flatMap_append, List.flatMap_singleton]
    rw [hfirst]
    apply List.Perm.cons
    rw [hlast] at ih
    exact List.perm_append_comm.trans ih

/-! ## Deals -/

/-- The columns are the coefficients of the polynomial, dealt out in turn: place `k` of column `i` is
empty or holds the coefficient that the polynomial has at `k * width + i`, and no coefficient is lost
or dealt out twice. -/
structure IsDeal (columns : List (DensePoly q)) (p : DensePoly q) (width : ℕ) : Prop where
  length_columns : columns.length = width
  getElem?_coefficients : ∀ i (h : i < columns.length) k,
    columns[i].coefficients[k]? = p.coefficients[k * width + i]?
  coefficients_perm : (columns.flatMap (·.coefficients)).Perm p.coefficients

/-- A width of zero acts as one. -/
theorem splitColumns_max (p : DensePoly q) (width : ℕ) :
    p.splitColumns (max width 1) = p.splitColumns width := by
  simp [splitColumns]

theorem isDeal_splitColumns (p : DensePoly q) (width : ℕ) :
    IsDeal (p.splitColumns width) p (max width 1) := by
  obtain ⟨gap, hgap⟩ := Nat.exists_eq_add_of_le' (le_max_right width 1)
  have hcolumns : p.splitColumns width =
      (List.range (gap + 1)).map fun i => ⟨everyNth gap i p.coefficients⟩ := by
    rw [splitColumns, hgap, Nat.add_sub_cancel]
  rw [hgap, hcolumns]
  refine ⟨by simp, fun i hi k => ?_, ?_⟩
  · rw [List.getElem_map, List.getElem_range, getElem?_everyNth]
  · rw [List.flatMap_map]
    exact flatMap_everyNth_perm gap p.coefficients

/-- Seven coefficients over three columns. -/
example : splitColumns (⟨[1, 2, 3, 4, 5, 6, 7].map .ofWord⟩ : DensePoly Modulus.small) 3 =
    [⟨[1, 4, 7].map .ofWord⟩, ⟨[2, 5].map .ofWord⟩, ⟨[3, 6].map .ofWord⟩] := by decide

end DensePoly

/-! ## Together again -/

/-- **The channel undoes the deal.** For any modulus, any polynomial, any width and any point: the
columns are a deal of the coefficients, and opened at the power of the point that they were dealt out
for, they are put together to the value of the polynomial. So what the channel carries of a composition
is its value, at every point. -/
theorem combineChannel_undoes_splitColumns (q : Modulus) :
    (∀ (P : DensePoly q) (width : ℕ),
      DensePoly.IsDeal (P.splitColumns width) P (max width 1) ∧
        ∀ z, combineChannel ((P.splitColumns width).map (·.evaluate (z ^ max width 1))) z =
          P.evaluate z) ∧
    ∀ (p : Parameters) (system : ConstraintSystem q) (t : TraceTable q)
      (publicInputs : List (Residue q)) (transitionWeights boundaryWeights : List (Weight q))
      (c : Composition q),
      Composition.compose p system t publicInputs transitionWeights boundaryWeights = .ok c →
        ∀ z, combineChannel (c.channel z) z = c.evaluate z := by
  constructor
  · intro P width
    refine ⟨P.isDeal_splitColumns width, fun z => ?_⟩
    rw [← P.splitColumns_max width]
    exact combineChannel_splitColumns P (le_max_right width 1) z
  · intro p system t publicInputs transitionWeights boundaryWeights c hcompose z
    obtain ⟨-, -, -, -, -, -, -, -, -, hcolumns⟩ := Composition.compose_eq_ok_iff.1 hcompose
    exact (Composition.combineChannel_channel p.one_le_traceWidth hcolumns z).2

/-- Two constraints and an assertion that look at nothing. -/
def pairSystem : ConstraintSystem Modulus.small where
  id := "pair"
  layout := ⟨2, 4, 1, 0⟩
  transitions _ := .ok ⟨[.ofWord 7, .ofWord 11], [1, 2]⟩
  boundaries _ _ _ _ := .ok ⟨[⟨.ofWord 5, 1, 0⟩]⟩

def pairParameters : Parameters where
  traceLength := 4
  traceWidth := 2
  assertionCount := 1
  blowup := 2
  publicInputCount := 0
  faultless := by decide

/-- What is composed from them over four pairs of cells. -/
def pairComposition : Composition Modulus.small where
  polynomial := ⟨[20, 89, 12, 71, 20, 36, 19, 45].map .ofWord⟩
  columns := [⟨[20, 12, 20, 19].map .ofWord⟩, ⟨[89, 71, 36, 45].map .ofWord⟩]

theorem combineChannel_channel_pairComposition :
    ∀ z, combineChannel (pairComposition.channel z) z = pairComposition.evaluate z := by
  have hcompose : Composition.compose pairParameters pairSystem fourPairs []
      [⟨.ofWord 2, .ofWord 3⟩, ⟨1, 1⟩] [⟨1, 1⟩] = .ok pairComposition := by decide +kernel
  exact (combineChannel_undoes_splitColumns Modulus.small).2 _ _ _ _ _ _ _ hcompose

end OutOfDomain
