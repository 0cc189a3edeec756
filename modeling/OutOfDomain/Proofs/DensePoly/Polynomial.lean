import Mathlib.Algebra.Polynomial.Eval.Degree
import Mathlib.Algebra.Polynomial.Degree.Lemmas
import Mathlib.Data.List.GetD
import OutOfDomain.Check.Channel
import OutOfDomain.DensePoly.Basic
import OutOfDomain.Proofs.Residue.Ring

/-!
# Coefficient lists as polynomials

`DensePoly.toPolynomial` is the polynomial that a list of coefficients stands for. Horner's rule
computes its values (`eval_toPolynomial`), and a list of `n` coefficients has a degree below `n`
(`natDegree_toPolynomial_lt`). Both hold modulo any number.

The second half is about the split into columns. A polynomial that is dealt out over `w` columns is
put together again by evaluating column `i` at `z ^ w` and adding up with the powers of `z`, which is
just what the channel does (`combineChannel_splitColumns`). The deal is followed coefficient by
coefficient: one more in front moves every other coefficient to the next column, and the last column
comes round to the first with a factor `z ^ w`.
-/

set_option autoImplicit false

namespace OutOfDomain

open Polynomial

variable {q : Modulus}

namespace DensePoly

/-! ## Values and degrees -/

/-- The polynomial that a list of coefficients stands for. -/
noncomputable def toPolynomial (p : DensePoly q) : (Residue q)[X] :=
  p.coefficients.foldr (fun c rest => rest * X + C c) 0

@[simp] theorem toPolynomial_nil : toPolynomial (⟨[]⟩ : DensePoly q) = 0 := rfl

@[simp] theorem toPolynomial_cons (c : Residue q) (rest : List (Residue q)) :
    toPolynomial ⟨c :: rest⟩ = toPolynomial ⟨rest⟩ * X + C c := rfl

@[simp] theorem evaluate_nil (x : Residue q) : evaluate ⟨[]⟩ x = 0 := rfl

@[simp] theorem evaluate_cons (c : Residue q) (rest : List (Residue q)) (x : Residue q) :
    evaluate ⟨c :: rest⟩ x = evaluate ⟨rest⟩ x * x + c := rfl

theorem eval_toPolynomial (p : DensePoly q) (x : Residue q) :
    p.toPolynomial.eval x = p.evaluate x := by
  obtain ⟨coefficients⟩ := p
  induction coefficients with
  | nil => rw [toPolynomial_nil, evaluate_nil, eval_zero]
  | cons c rest ih =>
    rw [toPolynomial_cons, evaluate_cons, eval_add, eval_mul, eval_X, eval_C, ih]

theorem coeff_toPolynomial (p : DensePoly q) (i : ℕ) :
    p.toPolynomial.coeff i = p.coefficients.getD i 0 := by
  obtain ⟨coefficients⟩ := p
  induction coefficients generalizing i with
  | nil => rw [toPolynomial_nil, coeff_zero, List.getD_nil]
  | cons c rest ih =>
    rw [toPolynomial_cons, coeff_add]
    cases i with
    | zero => rw [coeff_mul_X_zero, coeff_C_zero, zero_add, List.getD_cons_zero]
    | succ i => rw [coeff_mul_X, coeff_C_succ, add_zero, ih, List.getD_cons_succ]

theorem natDegree_toPolynomial_lt {p : DensePoly q} {n : ℕ} (hn : 0 < n)
    (h : p.coefficients.length ≤ n) : p.toPolynomial.natDegree < n := by
  suffices p.toPolynomial.natDegree ≤ n - 1 by omega
  apply natDegree_le_iff_coeff_eq_zero.2
  intro i hi
  rw [coeff_toPolynomial]
  exact List.getD_eq_default _ _ (by omega)

/-- Polynomials of one length are told apart by what they stand for. -/
theorem eq_of_toPolynomial_eq {p p' : DensePoly q}
    (hlength : p.coefficients.length = p'.coefficients.length)
    (h : p.toPolynomial = p'.toPolynomial) : p = p' := by
  have hcoefficients : p.coefficients = p'.coefficients := by
    apply List.ext_getElem hlength
    intro i hi hi'
    rw [← List.getD_eq_getElem _ 0 hi, ← List.getD_eq_getElem _ 0 hi', ← coeff_toPolynomial, h,
      coeff_toPolynomial]
  cases p
  cases p'
  exact congrArg DensePoly.mk hcoefficients

theorem evaluate_map_range (f : ℕ → Residue q) (n : ℕ) (x : Residue q) :
    evaluate ⟨(List.range n).map f⟩ x = ∑ i ∈ Finset.range n, f i * x ^ i := by
  induction n generalizing f with
  | zero => rfl
  | succ n ih =>
    rw [List.range_succ_eq_map, List.map_cons, List.map_map, evaluate_cons, ih,
      Finset.sum_range_succ', pow_zero, mul_one, Finset.sum_mul]
    simp only [Function.comp_apply, pow_succ, mul_assoc]

theorem evaluate_eq_sum (p : DensePoly q) (x : Residue q) :
    p.evaluate x = ∑ i ∈ Finset.range p.coefficients.length, p.coefficients.getD i 0 * x ^ i := by
  obtain ⟨coefficients⟩ := p
  rw [← evaluate_map_range]
  congr
  apply List.ext_getElem (by simp)
  intro i h _
  rw [List.getElem_map, List.getElem_range, List.getD_eq_getElem _ _ h]

/-! ## Columns -/

/-- The columns of a polynomial, at the power of a point that they are dealt out for, make up its
value at the point. -/
theorem sum_everyNth (gap : ℕ) (coefficients : List (Residue q)) (z : Residue q) :
    ∑ i ∈ Finset.range (gap + 1), evaluate ⟨everyNth gap i coefficients⟩ (z ^ (gap + 1)) * z ^ i =
      evaluate ⟨coefficients⟩ z := by
  induction coefficients with
  | nil => exact Finset.sum_eq_zero fun i _ => by rw [everyNth, evaluate_nil, zero_mul]
  | cons c rest ih =>
    -- The new coefficient stands on its own; what was the last column is now the first.
    have hshift : ∀ i ∈ Finset.range gap,
        evaluate ⟨everyNth gap (i + 1) (c :: rest)⟩ (z ^ (gap + 1)) * z ^ (i + 1) =
          evaluate ⟨everyNth gap i rest⟩ (z ^ (gap + 1)) * z ^ i * z := by
      intro i _
      rw [everyNth, pow_succ z i, mul_assoc]
    rw [Finset.sum_range_succ', Finset.sum_congr rfl hshift, ← Finset.sum_mul, everyNth,
      evaluate_cons, evaluate_cons, ← ih, Finset.sum_range_succ]
    ring

end DensePoly

theorem combineChannel_map_range (f : ℕ → Residue q) (n : ℕ) (z : Residue q) :
    combineChannel ((List.range n).map f) z = ∑ i ∈ Finset.range n, f i * z ^ i := by
  have hlist : ∑ i ∈ Finset.range n, f i * z ^ i =
      ((List.range n).map fun i => f i * z ^ i).sum := rfl
  rw [combineChannel, Residue.sum_eq_list_sum, List.length_map, List.length_range,
    Residue.progression_eq_map, List.zipWith_map, List.zipWith_self, hlist]
  simp only [one_mul]

/-- The channel puts together what was dealt out. -/
theorem combineChannel_splitColumns (p : DensePoly q) {width : ℕ} (h : 1 ≤ width)
    (z : Residue q) :
    combineChannel ((p.splitColumns width).map (·.evaluate (z ^ width))) z = p.evaluate z := by
  obtain ⟨gap, rfl⟩ := Nat.exists_eq_add_of_le' h
  rw [DensePoly.splitColumns, Nat.max_eq_left h, List.map_map, combineChannel_map_range]
  exact DensePoly.sum_everyNth gap p.coefficients z

end OutOfDomain
