import Mathlib.Algebra.Ring.GeomSum
import OutOfDomain.DensePoly.Coset
import OutOfDomain.Proofs.DensePoly.Polynomial
import OutOfDomain.Proofs.Residue.Field

/-!
# Interpolation takes its values

For a prime modulus, the inverse transform returns a polynomial that takes the given values on the
points of the coset, provided that the ratio of the coset has the order that it is used with
(`DensePoly.evaluate_interpolateCoset`). What carries it is that the powers of a root of unity
cancel: they add up to zero unless the root is one (`sum_pow_ratio`).

There is then no other way for `DensePoly.interpolateCoset?` to fail than the three that it checks,
and none of them can happen: a ratio with an order is not zero, and an order divides the modulus
less one, so it is not zero in the field either.

A polynomial with as many coefficients as the coset has points is known by its values there. So
interpolation is also the left inverse of evaluation (`interpolateCoset?_mutually_inverse`), and gives
back the coefficients one by one, trailing zeros included.
-/

set_option autoImplicit false

namespace OutOfDomain

variable {q : Modulus} [hq : Fact q.toNat.Prime]

namespace Residue

/-! ## Orders -/

theorem ne_zero_of_isPrimitiveRoot {root : Residue q} {n : ℕ} (hn : n ≠ 0)
    (hroot : IsPrimitiveRoot root n) : root ≠ 0 := by
  rintro rfl
  exact zero_ne_one ((zero_pow hn).symm.trans hroot.pow_eq_one)

theorem dvd_of_isPrimitiveRoot {root : Residue q} {n : ℕ} (hn : n ≠ 0)
    (hroot : IsPrimitiveRoot root n) : n ∣ q.toNat - 1 :=
  hroot.dvd_of_pow_eq_one _ (pow_modulus_sub_one (ne_zero_of_isPrimitiveRoot hn hroot))

theorem natCast_ne_zero_of_isPrimitiveRoot {root : Residue q} {n : ℕ} (hn : n ≠ 0)
    (hroot : IsPrimitiveRoot root n) : (n : Residue q) ≠ 0 :=
  natCast_ne_zero_of_dvd hn (dvd_of_isPrimitiveRoot hn hroot)

theorem lt_two_pow_of_isPrimitiveRoot {root : Residue q} {n : ℕ} (hn : n ≠ 0)
    (hroot : IsPrimitiveRoot root n) : n < 2 ^ 64 := by
  have htwo := hq.out.two_le
  have hword : q.toNat < 2 ^ 64 := q.word.toNat_lt
  have hle := Nat.le_of_dvd (by omega) (dvd_of_isPrimitiveRoot hn hroot)
  omega

/-- The powers of the ratio of two powers of a root add up to its order if the two are the same, and
cancel otherwise. -/
theorem sum_pow_ratio {root : Residue q} {n : ℕ} (hroot : IsPrimitiveRoot root n) {j m : ℕ}
    (hj : j < n) (hm : m < n) :
    ∑ i ∈ Finset.range n, (root ^ j * root⁻¹ ^ m) ^ i = if m = j then (n : Residue q) else 0 := by
  have hne := ne_zero_of_isPrimitiveRoot (Nat.ne_zero_of_lt hj) hroot
  have hm0 : root ^ m ≠ 0 := pow_ne_zero m hne
  rw [inv_pow, ← div_eq_mul_inv]
  by_cases h : m = j
  · rw [if_pos h, h, div_self (h ▸ hm0)]
    simp only [one_pow, Finset.sum_const, Finset.card_range, nsmul_eq_mul, mul_one]
  · -- The ratio is a root of unity other than one, so its geometric sum vanishes.
    have hratio : root ^ j / root ^ m ≠ 1 := fun h' =>
      h (hroot.pow_inj hj hm ((div_eq_one_iff_eq hm0).1 h')).symm
    have hpow : (root ^ j / root ^ m) ^ n = 1 := by
      rw [div_pow, pow_right_comm, hroot.pow_eq_one, one_pow, pow_right_comm, hroot.pow_eq_one,
        one_pow, div_one]
    have hgeom := geom_sum_mul (root ^ j / root ^ m) n
    rw [hpow, sub_self] at hgeom
    rw [if_neg h]
    exact (mul_eq_zero.1 hgeom).resolve_right (sub_ne_zero.2 hratio)

end Residue

namespace DensePoly

/-! ## The inverse transform -/

/-- What the inverse transform returns, by places. -/
def interpolateCoset (values : List (Residue q)) (shift root : Residue q) : DensePoly q :=
  ⟨(List.range values.length).map fun i =>
    evaluate ⟨values⟩ (root⁻¹ ^ i) * (values.length : Residue q)⁻¹ * shift⁻¹ ^ i⟩

@[simp] theorem length_interpolateCoset (values : List (Residue q)) (shift root : Residue q) :
    (interpolateCoset values shift root).coefficients.length = values.length := by
  rw [interpolateCoset, List.length_map, List.length_range]

variable {values : List (Residue q)} {shift root : Residue q}

/-- Over a coset whose ratio has the order of the number of values, the transform never fails. -/
theorem interpolateCoset?_eq_some (hvalues : values ≠ []) (hshift : shift ≠ 0)
    (hroot : IsPrimitiveRoot root values.length) :
    interpolateCoset? values shift root = some (interpolateCoset values shift root) := by
  have hn : values.length ≠ 0 := fun h => hvalues (List.length_eq_zero_iff.1 h)
  have hsize : (Residue.ofWord values.length.toUInt64 : Residue q) = (values.length : Residue q) := by
    rw [Residue.ofWord_eq_natCast]
    exact congrArg Nat.cast
      (UInt64.toNat_ofNat_of_lt' (Residue.lt_two_pow_of_isPrimitiveRoot hn hroot))
  unfold interpolateCoset?
  rw [hsize, Residue.inverse?_eq_some_inv (Residue.natCast_ne_zero_of_isPrimitiveRoot hn hroot),
    Residue.inverse?_eq_some_inv (Residue.ne_zero_of_isPrimitiveRoot hn hroot),
    Residue.inverse?_eq_some_inv hshift]
  simp only [Option.bind_eq_bind, Option.bind_some, Residue.progression_eq_map, one_mul,
    List.zip_map', List.map_map]
  rfl

theorem evaluate_interpolateCoset (hshift : shift ≠ 0)
    (hroot : IsPrimitiveRoot root values.length) {j : ℕ} (hj : j < values.length) :
    (interpolateCoset values shift root).evaluate (shift * root ^ j) = values[j] := by
  have hn := Residue.natCast_ne_zero_of_isPrimitiveRoot (Nat.ne_zero_of_lt hj) hroot
  let n := values.length
  -- The shift of the coset cancels that of the coefficients.
  have hunshift : ∀ i : ℕ, shift⁻¹ ^ i * (shift * root ^ j) ^ i = (root ^ j) ^ i := by
    intro i
    rw [← mul_pow, ← mul_assoc, inv_mul_cancel₀ hshift, one_mul]
  have hterm : ∀ i ∈ Finset.range n,
      evaluate ⟨values⟩ (root⁻¹ ^ i) * (n : Residue q)⁻¹ * shift⁻¹ ^ i * (shift * root ^ j) ^ i =
        (n : Residue q)⁻¹ * ∑ m ∈ Finset.range n, values.getD m 0 * (root ^ j * root⁻¹ ^ m) ^ i := by
    intro i _
    rw [mul_assoc, hunshift, evaluate_eq_sum, Finset.sum_mul, Finset.sum_mul, Finset.mul_sum]
    apply Finset.sum_congr rfl
    intro m _
    rw [mul_pow, pow_right_comm root⁻¹ i m]
    ring
  calc (interpolateCoset values shift root).evaluate (shift * root ^ j)
      = ∑ i ∈ Finset.range n, (n : Residue q)⁻¹ *
          ∑ m ∈ Finset.range n, values.getD m 0 * (root ^ j * root⁻¹ ^ m) ^ i := by
        rw [interpolateCoset, evaluate_map_range]
        exact Finset.sum_congr rfl hterm
    _ = (n : Residue q)⁻¹ * ∑ m ∈ Finset.range n,
          values.getD m 0 * ∑ i ∈ Finset.range n, (root ^ j * root⁻¹ ^ m) ^ i := by
        rw [← Finset.mul_sum, Finset.sum_comm]
        simp only [Finset.mul_sum]
    _ = (n : Residue q)⁻¹ * (values.getD j 0 * n) := by
        rw [Finset.sum_eq_single_of_mem j (Finset.mem_range.2 hj)]
        · rw [Residue.sum_pow_ratio hroot hj hj, if_pos rfl]
        · intro m hm hne
          rw [Residue.sum_pow_ratio hroot hj (Finset.mem_range.1 hm), if_neg hne, mul_zero]
    _ = values[j] := by
        rw [mul_comm, mul_assoc, mul_inv_cancel₀ hn, mul_one, List.getD_eq_getElem _ _ hj]

/-! ## Evaluation and interpolation undo each other -/

/-- The points of a coset are different, so `n` of them tell polynomials of `n` coefficients apart. -/
theorem eq_of_evaluate_coset_eq {P P' : DensePoly q} {n : ℕ} (hn : 0 < n) (hshift : shift ≠ 0)
    (hroot : IsPrimitiveRoot root n) (hP : P.coefficients.length = n)
    (hP' : P'.coefficients.length = n)
    (h : ∀ j < n, P.evaluate (shift * root ^ j) = P'.evaluate (shift * root ^ j)) : P = P' := by
  have hpoint : Function.Injective fun j : Fin n => shift * root ^ (j : ℕ) := by
    intro i j hij
    exact Fin.ext (hroot.pow_inj i.isLt j.isLt (mul_left_cancel₀ hshift hij))
  have heval : ∀ j : Fin n, P.toPolynomial.eval (shift * root ^ (j : ℕ)) =
      P'.toPolynomial.eval (shift * root ^ (j : ℕ)) := by
    intro j
    rw [eval_toPolynomial, eval_toPolynomial, h j j.isLt]
  apply eq_of_toPolynomial_eq (hP.trans hP'.symm)
  apply Polynomial.eq_of_natDegree_lt_card_of_eval_eq _ _ hpoint heval
  rw [Fintype.card_fin]
  exact max_lt (natDegree_toPolynomial_lt hn hP.le) (natDegree_toPolynomial_lt hn hP'.le)

/-- Interpolation returns the one polynomial that has as many coefficients as there are values and
takes them. -/
theorem interpolateCoset?_eq_some_iff (hvalues : values ≠ []) (hshift : shift ≠ 0)
    (hroot : IsPrimitiveRoot root values.length) {P : DensePoly q} :
    interpolateCoset? values shift root = some P ↔
      P.coefficients.length = values.length ∧
        ∀ j (hj : j < values.length), P.evaluate (shift * root ^ j) = values[j] := by
  rw [interpolateCoset?_eq_some hvalues hshift hroot, Option.some_inj]
  constructor
  · intro h
    subst h
    exact ⟨length_interpolateCoset _ _ _, fun j hj => evaluate_interpolateCoset hshift hroot hj⟩
  · intro ⟨hlength, hevaluate⟩
    apply eq_of_evaluate_coset_eq (List.length_pos_of_ne_nil hvalues) hshift hroot
      (length_interpolateCoset _ _ _) hlength
    intro j hj
    rw [evaluate_interpolateCoset hshift hroot hj, hevaluate j hj]

/-- **Interpolation over a coset and evaluation on it are mutually inverse.** Over a prime field, for
every number of points, every shift but zero and every root of exactly that order: a list of values is
interpolated, by a polynomial that has as many coefficients and takes the values in turn; and the
values of any polynomial with that many coefficients are interpolated by the polynomial itself, with
trailing zeros. -/
theorem interpolateCoset?_mutually_inverse {n : ℕ} (hn : 1 ≤ n) (hshift : shift ≠ 0)
    (hroot : orderOf root = n) :
    (∀ values : List (Residue q), values.length = n →
      ∃ P, interpolateCoset? values shift root = some P ∧ P.coefficients.length = n ∧
        ∀ j (hj : j < values.length), P.evaluate (shift * root ^ j) = values[j]) ∧
    ∀ P : DensePoly q, P.coefficients.length = n →
      interpolateCoset? ((List.range n).map fun j => P.evaluate (shift * root ^ j)) shift root =
        some P := by
  have hprimitive : IsPrimitiveRoot root n := IsPrimitiveRoot.iff_orderOf.2 hroot
  constructor
  · intro values hlength
    have hvalues : values ≠ [] := List.ne_nil_of_length_pos (hlength ▸ hn)
    have hsome := interpolateCoset?_eq_some hvalues hshift (hlength ▸ hprimitive)
    obtain ⟨hcount, hevaluate⟩ :=
      (interpolateCoset?_eq_some_iff hvalues hshift (hlength ▸ hprimitive)).1 hsome
    exact ⟨_, hsome, hcount.trans hlength, hevaluate⟩
  · intro P hP
    have hlength : ((List.range n).map fun j => P.evaluate (shift * root ^ j)).length = n := by
      simp
    have hvalues := List.ne_nil_of_length_pos (hlength.symm ▸ hn)
    apply (interpolateCoset?_eq_some_iff hvalues hshift (hlength.symm ▸ hprimitive)).2
    refine ⟨hP.trans hlength.symm, fun j hj => ?_⟩
    simp

/-- A root of unity whose order is no power of two. -/
def cubeRoot : Residue Modulus.small := .ofWord 35

/-- Values for its powers, and a polynomial whose last coefficient is zero. -/
def threeValues : List (Residue Modulus.small) := [4, 60, 9].map .ofWord

def threeCoefficients : DensePoly Modulus.small := ⟨[8, 1, 0].map .ofWord⟩

theorem interpolateCoset?_mutually_inverse_three :
    orderOf cubeRoot = 3 ∧
    (∃ P, interpolateCoset? threeValues .generator cubeRoot = some P ∧ P.coefficients.length = 3 ∧
      ∀ j (hj : j < threeValues.length),
        P.evaluate (Residue.generator * cubeRoot ^ j) = threeValues[j]) ∧
    interpolateCoset?
        ((List.range 3).map fun j =>
          threeCoefficients.evaluate (Residue.generator * cubeRoot ^ j)) .generator cubeRoot =
      some threeCoefficients := by
  have hthree : Fact (Nat.Prime 3) := ⟨Nat.prime_three⟩
  have horder : orderOf cubeRoot = 3 := orderOf_eq_prime (by decide +kernel) (by decide +kernel)
  have hshift := Residue.generator_ne_zero Modulus.orderOf_generator_small
  obtain ⟨hinterpolate, hrecover⟩ :=
    interpolateCoset?_mutually_inverse (by decide) hshift horder
  exact ⟨horder, hinterpolate threeValues rfl, hrecover threeCoefficients rfl⟩

end DensePoly

end OutOfDomain
