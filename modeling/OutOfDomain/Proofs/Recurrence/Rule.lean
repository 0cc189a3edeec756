import Mathlib.Algebra.Polynomial.Degree.Lemmas
import OutOfDomain.Proofs.Parameters.Bounds
import OutOfDomain.Proofs.Residue.Field
import OutOfDomain.Recurrence

/-!
# Rules over a ring

A rule only adds and multiplies, so it makes sense over any commutative ring (`Rule.nextOver`), and
every ring homomorphism respects it (`Rule.map_nextOver`). Both matter for one ring in particular.
Applied to the polynomials of a trace, a rule gives polynomials again; evaluation is a homomorphism,
so *their* values are what the rule makes of the row at a point. The residue polynomials of a trace
(`Rule.residuePolynomials`) have the values that a check computes and a degree that is the degree of
the rule times that of the trace polynomials.

That degree is declared as a product of words. Only for the cubic rule could the product wrap, and
only for the longest trace of all; but then the modulus would be `2 ^ 63 + 1`, which is a multiple
of three (`Recurrence.toNat_declaredDegree`).
-/

set_option autoImplicit false

namespace OutOfDomain

open Polynomial

variable {q : Modulus}

namespace Rule

theorem width_pos (rule : Rule) : 0 < rule.width := by cases rule <;> decide

/-! ## Any ring -/

section Ring

variable {R S : Type} [CommRing R] [CommRing S]

/-- The row after a row, over any ring. -/
def nextOver : Rule → List R → List R
  | affine, [x] => [5 * x + 7]
  | fibonacci, [a, b] => [b, a + b]
  | cubic, [x] => [x ^ 3 + 11]
  | _, row => row

/-- Over the residues, this is the rule that runs. -/
theorem nextOver_eq_next (rule : Rule) (row : List (Residue q)) :
    rule.nextOver row = rule.next row := by
  have hword : ∀ w : UInt64, (Residue.ofWord w : Residue q) = (w.toNat : Residue q) :=
    Residue.ofWord_eq_natCast
  have hcube : ∀ x : Residue q, x.powFixed 3 = x ^ 3 := fun x => Residue.powFixed_eq_pow x 3
  unfold nextOver next
  split <;> simp only [hword, hcube] <;> rfl

@[simp] theorem length_nextOver (rule : Rule) (row : List R) :
    (rule.nextOver row).length = row.length := by
  unfold nextOver
  split <;> rfl

theorem map_nextOver (f : R →+* S) :
    (rule : Rule) → (row : List R) → (rule.nextOver row).map f = rule.nextOver (row.map f)
  | affine, [_] => by
    simp only [nextOver, List.map_cons, List.map_nil, map_add, map_mul, map_ofNat]
  | fibonacci, [_, _] => by simp only [nextOver, List.map_cons, List.map_nil, map_add]
  | cubic, [_] => by
    simp only [nextOver, List.map_cons, List.map_nil, map_add, map_pow, map_ofNat]
  -- A row of another width is left as it is.
  | affine, [] | fibonacci, [] | cubic, [] => rfl
  | affine, _ :: _ :: _ | fibonacci, [_] | fibonacci, _ :: _ :: _ :: _ | cubic, _ :: _ :: _ => rfl

end Ring

/-! ## Polynomials -/

theorem natDegree_add_ofNat_le {P : (Residue q)[X]} {d : ℕ} (h : P.natDegree ≤ d) (n : ℕ)
    [n.AtLeastTwo] : (P + ofNat(n)).natDegree ≤ d := by
  refine natDegree_add_le_of_degree_le h ?_
  rw [natDegree_ofNat]
  exact Nat.zero_le d

/-- The degree of a rule bounds what it does to the degrees of polynomials. -/
theorem natDegree_nextOver_le {d : ℕ} :
    (rule : Rule) → {Ps : List (Residue q)[X]} → (∀ P ∈ Ps, P.natDegree ≤ d) →
      ∀ P ∈ rule.nextOver Ps, P.natDegree ≤ rule.degree.toNat * d
  | affine, [P], h => by
    have hP := h P (List.mem_singleton_self P)
    have hmul : (5 * P).natDegree ≤ 0 + d :=
      natDegree_mul_le_of_le (natDegree_ofNat 5).le hP
    intro P' hP'
    rw [List.mem_singleton.1 hP', show affine.degree.toNat = 1 from rfl, one_mul]
    exact natDegree_add_ofNat_le (hmul.trans (zero_add d).le) 7
  | fibonacci, [P, Q], h => by
    have hP := h P (List.mem_cons_self ..)
    have hQ := h Q (List.mem_cons_of_mem _ (List.mem_singleton_self Q))
    rw [show fibonacci.degree.toNat = 1 from rfl, one_mul]
    intro P' hP'
    rcases List.mem_pair.1 hP' with rfl | rfl
    · exact hQ
    · exact natDegree_add_le_of_degree_le hP hQ
  | cubic, [P], h => by
    have hP := h P (List.mem_singleton_self P)
    intro P' hP'
    rw [List.mem_singleton.1 hP']
    exact natDegree_add_ofNat_le (natDegree_pow_le_of_le 3 hP) 11
  -- Rows of other widths, which the rule does not touch.
  | affine, [], h | fibonacci, [], h | cubic, [], h | affine, _ :: _ :: _, h
  | fibonacci, [_], h | fibonacci, _ :: _ :: _ :: _, h | cubic, _ :: _ :: _, h =>
    fun P hP => (h P hP).trans (Nat.le_mul_of_pos_left d (by decide))

/-- The transition residues of polynomials: what the next row has, less what the rule makes of the
row, where the next row is one step of the domain further. -/
noncomputable def residuePolynomials (rule : Rule) (g : Residue q) (Ps : List (Residue q)[X]) :
    List (Residue q)[X] :=
  List.zipWith (· - ·) (Ps.map (·.comp (C g * X))) (rule.nextOver Ps)

@[simp] theorem length_residuePolynomials (rule : Rule) (g : Residue q)
    (Ps : List (Residue q)[X]) : (rule.residuePolynomials g Ps).length = Ps.length := by
  rw [residuePolynomials, List.length_zipWith, List.length_map, length_nextOver, Nat.min_self]

theorem map_eval_residuePolynomials (rule : Rule) (g : Residue q) (Ps : List (Residue q)[X])
    (x : Residue q) :
    (rule.residuePolynomials g Ps).map (·.eval x) =
      List.zipWith (· - ·) (Ps.map (·.eval (x * g))) (rule.next (Ps.map (·.eval x))) := by
  have hnext : rule.next (Ps.map (·.eval x)) = (rule.nextOver Ps).map (·.eval x) := by
    rw [← nextOver_eq_next]
    exact (map_nextOver (evalRingHom x) rule Ps).symm
  have hcomp : ∀ P : (Residue q)[X], P.eval (x * g) = (P.comp (C g * X)).eval x := fun P => by
    rw [eval_comp, eval_mul, eval_C, eval_X, mul_comm]
  simp only [hnext, hcomp, residuePolynomials, List.map_zipWith, List.zipWith_map_left,
    List.zipWith_map_right, eval_sub]

theorem natDegree_residuePolynomials_le {Ps : List (Residue q)[X]} {d : ℕ}
    (h : ∀ P ∈ Ps, P.natDegree ≤ d) (rule : Rule) (g : Residue q) :
    ∀ P ∈ rule.residuePolynomials g Ps, P.natDegree ≤ rule.degree.toNat * d := by
  intro P hP
  obtain ⟨i, hi, rfl⟩ := List.getElem_of_mem hP
  rw [length_residuePolynomials] at hi
  have hlinear : (C g * X : (Residue q)[X]).natDegree ≤ 1 :=
    (natDegree_C_mul_le g X).trans natDegree_X_le
  -- One step of the domain does not change a degree; only the rule can raise it.
  have hshift : (Ps[i].comp (C g * X)).natDegree ≤ d := by
    calc (Ps[i].comp (C g * X)).natDegree
        ≤ Ps[i].natDegree * (C g * X).natDegree := natDegree_comp_le
      _ ≤ d * 1 := Nat.mul_le_mul (h _ (List.getElem_mem hi)) hlinear
      _ = d := Nat.mul_one d
  have hdegree : 1 ≤ rule.degree.toNat := by cases rule <;> decide
  have hi' : i < (rule.nextOver Ps).length := by rwa [length_nextOver]
  have hnext := natDegree_nextOver_le rule h _ (List.getElem_mem hi')
  have hresidue : (rule.residuePolynomials g Ps)[i] =
      Ps[i].comp (C g * X) - (rule.nextOver Ps)[i] := by
    simp only [residuePolynomials, List.getElem_zipWith, List.getElem_map]
  rw [hresidue]
  refine (natDegree_sub_le _ _).trans (max_le ?_ hnext)
  exact hshift.trans (Nat.le_mul_of_pos_left d hdegree)

end Rule

/-! ## Declared degrees -/

namespace Recurrence

variable (r : Recurrence)

theorem toNat_lastRow : r.lastRow.toNat = r.length.toNat - 1 :=
  toNat_word_sub (Nat.le_of_succ_le r.two_le_length)

/-- Where the modulus has a domain of the length of the trace, the declared degree is a product of
numbers. -/
theorem toNat_declaredDegree [hq : Fact q.toNat.Prime] (hdvd : r.length.toNat ∣ q.toNat - 1) :
    (r.rule.degree * r.lastRow).toNat = r.rule.degree.toNat * (r.length.toNat - 1) := by
  have htwo := r.two_le_length
  have hdegree : r.rule.degree.toNat ≤ 3 := by cases r.rule <;> decide
  obtain ⟨k, hk⟩ := r.isPowerOfTwo_length
  have hword : 2 ^ k < 2 ^ 64 := hk ▸ r.length.toNat_lt
  have hk63 : k < 64 := (Nat.pow_lt_pow_iff_right (by decide)).1 hword
  have hne : k ≠ 63 := by
    -- Twice the length is too much already, so the modulus is the length plus one.
    rintro rfl
    obtain ⟨m, hm⟩ := hdvd
    have hmodulus : q.toNat < 2 ^ 64 := q.word.toNat_lt
    have hprime := hq.out.two_le
    rw [hk] at hm
    have hm1 : m = 1 := by omega
    have hthree : 3 ∣ q.toNat := by omega
    have := (Nat.prime_dvd_prime_iff_eq Nat.prime_three hq.out).1 hthree
    omega
  have hsmall : r.length.toNat ≤ 2 ^ 62 := hk ▸ Nat.pow_le_pow_right (by decide) (by omega)
  have hproduct := Nat.mul_le_mul hdegree (Nat.sub_le_sub_right hsmall 1)
  rw [UInt64.toNat_mul, toNat_lastRow, Nat.mod_eq_of_lt (hproduct.trans_lt (by decide))]

end Recurrence

end OutOfDomain
