import OutOfDomain.Proofs.Residue.Field

/-!
# The coset by the generator

The units of a prime modulus are the powers of the generator, so a subgroup of them is the powers of
its root of unity, and shifting it by the generator gives a coset. For a domain of `n` points and a
subgroup of `n b` points, an element of the coset is in the domain exactly if its `n`-th power is one,
and that is a matter of exponents: with `q - 1 = n b m`, the element of number `i` is the power to
`1 + m i`, and it is in the domain if and only if `b m` divides that (`shifted_pow_eq_one_iff`). No
multiple of `m` is one less than a multiple of `m`, unless `m` is one. So the coset avoids the domain
for all subgroups but the group of all units (`exists_shifted_pow_eq_one_iff`).
-/

set_option autoImplicit false

namespace OutOfDomain.Residue

variable {q : Modulus} [hq : Fact q.toNat.Prime]
  (hg : orderOf (generator : Residue q) = q.toNat - 1) {n b m : ℕ}

include hg

/-- An element of the coset by its exponent. -/
theorem shifted_pow_eq_one_iff (h : n * b * m = q.toNat - 1) (i : ℕ) :
    (generator * (generator ^ m : Residue q) ^ i) ^ n = 1 ↔ b * m ∣ 1 + m * i := by
  have htwo := hq.out.two_le
  have hn : 0 < n := by
    apply Nat.pos_of_ne_zero
    rintro rfl
    rw [zero_mul, zero_mul] at h
    omega
  have hpower : (generator * (generator ^ m : Residue q) ^ i) ^ n = generator ^ (n * (1 + m * i)) := by
    rw [← pow_mul, ← pow_succ', ← pow_mul, mul_comm n, add_comm 1]
  rw [hpower, ← orderOf_dvd_iff_pow_eq_one, hg, ← h, mul_assoc]
  exact Nat.mul_dvd_mul_iff_left hn

/-- The coset of a subgroup meets a domain inside it exactly if the subgroup is the whole group. -/
theorem exists_shifted_pow_eq_one_iff (h : n * b * m = q.toNat - 1) :
    (∃ i < n * b, (generator * (generator ^ m : Residue q) ^ i) ^ n = 1) ↔ n * b = q.toNat - 1 := by
  have htwo := hq.out.two_le
  simp only [shifted_pow_eq_one_iff hg h]
  constructor
  · rintro ⟨i, -, hdvd⟩
    -- The product `m i` drops out, and what is left to divide is one.
    have hsum : m ∣ 1 + m * i := (Nat.dvd_mul_left m b).trans hdvd
    have hone : m ∣ 1 := (Nat.dvd_add_left (Nat.dvd_mul_right m i)).1 hsum
    rw [← h, Nat.dvd_one.1 hone, mul_one]
  · intro hall
    have hpos : 0 < n * b := by omega
    have hb : 0 < b := Nat.pos_of_mul_pos_left hpos
    have hm : m = 1 := by
      rw [hall] at h
      exact Nat.eq_of_mul_eq_mul_left (hall ▸ hpos) (h.trans (mul_one _).symm)
    have hle : b ≤ n * b := Nat.le_mul_of_pos_left b (Nat.pos_of_mul_pos_right hpos)
    refine ⟨b - 1, by omega, ?_⟩
    rw [hm, mul_one, one_mul, Nat.add_sub_cancel' hb]

end OutOfDomain.Residue
