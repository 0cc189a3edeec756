import OutOfDomain.Residue.Power
import OutOfDomain.Proofs.Residue.Ring

/-!
# Exponentiation is exact

`Residue.raise` reads a declared number of bits off an exponent. What it returns is the power to
what those bits spell, `exponent % 2 ^ bits` (`raise_eq_pow`): the induction is on the number of
bits, and the bit that is read last is the lowest one, so a step doubles the exponent that has been
read so far and adds that bit (`raise_succ`). Unrolled, it is a walk down the positions of the bits
(`raise_eq_foldl`).

Everything else follows from one fact about widths, `bitWidth_le_iff`: a word fits `k` bits exactly
when its width is at most `k`. So the exponents that `Residue.powBounded` refuses are exactly those
that do not fit (`powBounded_eq`), and the three ways to a power agree (`powBounded_exact`).
-/

set_option autoImplicit false

namespace OutOfDomain

/-! ## Widths -/

/-- The width of a word is the least number of bits that it fits. -/
theorem bitWidth_le_iff (w : UInt64) (k : ℕ) : (bitWidth w).toNat ≤ k ↔ w.toNat < 2 ^ k := by
  unfold bitWidth
  split
  · rename_i h
    subst h
    exact iff_of_true (Nat.zero_le k) (Nat.two_pow_pos k)
  · rename_i h
    have hw : w.toNat ≠ 0 := fun e => h (UInt64.toNat_inj.1 e)
    have hlog : w.toNat.log2 < 64 := (Nat.log2_lt hw).2 w.toNat_lt
    -- The width is kept in a word of its own, which has room for 64.
    have hsmall : (w.toNat.log2 + 1).toUInt32.toNat = w.toNat.log2 + 1 := by
      rw [Nat.toUInt32, UInt32.toNat_ofNat', Nat.mod_eq_of_lt (by omega)]
    rw [hsmall, Nat.succ_le_iff, Nat.log2_lt hw]

theorem toNat_lt_two_pow_bitWidth (w : UInt64) : w.toNat < 2 ^ (bitWidth w).toNat :=
  (bitWidth_le_iff w _).1 le_rfl

theorem bitWidth_le_64 (w : UInt64) : (bitWidth w).toNat ≤ 64 :=
  (bitWidth_le_iff w 64).2 w.toNat_lt

theorem bitWidth_of_eq_two_pow {w : UInt64} {k : ℕ} (h : w.toNat = 2 ^ k) :
    (bitWidth w).toNat = k + 1 := by
  apply eq_of_forall_ge_iff
  intro m
  rw [bitWidth_le_iff, h, Nat.pow_lt_pow_iff_right (by decide), Nat.succ_le_iff]

/-- One below a power of two, every bit is set. -/
theorem bitWidth_of_add_one_eq_two_pow {w : UInt64} {k : ℕ} (h : w.toNat + 1 = 2 ^ k) :
    (bitWidth w).toNat = k := by
  apply eq_of_forall_ge_iff
  intro m
  rw [bitWidth_le_iff, ← Nat.add_one_le_iff, h, Nat.pow_le_pow_iff_right (by decide)]

namespace Residue

variable {q : Modulus}

/-! ## Powers -/

/-- One more bit: what has been read before it is squared, and the bit multiplies once if it is set. -/
theorem raise_succ (base : Residue q) (exponent bits : ℕ) :
    raise base exponent (bits + 1) = raise base (exponent / 2) bits ^ 2 * base ^ (exponent % 2) := by
  rw [raise, square_eq_mul_self, ← sq]
  rcases Nat.mod_two_eq_zero_or_one exponent with h | h
  · rw [if_neg (by omega), h, pow_zero, mul_one]
  · rw [if_pos h, h, pow_one]

theorem raise_eq_pow (base : Residue q) (exponent bits : ℕ) :
    raise base exponent bits = base ^ (exponent % 2 ^ bits) := by
  -- The bit that is read last is the lowest, so the exponent is halved on the way in.
  induction bits generalizing exponent with
  | zero => rw [raise, pow_zero, Nat.mod_one, pow_zero]
  | succ bits ih =>
    have hspell : exponent % 2 ^ (bits + 1) = exponent / 2 % 2 ^ bits * 2 + exponent % 2 := by
      rw [pow_succ', Nat.mod_mul, Nat.add_comm, Nat.mul_comm]
    rw [raise_succ, ih, hspell, pow_add, pow_mul]

/-- The recursion is a walk over the positions of the bits, from the highest to the lowest: there is a
square for each, and a product where the bit is set. -/
theorem raise_eq_foldl (base : Residue q) (exponent bits : ℕ) :
    raise base exponent bits = (List.range bits).reverse.foldl
      (fun power position =>
        if exponent.testBit position then power.square * base else power.square) 1 := by
  induction bits generalizing exponent with
  | zero => rfl
  | succ bits ih =>
    -- All positions but the lowest are those of half the exponent, one higher.
    rw [raise, ih, List.range_succ_eq_map, List.reverse_cons, List.foldl_append, ← List.map_reverse,
      List.foldl_map]
    simp only [Nat.testBit_succ, Nat.testBit_zero, List.foldl_cons, List.foldl_nil,
      decide_eq_true_eq]

/-- An exponent that fits the declared width is read whole. -/
theorem raise_of_lt {base : Residue q} {exponent bits : ℕ} (h : exponent < 2 ^ bits) :
    raise base exponent bits = base ^ exponent := by
  rw [raise_eq_pow, Nat.mod_eq_of_lt h]

theorem pow_eq_pow (base : Residue q) (exponent : UInt64) :
    base.pow exponent = base ^ exponent.toNat :=
  raise_of_lt exponent.toNat_lt

theorem powFixed_eq_pow (base : Residue q) (exponent : UInt64) :
    base.powFixed exponent = base ^ exponent.toNat :=
  raise_of_lt (toNat_lt_two_pow_bitWidth exponent)

/-! ## Powers to a declared width -/

/-- The shift that looks for a bit at or above the width finds one exactly if the exponent does not
fit. -/
theorem shiftRight_ne_zero_iff (exponent : UInt64) {bits : UInt32} (h : bits < 64) :
    exponent >>> bits.toUInt64 ≠ 0 ↔ ¬ exponent.toNat < 2 ^ bits.toNat := by
  have hbits : bits.toNat % 64 = bits.toNat := Nat.mod_eq_of_lt (UInt32.lt_iff_toNat_lt.1 h)
  rw [ne_eq, ← UInt64.toNat_inj, UInt64.toNat_shiftRight, UInt32.toNat_toUInt64, hbits,
    Nat.shiftRight_eq_div_pow]
  exact not_congr (Nat.div_eq_zero_iff_lt (Nat.two_pow_pos _))

/-- What is refused: a width beyond a word, or an exponent that does not fit the width. The full width
needs no shift, since every word fits it. -/
theorem refused_iff (exponent : UInt64) (bits : UInt32) :
    (64 < bits ∨ bits < 64 ∧ exponent >>> bits.toUInt64 ≠ 0) ↔
      ¬ (bits.toNat ≤ 64 ∧ exponent.toNat < 2 ^ bits.toNat) := by
  have hwide : 64 < bits ↔ 64 < bits.toNat := UInt32.lt_iff_toNat_lt
  have hnarrow : bits < 64 ↔ bits.toNat < 64 := UInt32.lt_iff_toNat_lt
  rcases lt_trichotomy bits.toNat 64 with h | h | h
  · have hshift := shiftRight_ne_zero_iff exponent (hnarrow.2 h)
    have hle : bits.toNat ≤ 64 := h.le
    have hgt : ¬ 64 < bits.toNat := hle.not_gt
    simp only [hwide, hnarrow, hshift, h, hle, hgt, false_or, true_and]
  · have hfit : exponent.toNat < 2 ^ 64 := exponent.toNat_lt
    simp only [hwide, hnarrow, h, lt_irrefl, le_refl, hfit, false_and, or_false, and_self, not_true]
  · exact iff_of_true (.inl (hwide.2 h)) fun hfit => h.not_ge hfit.1

/-- The power to a declared width as one equation, refusals included. -/
theorem powBounded_eq (base : Residue q) (exponent : UInt64) (bits : UInt32) :
    base.powBounded exponent bits =
      if bits.toNat ≤ 64 ∧ exponent.toNat < 2 ^ bits.toNat then .ok (base ^ exponent.toNat)
      else .error ⟨exponent, bits⟩ := by
  rw [powBounded, ← ite_or]
  by_cases hfit : bits.toNat ≤ 64 ∧ exponent.toNat < 2 ^ bits.toNat
  · rw [if_neg (fun h => (refused_iff exponent bits).1 h hfit), if_pos hfit, raise_of_lt hfit.2]
  · rw [if_pos ((refused_iff exponent bits).2 hfit), if_neg hfit]

/-- The bounded power exists exactly for a width of at most a word that the exponent fits, and it is
the power. -/
theorem powBounded_eq_ok_iff {base r : Residue q} {exponent : UInt64} {bits : UInt32} :
    base.powBounded exponent bits = .ok r ↔
      bits.toNat ≤ 64 ∧ exponent.toNat < 2 ^ bits.toNat ∧ r = base ^ exponent.toNat := by
  rw [powBounded_eq]
  split
  · rename_i hfit
    simp [hfit, eq_comm]
  · rename_i hfit
    exact iff_of_false nofun fun h => hfit ⟨h.1, h.2.1⟩

theorem powBounded_of_lt {base : Residue q} {exponent : UInt64} {bits : UInt32}
    (hbits : bits.toNat ≤ 64) (hfit : exponent.toNat < 2 ^ bits.toNat) :
    base.powBounded exponent bits = .ok (base ^ exponent.toNat) :=
  powBounded_eq_ok_iff.2 ⟨hbits, hfit, rfl⟩

/-- No exponent up to a bound is refused when the declared width is the bound's own. -/
theorem powBounded_bitWidth {base : Residue q} {exponent bound : UInt64}
    (h : exponent.toNat ≤ bound.toNat) :
    base.powBounded exponent (bitWidth bound) = .ok (base ^ exponent.toNat) :=
  powBounded_of_lt (bitWidth_le_64 bound) (h.trans_lt (toNat_lt_two_pow_bitWidth bound))

/-! ## The three ways to a power -/

/-- **Bounded exponentiation is exact.** To any base modulo any modulus, the power to a declared width
exists exactly for a width of at most a word that the exponent fits. Then it is the power to the full
width of a word, whatever the declared width is; otherwise exponent and width are reported. Reading no
more bits than the exponent has gives the same power. Its representative is that of the power of
integers, so that anything to the power zero is one, zero included. -/
theorem powBounded_exact (base : Residue q) (exponent : UInt64) :
    (∀ bits : UInt32, base.powBounded exponent bits =
        if bits.toNat ≤ 64 ∧ exponent.toNat < 2 ^ bits.toNat then .ok (base.pow exponent)
        else .error ⟨exponent, bits⟩) ∧
      base.powFixed exponent = base.pow exponent ∧
      (base.pow exponent).toNat = base.toNat ^ exponent.toNat % q.toNat ∧
      base.pow 0 = 1 := by
  refine ⟨fun bits => ?_, ?_, ?_, ?_⟩
  · rw [powBounded_eq, pow_eq_pow]
  · rw [powFixed_eq_pow, pow_eq_pow]
  · rw [pow_eq_pow, toNat_pow]
  · rw [pow_eq_pow]
    exact pow_zero base

end Residue

end OutOfDomain
