import OutOfDomain.Proofs.Residue.Field

/-!
# The operations are exact

A residue represents the integers that leave its representative as their remainder
(`Residue.Represents`). Each operation on residues then returns what represents the integer operation,
and residues that represent two integers are equal exactly if the integers are congruent. This is so
for any modulus that fits a word (`Modulus.ReducesIntegers`), and up to the largest one: a sum and a
product are formed in double words, a difference is taken from the larger term, and so no word that is
formed on the way wraps (`Residue.WrapsNowhere`).

What needs a prime modulus is division. There a residue other than zero has one inverse, and the power
that is tried as its inverse is that one (`Modulus.HasInverses`). For the modulus two this is the power
to zero.
-/

set_option autoImplicit false

namespace OutOfDomain

variable {q : Modulus}

/-! ## What a residue represents -/

namespace Residue

/-- The representative is what the integer leaves: the remainder that is not negative and below the
modulus. -/
def Represents (a : Residue q) (x : ℤ) : Prop := (a.toNat : ℤ) = x % q.toNat

theorem represents_iff {a : Residue q} {x : ℤ} : a.Represents x ↔ a.toZMod = x := by
  have hlt : (a.toNat : ℤ) < q.toNat := Int.ofNat_lt.2 a.toNat_lt
  have hmod : (a.toNat : ℤ) % q.toNat = a.toNat := Int.emod_eq_of_lt (Int.natCast_nonneg _) hlt
  rw [toZMod, ← Int.cast_natCast, ZMod.intCast_eq_intCast_iff, Int.ModEq, hmod]
  rfl

theorem represents_toNat (a : Residue q) : a.Represents a.toNat := by
  rw [represents_iff, Int.cast_natCast]
  rfl

theorem represents_ofWord (w : UInt64) : (ofWord w : Residue q).Represents w.toNat := by
  rw [represents_iff, toZMod_ofWord, Int.cast_natCast]

namespace Represents

variable {a b : Residue q} {x y : ℤ}

theorem eq_iff (ha : a.Represents x) (hb : b.Represents y) : a = b ↔ x ≡ y [ZMOD q.toNat] := by
  rw [← toZMod_inj, represents_iff.1 ha, represents_iff.1 hb, ZMod.intCast_eq_intCast_iff]

theorem add (ha : a.Represents x) (hb : b.Represents y) : (a + b).Represents (x + y) := by
  rw [represents_iff, toZMod_add, represents_iff.1 ha, represents_iff.1 hb, Int.cast_add]

theorem sub (ha : a.Represents x) (hb : b.Represents y) : (a - b).Represents (x - y) := by
  rw [represents_iff, toZMod_sub, represents_iff.1 ha, represents_iff.1 hb, Int.cast_sub]

theorem neg (ha : a.Represents x) : (-a).Represents (-x) := by
  rw [represents_iff, toZMod_neg, represents_iff.1 ha, Int.cast_neg]

theorem mul (ha : a.Represents x) (hb : b.Represents y) : (a * b).Represents (x * y) := by
  rw [represents_iff, toZMod_mul, represents_iff.1 ha, represents_iff.1 hb, Int.cast_mul]

end Represents

end Residue

/-- The operations that run are those of the integers, reduced: zero, one and every sum, difference,
negative, product and square are represented by their remainder, and equality is congruence, both of
representatives and of words that are yet to be reduced. -/
structure Modulus.ReducesIntegers (q : Modulus) : Prop where
  eq_iff : ∀ a b : Residue q, a = b ↔ (a.toNat : ℤ) ≡ b.toNat [ZMOD q.toNat]
  ofWord_eq_iff : ∀ v w : UInt64,
    (Residue.ofWord v : Residue q) = Residue.ofWord w ↔ (v.toNat : ℤ) ≡ w.toNat [ZMOD q.toNat]
  zero : (0 : Residue q).Represents 0
  one : (1 : Residue q).Represents 1
  add : ∀ a b : Residue q, (a + b).Represents (a.toNat + b.toNat)
  sub : ∀ a b : Residue q, (a - b).Represents (a.toNat - b.toNat)
  neg : ∀ a : Residue q, (-a).Represents (-a.toNat)
  mul : ∀ a b : Residue q, (a * b).Represents (a.toNat * b.toNat)
  square : ∀ a : Residue q, a.square.Represents (a.toNat ^ 2)

theorem Modulus.reducesIntegers (q : Modulus) : q.ReducesIntegers where
  eq_iff a b := a.represents_toNat.eq_iff b.represents_toNat
  ofWord_eq_iff v w := (Residue.represents_ofWord v).eq_iff (Residue.represents_ofWord w)
  zero := Residue.represents_iff.2 (by rw [Residue.toZMod_zero, Int.cast_zero])
  one := Residue.represents_iff.2 (by rw [Residue.toZMod_one, Int.cast_one])
  add a b := a.represents_toNat.add b.represents_toNat
  sub a b := a.represents_toNat.sub b.represents_toNat
  neg a := a.represents_toNat.neg
  mul a b := a.represents_toNat.mul b.represents_toNat
  square a := by
    rw [sq]
    exact a.represents_toNat.mul a.represents_toNat

/-! ## No word wraps -/

namespace Residue

/-- Every word and double word that an operation forms on the way is the integer that it stands for,
and the low half that is kept of a remainder is all of it. A difference is taken from the larger term,
so that it has two cases. A negative is taken from the modulus where there is something to take, and
the exponent of an inverse is formed for what is not zero. -/
structure WrapsNowhere (a b : Residue q) : Prop where
  sum : (wide a.word + wide b.word).toNat = a.toNat + b.toNat
  product : (wide a.word * wide b.word).toNat = a.toNat * b.toNat
  remainder : ∀ x : BitVec 128,
    ((x % wide q.word).setWidth 64).toNat = (x % wide q.word).toNat
  difference : b.word ≤ a.word → ((a.word - b.word).toNat : ℤ) = a.toNat - b.toNat
  shortfall : ¬ b.word ≤ a.word → ((b.word - a.word).toNat : ℤ) = b.toNat - a.toNat
  complement : ¬ b.word ≤ a.word →
    ((q.word - (b.word - a.word)).toNat : ℤ) = q.toNat - (b.toNat - a.toNat)
  negative : a.word ≠ 0 → ((q.word - a.word).toNat : ℤ) = q.toNat - a.toNat
  exponent : a ≠ 0 → ((q.word - 2).toNat : ℤ) = q.toNat - 2

theorem two_le_modulus {a : Residue q} (h : a ≠ 0) : 2 ≤ q.toNat := by
  have hpos : a.toNat ≠ 0 := fun hzero => h (ext hzero)
  have hlt := a.toNat_lt
  omega

theorem wrapsNowhere (a b : Residue q) : WrapsNowhere a b where
  sum := toNat_wide_add a.word b.word
  product := toNat_wide_mul a.word b.word
  remainder x := by
    rw [toNat_setWidth_mod_wide, BitVec.toNat_umod, toNat_wide]
    rfl
  difference h := by
    have hle : b.toNat ≤ a.toNat := UInt64.le_iff_toNat_le.1 h
    rw [toNat_difference h, Nat.cast_sub hle]
  shortfall h := by
    rw [toNat_shortfall h, Nat.cast_sub (toNat_lt_of_not_le h).le]
  complement h := by
    have hlt := toNat_lt_of_not_le h
    have hb := b.toNat_lt
    rw [toNat_complement h, Nat.cast_sub (by omega), Nat.cast_sub hlt.le]
  negative _ := by
    have hword : (q.word - a.word).toNat = q.toNat - a.toNat := toNat_word_sub a.toNat_lt.le
    rw [hword, Nat.cast_sub a.toNat_lt.le]
  exponent h := by
    have hle := two_le_modulus h
    have hword : (q.word - 2).toNat = q.toNat - 2 := toNat_word_sub hle
    rw [hword, Nat.cast_sub hle]
    rfl

end Residue

/-! ## Inverses -/

/-- The residues are a field, and `Residue.inverse?` finds the inverse of everything but zero: there is
exactly one residue to multiply to one with, and it is the one that is returned. -/
structure Modulus.HasInverses (q : Modulus) : Prop where
  isField : IsField (Residue q)
  eq_none_iff : ∀ a : Residue q, a.inverse? = none ↔ a = 0
  exists_inverse : ∀ a : Residue q, a ≠ 0 →
    ∃ b, a.inverse? = some b ∧ a * b = 1 ∧ ∀ c, a * c = 1 → c = b

theorem Modulus.hasInverses [hq : Fact q.toNat.Prime] : q.HasInverses where
  isField := Field.toIsField (Residue q)
  eq_none_iff _ := Residue.inverse?_eq_none_iff
  exists_inverse a ha :=
    ⟨a⁻¹, Residue.inverse?_eq_some_inv ha, mul_inv_cancel₀ ha, fun _ => eq_inv_of_mul_eq_one_right⟩

/-! ## Both together -/

/-- **The residues are the integers modulo the modulus, and a field if it is prime.** For every modulus
that fits a word, reading the representative is an isomorphism of rings to the integers modulo it, all
operations return the representative of the integer operation, equality is congruence, and no word or
double word wraps. If the modulus is prime, everything but zero has an inverse, and no more than one,
and that is what an inversion returns. -/
theorem Residue.arithmetic_exact (q : Modulus) :
    (∀ a : Residue q, (equivZMod q a).val = a.toNat) ∧ q.ReducesIntegers ∧
      (∀ a b : Residue q, WrapsNowhere a b) ∧
      (q.toNat.Prime → q.HasInverses) := by
  refine ⟨val_toZMod, q.reducesIntegers, wrapsNowhere, fun hprime => ?_⟩
  have : Fact q.toNat.Prime := ⟨hprime⟩
  exact q.hasInverses

/-- The least prime, where an inverse is a power to zero. -/
def Modulus.two : Modulus := ⟨2, 1, by decide⟩

theorem Residue.arithmetic_exact_goldilocks :
    (Modulus.goldilocks.toNat.Prime ∧
        ∃ b : Residue Modulus.goldilocks, (ofWord 0x100000000).inverse? = some b ∧
          ofWord 0x100000000 * b = 1 ∧ ∀ c, ofWord 0x100000000 * c = 1 → c = b) ∧
      Modulus.two.toNat.Prime ∧ (1 : Residue Modulus.two).inverse? = some 1 := by
  obtain ⟨-, -, -, hgoldilocks⟩ := arithmetic_exact Modulus.goldilocks
  obtain ⟨-, -, -, htwo⟩ := arithmetic_exact Modulus.two
  have hprime := Modulus.goldilocks_generates.prime
  refine ⟨⟨hprime, (hgoldilocks hprime).exists_inverse _ (by decide)⟩, Nat.prime_two, ?_⟩
  obtain ⟨b, hb, hmul, -⟩ := (htwo Nat.prime_two).exists_inverse 1 (by decide)
  rw [hb, ← hmul, one_mul]

end OutOfDomain
