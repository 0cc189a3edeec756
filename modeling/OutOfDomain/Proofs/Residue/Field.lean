import Mathlib.Data.List.Prime
import Mathlib.FieldTheory.Finite.Basic
import Mathlib.NumberTheory.LucasPrimality
import Mathlib.RingTheory.RootsOfUnity.PrimitiveRoots
import Mathlib.Tactic.NormNum.Prime
import OutOfDomain.Proofs.Residue.Power

/-!
# The field, for a prime modulus

`Residue.inverse?` raises to the power of the modulus less two. For a prime modulus that *is* the
inverse, by Fermat's little theorem, and the instance `Field (Residue q)` takes its inverse from
there: `a⁻¹` is by definition the residue that a division multiplies with. The one place where the
word subtraction in the exponent could wrap, modulus one, is no prime.

The second part is about roots of unity. `Residue.rootOfUnity?` never looks at the generator, so what
it returns is a power of it for any modulus (`rootOfUnity?_eq_some_iff`). That the power has exactly
the order that was asked for is a fact about a generator that generates: its order must be that of
the group of units.

That a generator does generate, and that its modulus is prime, is one fact, and it can be checked with
the powers that are computed anyway (`Modulus.generates_iff`): the power to the modulus less one is one,
and no power to that less one of its prime factors is. What has to be known is how it factors. The
fields at the end are checked in this way, the one for use where no other is named among them.
-/

set_option autoImplicit false

namespace OutOfDomain.Residue

variable {q : Modulus}

/-! ## Inverses -/

@[simp] theorem inverse?_zero : (0 : Residue q).inverse? = none := if_pos rfl

/-- Whatever the modulus, a residue other than zero has a power that is tried as its inverse. -/
theorem inverse?_of_ne_zero {a : Residue q} (h : a ≠ 0) :
    a.inverse? = some (a ^ (q.word - 2).toNat) := by
  rw [inverse?, if_neg h, raise_of_lt (q.word - 2).toNat_lt]

theorem inverse?_eq_none_iff {a : Residue q} : a.inverse? = none ↔ a = 0 := by
  by_cases h : a = 0
  · rw [h, inverse?_zero]
    exact iff_of_true rfl rfl
  · rw [inverse?_of_ne_zero h]
    exact iff_of_false nofun h

section Prime

variable [hq : Fact q.toNat.Prime]

theorem toNat_word_sub_two : (q.word - 2).toNat = q.toNat - 2 :=
  toNat_word_sub hq.out.two_le

instance : Nontrivial (Residue q) where
  exists_pair_ne := ⟨0, 1, fun h => by
    have h' := congrArg toNat h
    rw [toNat_zero, toNat_one, Nat.mod_eq_of_lt hq.out.one_lt] at h'
    exact zero_ne_one h'⟩

theorem pow_modulus_sub_one {a : Residue q} (h : a ≠ 0) : a ^ (q.toNat - 1) = 1 := by
  refine toZMod_injective ?_
  rw [toZMod_pow, toZMod_one]
  exact ZMod.pow_card_sub_one_eq_one fun h0 => h (toZMod_injective (h0.trans toZMod_zero.symm))

theorem mul_pow_modulus_sub_two {a : Residue q} (h : a ≠ 0) : a * a ^ (q.toNat - 2) = 1 := by
  have htwo := hq.out.two_le
  rw [← pow_succ', show q.toNat - 2 + 1 = q.toNat - 1 by omega, pow_modulus_sub_one h]

/-- For a prime modulus, the residues are a field, with the inverse that a division uses. -/
instance : Field (Residue q) where
  inv a := a.inverse?.getD 0
  mul_inv_cancel a h := by
    rw [inverse?_of_ne_zero h, Option.getD_some, toNat_word_sub_two, mul_pow_modulus_sub_two h]
  inv_zero := by rw [inverse?_zero, Option.getD_none]
  nnqsmul := _
  nnqsmul_def := fun _ _ => rfl
  qsmul := _
  qsmul_def := fun _ _ => rfl

theorem inverse?_eq_some_inv {a : Residue q} (h : a ≠ 0) : a.inverse? = some a⁻¹ := by
  change _ = some (a.inverse?.getD 0)
  rw [inverse?_of_ne_zero h, Option.getD_some]

end Prime

/-! ## Roots of unity -/

theorem toNat_word_sub_one (q : Modulus) : (q.word - 1).toNat = q.toNat - 1 :=
  toNat_word_sub q.pos

/-- There is a root for every order that divides the modulus less one, and it is a power of the
generator. -/
theorem rootOfUnity?_eq_some_iff {order : UInt64} {r : Residue q} :
    rootOfUnity? order = some r ↔
      order.toNat ≠ 0 ∧ order.toNat ∣ q.toNat - 1 ∧
        r = generator ^ ((q.toNat - 1) / order.toNat) := by
  have hzero : order = 0 ↔ order.toNat = 0 := UInt64.toNat_inj.symm
  -- The modulus is at least one, so the word that is divided has not wrapped.
  have hdvd : (q.word - 1) % order = 0 ↔ order.toNat ∣ q.toNat - 1 := by
    rw [← UInt64.toNat_inj, UInt64.toNat_mod, toNat_word_sub_one, Nat.dvd_iff_mod_eq_zero]
    rfl
  have hpow : generator.pow ((q.word - 1) / order)
      = (generator : Residue q) ^ ((q.toNat - 1) / order.toNat) := by
    rw [pow_eq_pow, UInt64.toNat_div, toNat_word_sub_one]
  unfold rootOfUnity?
  rw [hpow]
  split
  · rename_i h
    refine iff_of_false nofun fun h' => ?_
    rcases h with h | h
    · exact h'.1 (hzero.1 h)
    · exact h (hdvd.2 h'.2.1)
  · rename_i h
    rw [not_or, not_not, hzero, hdvd] at h
    simp [h.1, h.2, eq_comm]

section Primitive

variable [hq : Fact q.toNat.Prime]

theorem generator_ne_zero (hg : orderOf (generator : Residue q) = q.toNat - 1) :
    (generator : Residue q) ≠ 0 := by
  intro h
  have htwo := hq.out.two_le
  have hone : (generator : Residue q) ^ (q.toNat - 1) = 1 := hg ▸ pow_orderOf_eq_one _
  rw [h, zero_pow (by omega)] at hone
  exact zero_ne_one hone

/-- Where the generator generates all units, a root of unity has exactly the order that was asked
for. -/
theorem isPrimitiveRoot_of_rootOfUnity? (hg : orderOf (generator : Residue q) = q.toNat - 1)
    {order : UInt64} {r : Residue q} (hr : rootOfUnity? order = some r) :
    IsPrimitiveRoot r order.toNat := by
  obtain ⟨-, hdvd, rfl⟩ := rootOfUnity?_eq_some_iff.1 hr
  have htwo := hq.out.two_le
  have hprim : IsPrimitiveRoot (generator : Residue q) (q.toNat - 1) := IsPrimitiveRoot.iff_orderOf.2 hg
  exact hprim.pow (by omega) (Nat.div_mul_cancel hdvd).symm

theorem natCast_ne_zero_of_dvd {n : ℕ} (hn : n ≠ 0) (hdvd : n ∣ q.toNat - 1) :
    (n : Residue q) ≠ 0 := by
  have htwo := hq.out.two_le
  have hle : n ≤ q.toNat - 1 := Nat.le_of_dvd (by omega) hdvd
  intro h
  have := Nat.le_of_dvd (Nat.pos_of_ne_zero hn) ((natCast_eq_zero_iff n).1 h)
  omega

end Primitive

end OutOfDomain.Residue

/-! ## Generators -/

namespace OutOfDomain.Modulus

section Generators

variable {q : Modulus}

/-- The modulus is prime, and the powers of its generator are all units. -/
structure Generates (q : Modulus) : Prop where
  prime : q.toNat.Prime
  orderOf_generator : orderOf (Residue.generator : Residue q) = q.toNat - 1

theorem generates_iff : q.Generates ↔
    (Residue.generator : Residue q) ^ (q.toNat - 1) = 1 ∧
      ∀ p : ℕ, p.Prime → p ∣ q.toNat - 1 →
        (Residue.generator : Residue q) ^ ((q.toNat - 1) / p) ≠ 1 := by
  constructor
  · intro ⟨hprime, horder⟩
    have hunits : 0 < q.toNat - 1 := Nat.sub_pos_of_lt hprime.one_lt
    refine ⟨horder ▸ pow_orderOf_eq_one _, fun p hp hdvd => ?_⟩
    have hpos : 0 < (q.toNat - 1) / p := Nat.div_pos (Nat.le_of_dvd hunits hdvd) hp.pos
    have hlt : (q.toNat - 1) / p < q.toNat - 1 := Nat.div_lt_self hunits hp.one_lt
    exact pow_ne_one_of_lt_orderOf hpos.ne' (horder.symm ▸ hlt)
  · intro ⟨hone, hne⟩
    have hprime : q.toNat.Prime := by
      refine lucas_primality q.toNat (Residue.generator : Residue q).toZMod ?_ fun p hp hdvd h => ?_
      · rw [← Residue.toZMod_pow, hone, Residue.toZMod_one]
      · rw [← Residue.toZMod_pow, ← Residue.toZMod_one, Residue.toZMod_inj] at h
        exact hne p hp hdvd h
    have hunits : 0 < q.toNat - 1 := Nat.sub_pos_of_lt hprime.one_lt
    exact ⟨hprime, orderOf_eq_of_pow_and_pow_div_prime hunits hone hne⟩

/-- The test on words, with the powers that run. -/
theorem generates_of_factors (factors : List UInt64)
    (hprod : (factors.map UInt64.toNat).prod = q.toNat - 1)
    (hone : (Residue.generator : Residue q).pow (q.word - 1) = 1)
    (hfactors : ∀ p ∈ factors,
      p.toNat.Prime ∧ (Residue.generator : Residue q).pow ((q.word - 1) / p) ≠ 1) :
    q.Generates := by
  refine generates_iff.2 ⟨?_, fun p hp hdvd => ?_⟩
  · rw [← Residue.toNat_word_sub_one, ← Residue.pow_eq_pow, hone]
  · -- A prime that divides the product is one of the factors.
    obtain ⟨n, hn, hpn⟩ := (Prime.dvd_prod_iff hp.prime).1 (hprod ▸ hdvd)
    obtain ⟨w, hw, rfl⟩ := List.mem_map.1 hn
    obtain ⟨hprime, hne⟩ := hfactors w hw
    obtain rfl := (Nat.prime_dvd_prime_iff_eq hp hprime).1 hpn
    rwa [← Residue.toNat_word_sub_one, ← UInt64.toNat_div, ← Residue.pow_eq_pow]

end Generators

/-! ## Two fields -/

/-- The prime 97, whose units are the powers of five. -/
def small : Modulus := ⟨97, 5, by decide⟩

theorem small_generates : small.Generates := by
  refine generates_of_factors [2, 2, 2, 2, 2, 3] (by decide) (by decide +kernel) fun p hp => ?_
  simp only [List.mem_cons, List.not_mem_nil, or_false, or_self_left] at hp
  rcases hp with rfl | rfl
  · exact ⟨Nat.prime_two, by decide +kernel⟩
  · exact ⟨Nat.prime_three, by decide +kernel⟩

instance : Fact small.toNat.Prime := ⟨small_generates.prime⟩

theorem orderOf_generator_small :
    orderOf (Residue.generator : Residue small) = small.toNat - 1 :=
  small_generates.orderOf_generator

/-- The modulus `2^64 - 2^32 + 1`, with seven for a generator. -/
def goldilocks : Modulus := ⟨0xffffffff00000001, 7, by decide⟩

theorem goldilocks_generates : goldilocks.Generates := by
  have h17 : Nat.Prime 17 := by norm_num
  have h257 : Nat.Prime 257 := by norm_num
  have h65537 : Nat.Prime 65537 := by norm_num
  refine generates_of_factors (List.replicate 32 2 ++ [3, 5, 17, 257, 65537]) ?_ ?_ fun p hp => ?_
  · decide +kernel
  · decide +kernel
  · simp only [List.mem_append, List.mem_replicate, List.mem_cons, List.not_mem_nil, or_false] at hp
    rcases hp with ⟨-, rfl⟩ | rfl | rfl | rfl | rfl | rfl
    · exact ⟨Nat.prime_two, by decide +kernel⟩
    · exact ⟨Nat.prime_three, by decide +kernel⟩
    · exact ⟨Nat.prime_five, by decide +kernel⟩
    · exact ⟨h17, by decide +kernel⟩
    · exact ⟨h257, by decide +kernel⟩
    · exact ⟨h65537, by decide +kernel⟩

end OutOfDomain.Modulus
