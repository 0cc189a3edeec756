import OutOfDomain.Proofs.Parameters.Bounds
import OutOfDomain.Proofs.Residue.Field

/-!
# Subgroups of the units

A root of unity stands for the subgroup of its powers, walked in order by `Residue.progression`. Over a
prime field whose generator generates all units there is one for every order that divides their number
and for no other order, and it has exactly as many powers as were asked for. Two of these subgroups that
can be inside one another are: the root for `n b` is a power of the generator to an exponent that is `b`
times smaller than that for `n`, so its `b`-th power is the root for `n`, and the smaller subgroup is
every `b`-th element of the larger one (`Residue.IsNested`).

That is how a trace and the composition of its constraints fit together. The two domains are looked up
apart from each other, by their sizes alone, and still the one is inside the other.
-/

set_option autoImplicit false

namespace OutOfDomain

variable {q : Modulus}

namespace Residue

/-! ## One subgroup -/

/-- The power to the order is one, and no power before that is. -/
structure HasExactOrder (r : Residue q) (order : UInt64) : Prop where
  orderOf_eq : orderOf r = order.toNat
  pow_eq_one : r.pow order = 1
  pow_ne_one : ∀ k : UInt64, 0 < k → k < order → r.pow k ≠ 1

theorem hasExactOrder_of_isPrimitiveRoot {r : Residue q} {order : UInt64}
    (h : IsPrimitiveRoot r order.toNat) : r.HasExactOrder order where
  orderOf_eq := h.eq_orderOf.symm
  pow_eq_one := by
    rw [pow_eq_pow]
    exact h.pow_eq_one
  pow_ne_one k hpos hlt := by
    have hk : k.toNat ≠ 0 := Nat.pos_iff_ne_zero.1 (UInt64.lt_iff_toNat_lt.1 hpos)
    rw [pow_eq_pow]
    exact h.pow_ne_one_of_pos_of_lt hk (UInt64.lt_iff_toNat_lt.1 hlt)

theorem exists_rootOfUnity?_iff {order : UInt64} :
    (∃ r : Residue q, rootOfUnity? order = some r) ↔ 0 < order ∧ order.toNat ∣ q.toNat - 1 := by
  have hzero : order.toNat ≠ 0 ↔ 0 < order := by
    rw [UInt64.lt_iff_toNat_lt]
    exact Nat.pos_iff_ne_zero.symm
  simp only [rootOfUnity?_eq_some_iff, hzero]
  constructor
  · intro ⟨_, hpos, hdvd, _⟩
    exact ⟨hpos, hdvd⟩
  · intro ⟨hpos, hdvd⟩
    exact ⟨_, hpos, hdvd, rfl⟩

/-! ## Two subgroups -/

/-- Every `b`-th term of a progression is a term of the progression by the `b`-th power. -/
theorem getElem?_progression_mul {b : ℕ} (hb : 0 < b) (first ratio : Residue q) (n i : ℕ) :
    (progression first ratio (n * b))[i * b]? = (progression first (ratio ^ b) n)[i]? := by
  by_cases hi : i < n
  · have hi' : i * b < n * b := Nat.mul_lt_mul_of_pos_right hi hb
    simp [progression_eq_map, hi, hi', ← pow_mul, mul_comm b]
  · have hi' : ¬ i * b < n * b := fun h => hi (Nat.lt_of_mul_lt_mul_right h)
    simp [progression_eq_map, hi, hi']

/-- The root for `n` is a power of the root for `n b`, and its subgroup is every `b`-th element of the
larger subgroup. -/
structure IsNested (outer inner : Residue q) (n b : UInt64) : Prop where
  outer_eq : rootOfUnity? (n * b) = some outer
  inner_eq : rootOfUnity? n = some inner
  pow_eq : outer.pow b = inner
  getElem?_eq : ∀ i : ℕ,
    (progression 1 outer (n * b).toNat)[i * b.toNat]? = (progression 1 inner n.toNat)[i]?
  subset : progression 1 inner n.toNat ⊆ progression 1 outer (n * b).toNat

section Prime

variable [hq : Fact q.toNat.Prime] {n b : UInt64}

/-- A product of orders that divides the number of units fits a word. -/
theorem toNat_mul_of_dvd (h : n.toNat * b.toNat ∣ q.toNat - 1) :
    (n * b).toNat = n.toNat * b.toNat := by
  have htwo := hq.out.two_le
  have hmodulus : q.toNat < 2 ^ 64 := q.word.toNat_lt
  have hle : n.toNat * b.toNat ≤ q.toNat - 1 := Nat.le_of_dvd (by omega) h
  rw [UInt64.toNat_mul, Nat.mod_eq_of_lt (by omega)]

theorem exists_isNested (h : n.toNat * b.toNat ∣ q.toNat - 1) :
    ∃ outer inner : Residue q, IsNested outer inner n b := by
  have htwo := hq.out.two_le
  have hsize := toNat_mul_of_dvd h
  obtain ⟨m, hm⟩ := h
  have hpos : 0 < n.toNat * b.toNat := by
    apply Nat.pos_of_ne_zero
    intro hzero
    rw [hzero, zero_mul] at hm
    omega
  have hn : 0 < n.toNat := Nat.pos_of_mul_pos_right hpos
  have hb : 0 < b.toNat := Nat.pos_of_mul_pos_left hpos
  -- The exponents are what is left of the number of units, `m` for the one and `b m` for the other.
  have houter : rootOfUnity? (n * b) = some (generator ^ m : Residue q) := by
    rw [rootOfUnity?_eq_some_iff, hsize, hm, Nat.mul_div_cancel_left m hpos]
    exact ⟨hpos.ne', Nat.dvd_mul_right _ _, rfl⟩
  have hinner : rootOfUnity? n = some (generator ^ (b.toNat * m) : Residue q) := by
    rw [rootOfUnity?_eq_some_iff, hm, mul_assoc, Nat.mul_div_cancel_left _ hn]
    exact ⟨hn.ne', Nat.dvd_mul_right _ _, rfl⟩
  have hpow : (generator ^ m : Residue q) ^ b.toNat = generator ^ (b.toNat * m) := by
    rw [← pow_mul, mul_comm]
  have helements (i : ℕ) := getElem?_progression_mul hb 1 (generator ^ m : Residue q) n.toNat i
  rw [hpow, ← hsize] at helements
  refine ⟨_, _, houter, hinner, (pow_eq_pow _ _).trans hpow, helements, fun x hx => ?_⟩
  obtain ⟨i, hi⟩ := List.mem_iff_getElem?.1 hx
  exact List.mem_of_getElem? ((helements i).trans hi)

end Prime

end Residue

/-! ## The domains of a check -/

theorem Parameters.compositionDomainSize_eq (p : Parameters) :
    p.compositionDomainSize = p.traceLength * p.blowup := by
  apply UInt64.toNat_inj.1
  rw [p.toNat_compositionDomainSize, p.toNat_length_mul_blowup]

/-- **Roots of unity have the order that was asked for, and nest.** Over a prime field whose generator
generates all units, there is a root of unity for exactly the orders that divide the number of units,
and its order is that one. The root for a product, to the power of a factor, is the root for the other;
so the composition domain of a parameter set contains its trace domain. -/
theorem rootOfUnity?_exact_and_nested [hq : Fact q.toNat.Prime]
    (hg : orderOf (Residue.generator : Residue q) = q.toNat - 1) :
    (∀ m : UInt64, (∃ r : Residue q, Residue.rootOfUnity? m = some r) ↔
        0 < m ∧ m.toNat ∣ q.toNat - 1) ∧
      (∀ (m : UInt64) (r : Residue q), Residue.rootOfUnity? m = some r → r.HasExactOrder m) ∧
      (∀ n b : UInt64, n.toNat * b.toNat ∣ q.toNat - 1 →
        ∃ outer inner : Residue q, Residue.IsNested outer inner n b) ∧
      ∀ p : Parameters, p.compositionDomainSize.toNat ∣ q.toNat - 1 →
        ∃ outer inner : Residue q, Residue.rootOfUnity? p.compositionDomainSize = some outer ∧
          Residue.rootOfUnity? p.traceLength = some inner ∧
          Residue.progression 1 inner p.traceLength.toNat ⊆
            Residue.progression 1 outer p.compositionDomainSize.toNat := by
  refine ⟨fun m => Residue.exists_rootOfUnity?_iff, fun m r hr => ?_,
    fun n b hdvd => Residue.exists_isNested hdvd, fun p hdvd => ?_⟩
  · exact Residue.hasExactOrder_of_isPrimitiveRoot (Residue.isPrimitiveRoot_of_rootOfUnity? hg hr)
  · rw [p.toNat_compositionDomainSize] at hdvd
    obtain ⟨outer, inner, hnested⟩ := Residue.exists_isNested hdvd
    rw [p.compositionDomainSize_eq]
    exact ⟨outer, inner, hnested.outer_eq, hnested.inner_eq, hnested.subset⟩

/-- Eight rows, and a composition domain of thirty-two points. -/
def eightRowsParameters : Parameters := { blowup := 4, faultless := by decide }

theorem rootOfUnity?_exact_and_nested_small :
    (∃ r : Residue Modulus.small, Residue.rootOfUnity? 32 = some r ∧ r.HasExactOrder 32) ∧
      (¬ ∃ r : Residue Modulus.small, Residue.rootOfUnity? 64 = some r) ∧
      (∃ outer inner : Residue Modulus.small, Residue.IsNested outer inner 8 12) ∧
      ∃ outer inner : Residue Modulus.small, Residue.rootOfUnity? 32 = some outer ∧
        Residue.rootOfUnity? 8 = some inner ∧
        Residue.progression 1 inner 8 ⊆ Residue.progression 1 outer 32 := by
  obtain ⟨hexists, horder, hnested, hdomains⟩ :=
    rootOfUnity?_exact_and_nested Modulus.orderOf_generator_small
  refine ⟨?_, fun h => ?_, hnested 8 12 (by decide), hdomains eightRowsParameters (by decide)⟩
  · obtain ⟨r, hr⟩ := (hexists 32).2 (by decide)
    exact ⟨r, hr, horder 32 r hr⟩
  · exact absurd ((hexists 64).1 h).2 (by decide)

end OutOfDomain
