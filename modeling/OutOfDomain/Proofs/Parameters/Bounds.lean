import Mathlib.Tactic.Ring
import OutOfDomain.Parameters.Basic
import OutOfDomain.Proofs.Residue.Power

/-!
# What validation promises

A set of parameters carries the proof that its draft has no fault. Read as a condition on numbers
(`Draft.fault?_eq_none_iff`) that is all that the word arithmetic of a check relies on: the product
of length and blowup is positive and fits a word, so the highest degree is that product less one and
nothing wraps, and the last row is within the highest degree.
-/

set_option autoImplicit false

namespace OutOfDomain

theorem Draft.fault?_eq_none_iff (d : Draft) :
    d.fault? = none ↔
      2 ≤ d.traceLength.toNat ∧ d.traceLength.toNat.isPowerOfTwo ∧ 1 ≤ d.traceWidth.toNat ∧
        d.blowup.toNat.isPowerOfTwo ∧ d.traceLength.toNat * d.blowup.toNat < 2 ^ 64 := by
  have hshort : d.traceLength < minTraceLength ↔ ¬ 2 ≤ d.traceLength.toNat := by
    rw [UInt64.lt_iff_toNat_lt, Nat.not_le]
    rfl
  have hwidth : d.traceWidth = 0 ↔ ¬ 1 ≤ d.traceWidth.toNat := by
    rw [← UInt64.toNat_inj, Nat.not_le, Nat.lt_one_iff]
    rfl
  have hsize : UInt64.size ≤ d.traceLength.toNat * d.blowup.toNat ↔
      ¬ d.traceLength.toNat * d.blowup.toNat < 2 ^ 64 := Nat.not_lt.symm
  unfold fault?
  simp only [hshort, hwidth, hsize, ite_not, ite_eq_iff, reduceCtorEq, and_false, or_false,
    and_true]

/-- The conditions under which five words are parameters. -/
structure Draft.IsSound (d : Draft) : Prop where
  two_le_traceLength : 2 ≤ d.traceLength.toNat
  isPowerOfTwo_traceLength : d.traceLength.toNat.isPowerOfTwo
  one_le_traceWidth : 1 ≤ d.traceWidth.toNat
  isPowerOfTwo_blowup : d.blowup.toNat.isPowerOfTwo
  length_mul_blowup_lt : d.traceLength.toNat * d.blowup.toNat < 2 ^ 64

theorem Draft.isSound_iff {d : Draft} : d.IsSound ↔ d.fault? = none := by
  rw [fault?_eq_none_iff]
  exact ⟨fun ⟨h₁, h₂, h₃, h₄, h₅⟩ => ⟨h₁, h₂, h₃, h₄, h₅⟩,
    fun ⟨h₁, h₂, h₃, h₄, h₅⟩ => ⟨h₁, h₂, h₃, h₄, h₅⟩⟩

theorem Draft.validate_eq_ok_iff {d : Draft} {p : Parameters} :
    d.validate = .ok p ↔ p.toDraft = d := by
  unfold validate
  constructor
  · intro h
    split at h
    · cases h
    · cases h
      rfl
  · rintro rfl
    split
    · rename_i h
      exact absurd (p.faultless.symm.trans h) nofun
    · rfl

namespace Parameters

variable (p : Parameters)

theorem isSound : p.IsSound := Draft.isSound_iff.2 p.faultless

theorem two_le_traceLength : 2 ≤ p.traceLength.toNat := p.isSound.two_le_traceLength

theorem isPowerOfTwo_traceLength : p.traceLength.toNat.isPowerOfTwo :=
  p.isSound.isPowerOfTwo_traceLength

theorem one_le_traceWidth : 1 ≤ p.traceWidth.toNat := p.isSound.one_le_traceWidth

theorem isPowerOfTwo_blowup : p.blowup.toNat.isPowerOfTwo := p.isSound.isPowerOfTwo_blowup

theorem length_mul_blowup_lt : p.traceLength.toNat * p.blowup.toNat < 2 ^ 64 :=
  p.isSound.length_mul_blowup_lt

theorem traceLength_le_length_mul_blowup :
    p.traceLength.toNat ≤ p.traceLength.toNat * p.blowup.toNat :=
  Nat.le_mul_of_pos_right _ (Nat.pos_of_isPowerOfTwo p.isPowerOfTwo_blowup)

/-! ## Derived quantities -/

theorem toNat_traceLength_sub_one : (p.traceLength - 1).toNat = p.traceLength.toNat - 1 :=
  UInt64.toNat_sub_of_le _ _
    (UInt64.le_iff_toNat_le.2 (Nat.le_of_succ_le p.two_le_traceLength))

theorem toNat_length_mul_blowup :
    (p.traceLength * p.blowup).toNat = p.traceLength.toNat * p.blowup.toNat := by
  rw [UInt64.toNat_mul, Nat.mod_eq_of_lt p.length_mul_blowup_lt]

theorem toNat_maxDegree : p.maxDegree.toNat = p.traceLength.toNat * p.blowup.toNat - 1 := by
  have hlen := p.two_le_traceLength
  have hprod := p.traceLength_le_length_mul_blowup
  have hmul := p.toNat_length_mul_blowup
  -- The product is at least two, so its predecessor does not wrap either.
  rw [maxDegree, UInt64.toNat_sub_of_le _ _ (UInt64.le_iff_toNat_le.2 _), hmul]
  · rfl
  · rw [hmul]
    exact Nat.le_trans (by decide) (Nat.le_trans hlen hprod)

theorem toNat_maxDegree_add_one :
    p.maxDegree.toNat + 1 = p.traceLength.toNat * p.blowup.toNat := by
  have hlen := p.two_le_traceLength
  have hprod := p.traceLength_le_length_mul_blowup
  rw [toNat_maxDegree]
  omega

theorem toNat_compositionDomainSize :
    p.compositionDomainSize.toNat = p.traceLength.toNat * p.blowup.toNat := by
  have hsize := p.length_mul_blowup_lt
  rw [compositionDomainSize, UInt64.toNat_add, UInt64.toNat_one, toNat_maxDegree_add_one,
    Nat.mod_eq_of_lt hsize]

/-- The residue of an assertion, of the degree of a trace polynomial, can be lifted. -/
theorem lastRow_le_maxDegree : p.traceLength.toNat - 1 ≤ p.maxDegree.toNat := by
  have hprod := p.traceLength_le_length_mul_blowup
  rw [toNat_maxDegree]
  omega

end Parameters

end OutOfDomain
