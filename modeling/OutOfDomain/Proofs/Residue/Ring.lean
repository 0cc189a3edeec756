import Mathlib.Data.ZMod.Basic
import Mathlib.Tactic.Ring
import OutOfDomain.Residue.Progression

/-!
# The residues as a ring

`Residue q` is `ZMod q.toNat` in canonical words. `Residue.toZMod` is that reading: it is injective,
because a representative is below the modulus, and it respects every operation, because each returns
the representative of the integer operation (`Residue.toNat_add` and its companions). So the ring
laws are those of `ZMod`, read backwards, and they hold for *every* modulus: nothing in this file
asks for a prime.

The instance `CommRing (Residue q)` is built on the operations that run, subtraction and negation
included, and not on copies of them. From here on `ring` and the library's lemmas about sums, powers
and polynomials speak about the very values that a check computes.
-/

set_option autoImplicit false

namespace OutOfDomain.Residue

variable {q : Modulus}

/-! ## Reading a residue as an integer modulo the modulus -/

instance : NeZero q.toNat := ⟨Nat.pos_iff_ne_zero.1 q.pos⟩

/-- The residue class that a representative stands for. -/
def toZMod (a : Residue q) : ZMod q.toNat := a.toNat

theorem val_toZMod (a : Residue q) : a.toZMod.val = a.toNat := by
  rw [toZMod, ZMod.val_natCast, Nat.mod_eq_of_lt a.toNat_lt]

theorem toZMod_injective : Function.Injective (toZMod : Residue q → ZMod q.toNat) := by
  intro a b h
  refine ext ?_
  rw [← val_toZMod, ← val_toZMod, h]

@[simp] theorem toZMod_inj {a b : Residue q} : a.toZMod = b.toZMod ↔ a = b :=
  toZMod_injective.eq_iff

@[simp] theorem toZMod_zero : (0 : Residue q).toZMod = 0 := by
  rw [toZMod, toNat_zero, Nat.cast_zero]

@[simp] theorem toZMod_one : (1 : Residue q).toZMod = 1 := by
  rw [toZMod, toNat_one, ZMod.natCast_mod, Nat.cast_one]

@[simp] theorem toZMod_ofWord (w : UInt64) : (ofWord w : Residue q).toZMod = w.toNat := by
  rw [toZMod, toNat_ofWord, ZMod.natCast_mod]

@[simp] theorem toZMod_add (a b : Residue q) : (a + b).toZMod = a.toZMod + b.toZMod := by
  rw [toZMod, toNat_add, ZMod.natCast_mod, Nat.cast_add]
  rfl

@[simp] theorem toZMod_mul (a b : Residue q) : (a * b).toZMod = a.toZMod * b.toZMod := by
  rw [toZMod, toNat_mul, ZMod.natCast_mod, Nat.cast_mul]
  rfl

@[simp] theorem toZMod_sub (a b : Residue q) : (a - b).toZMod = a.toZMod - b.toZMod := by
  -- The representative is that of `a + (q - b)`, and the modulus itself is zero.
  rw [toZMod, toNat_sub, ZMod.natCast_mod, Nat.cast_add, Nat.cast_sub b.toNat_lt.le,
    ZMod.natCast_self, zero_sub, sub_eq_add_neg]
  rfl

@[simp] theorem toZMod_neg (a : Residue q) : (-a).toZMod = -a.toZMod := by
  rw [toZMod, toNat_neg, ZMod.natCast_mod, Nat.cast_sub a.toNat_lt.le, ZMod.natCast_self, zero_sub]
  rfl

/-! ## The ring -/

instance : CommRing (Residue q) where
  add_assoc a b c := toZMod_injective (by simp only [toZMod_add, add_assoc])
  zero_add a := toZMod_injective (by simp only [toZMod_add, toZMod_zero, zero_add])
  add_zero a := toZMod_injective (by simp only [toZMod_add, toZMod_zero, add_zero])
  add_comm a b := toZMod_injective (by simp only [toZMod_add, add_comm])
  left_distrib a b c := toZMod_injective (by simp only [toZMod_add, toZMod_mul, mul_add])
  right_distrib a b c := toZMod_injective (by simp only [toZMod_add, toZMod_mul, add_mul])
  zero_mul a := toZMod_injective (by simp only [toZMod_mul, toZMod_zero, zero_mul])
  mul_zero a := toZMod_injective (by simp only [toZMod_mul, toZMod_zero, mul_zero])
  mul_assoc a b c := toZMod_injective (by simp only [toZMod_mul, mul_assoc])
  one_mul a := toZMod_injective (by simp only [toZMod_mul, toZMod_one, one_mul])
  mul_one a := toZMod_injective (by simp only [toZMod_mul, toZMod_one, mul_one])
  mul_comm a b := toZMod_injective (by simp only [toZMod_mul, mul_comm])
  neg_add_cancel a := toZMod_injective (by
    simp only [toZMod_add, toZMod_neg, toZMod_zero, neg_add_cancel])
  sub_eq_add_neg a b := toZMod_injective (by
    simp only [toZMod_add, toZMod_sub, toZMod_neg, sub_eq_add_neg])
  -- No check multiplies by an integer, so these two may be computed in any way.
  nsmul := nsmulRec
  zsmul := zsmulRec

def toZModHom (q : Modulus) : Residue q →+* ZMod q.toNat where
  toFun := toZMod
  map_zero' := toZMod_zero
  map_one' := toZMod_one
  map_add' := toZMod_add
  map_mul' := toZMod_mul

@[simp] theorem toZMod_pow (a : Residue q) (n : ℕ) : (a ^ n).toZMod = a.toZMod ^ n :=
  map_pow (toZModHom q) a n

theorem toNat_pow (a : Residue q) (n : ℕ) : (a ^ n).toNat = a.toNat ^ n % q.toNat := by
  rw [← val_toZMod, toZMod_pow, toZMod, ← Nat.cast_pow, ZMod.val_natCast]

@[simp] theorem toZMod_natCast (n : ℕ) : (n : Residue q).toZMod = n :=
  map_natCast (toZModHom q) n

/-- The residue of a word is its cast: reduction is what a cast does. -/
theorem ofWord_eq_natCast (w : UInt64) : (ofWord w : Residue q) = (w.toNat : Residue q) :=
  toZMod_injective (by rw [toZMod_ofWord, toZMod_natCast])

theorem natCast_eq_zero_iff (n : ℕ) : (n : Residue q) = 0 ↔ q.toNat ∣ n := by
  rw [← toZMod_inj, toZMod_natCast, toZMod_zero, ZMod.natCast_eq_zero_iff]

theorem square_eq_mul_self (a : Residue q) : a.square = a * a := rfl

/-! ## The residues are finitely many -/

theorem toZMod_surjective : Function.Surjective (toZMod : Residue q → ZMod q.toNat) := by
  intro x
  refine ⟨(x.val : Residue q), ?_⟩
  rw [toZMod_natCast, ZMod.natCast_zmod_val]

/-- The residues are the integers modulo the modulus. -/
noncomputable def equivZMod (q : Modulus) : Residue q ≃+* ZMod q.toNat :=
  RingEquiv.ofBijective (toZModHom q) ⟨toZMod_injective, toZMod_surjective⟩

noncomputable instance : Fintype (Residue q) := Fintype.ofEquiv _ (equivZMod q).symm.toEquiv

/-! ## Running sums and products -/

theorem sum_eq_list_sum (terms : List (Residue q)) : Residue.sum terms = terms.sum := by
  rw [Residue.sum, List.sum_eq_foldl]

/-- A running product visits the powers of its ratio in order. -/
theorem progression_eq_map (first ratio : Residue q) (count : ℕ) :
    progression first ratio count = (List.range count).map fun i => first * ratio ^ i := by
  induction count generalizing first with
  | zero => rfl
  | succ count ih =>
    rw [progression, ih, List.range_succ_eq_map, List.map_cons, List.map_map, pow_zero, mul_one]
    refine congrArg (first :: ·) (List.map_congr_left fun i _ => ?_)
    rw [Function.comp_apply, pow_succ', mul_assoc]

@[simp] theorem getElem_progression {first ratio : Residue q} {count i : ℕ}
    (h : i < (progression first ratio count).length) :
    (progression first ratio count)[i] = first * ratio ^ i := by
  simp only [progression_eq_map, List.getElem_map, List.getElem_range]

end OutOfDomain.Residue
