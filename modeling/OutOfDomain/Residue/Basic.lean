/-!
# Residues modulo a 64-bit word

Every value the check works with is a residue modulo one fixed word. A residue is *stored* as its
canonical representative, a word below the modulus, so equality of residues is equality of words,
and the number that is printed or written to a file is the number that is stored.

A sum of two representatives may not fit a word, and a product needs up to two. Both are formed in a
double word, which has room for either, and reduced there; a difference is formed in a word, from the
larger term. The lemmas `toNat_add`, `toNat_sub`, `toNat_neg` and `toNat_mul` say that nothing is lost
on the way: each operation returns the representative of the integer operation. Nothing here asks the
modulus to be prime. For a composite modulus the residues are a ring like any other, and only division
suffers (see `Residue.inverse?`).
-/

set_option autoImplicit false

namespace OutOfDomain

/-! ## The modulus -/

/-- A non-zero modulus, together with the word that is meant to generate the units. Whether it
does generate them is not checked: that is a property of the numbers, not of the type. -/
structure Modulus where
  word : UInt64
  /-- A representative of the generator, reduced on use. -/
  generator : UInt64
  pos : 0 < word.toNat

/-- The modulus as a number. -/
def Modulus.toNat (q : Modulus) : Nat := q.word.toNat

/-! ## Words and double words -/

/-- A difference of words does not wrap where it is taken from the larger one. -/
theorem toNat_word_sub {v w : UInt64} (h : w.toNat ≤ v.toNat) : (v - w).toNat = v.toNat - w.toNat :=
  UInt64.toNat_sub_of_le _ _ (UInt64.le_iff_toNat_le.2 h)

/-- A word in a double word. -/
def wide (w : UInt64) : BitVec 128 := w.toBitVec.setWidth 128

@[simp] theorem toNat_wide (w : UInt64) : (wide w).toNat = w.toNat :=
  BitVec.toNat_setWidth_of_le (by decide)

/-- The sum of two words fits a double word. -/
theorem toNat_wide_add (v w : UInt64) : (wide v + wide w).toNat = v.toNat + w.toNat := by
  have hv := v.toNat_lt
  have hw := w.toNat_lt
  rw [BitVec.toNat_add, toNat_wide, toNat_wide, Nat.mod_eq_of_lt (by omega)]

/-- The product of two words fits a double word. -/
theorem toNat_wide_mul (v w : UInt64) : (wide v * wide w).toNat = v.toNat * w.toNat := by
  have hlt := Nat.mul_lt_mul'' v.toNat_lt w.toNat_lt
  rw [← Nat.pow_add] at hlt
  rw [BitVec.toNat_mul, toNat_wide, toNat_wide]
  exact Nat.mod_eq_of_lt hlt

/-- A remainder by a word fits a word, so that its low half is all of it. -/
theorem toNat_setWidth_mod_wide (q : Modulus) (x : BitVec 128) :
    ((x % wide q.word).setWidth 64).toNat = x.toNat % q.toNat := by
  rw [BitVec.toNat_setWidth, BitVec.toNat_umod, toNat_wide]
  exact Nat.mod_eq_of_lt (Nat.lt_trans (Nat.mod_lt _ q.pos) q.word.toNat_lt)

/-- A residue modulo `q`, as the word below the modulus that represents it. -/
structure Residue (q : Modulus) where
  word : UInt64
  lt : word.toNat < q.toNat
  deriving DecidableEq

namespace Residue

variable {q : Modulus}

/-! ## Representatives -/

/-- The canonical representative as a number. -/
def toNat (a : Residue q) : Nat := a.word.toNat

theorem toNat_lt (a : Residue q) : a.toNat < q.toNat := a.lt

/-- Residues are equal when their representatives are. -/
theorem ext {a b : Residue q} (h : a.toNat = b.toNat) : a = b := by
  cases a; cases b
  simp only [toNat, UInt64.toNat_inj] at h
  subst h; rfl

/-- The residue of a word. -/
def ofWord (w : UInt64) : Residue q :=
  ⟨w % q.word, by rw [UInt64.toNat_mod]; exact Nat.mod_lt _ q.pos⟩

@[simp] theorem toNat_ofWord (w : UInt64) : (ofWord w : Residue q).toNat = w.toNat % q.toNat :=
  UInt64.toNat_mod ..

/-- The residue of a double word. -/
def ofWide (x : BitVec 128) : Residue q :=
  ⟨.ofBitVec ((x % wide q.word).setWidth 64), by
    rw [UInt64.toNat_ofBitVec, toNat_setWidth_mod_wide]
    exact Nat.mod_lt _ q.pos⟩

@[simp] theorem toNat_ofWide (x : BitVec 128) : (ofWide x : Residue q).toNat = x.toNat % q.toNat :=
  toNat_setWidth_mod_wide q x

/-- The residue that a word represents canonically; nothing for a word that would have to be
reduced. -/
def ofCanonical? (w : UInt64) : Option (Residue q) :=
  if h : w.toNat < q.toNat then some ⟨w, h⟩ else none

theorem ofCanonical?_eq_some_iff {w : UInt64} {a : Residue q} :
    ofCanonical? w = some a ↔ a.word = w := by
  unfold ofCanonical?
  split
  · rw [Option.some.injEq]
    exact ⟨fun h => h ▸ rfl, fun h => by cases a; cases h; rfl⟩
  · refine ⟨nofun, fun h => ?_⟩
    subst h
    exact absurd a.lt ‹_›

theorem ofCanonical?_word (a : Residue q) : ofCanonical? a.word = some a :=
  ofCanonical?_eq_some_iff.2 rfl

instance : Zero (Residue q) := ⟨⟨0, q.pos⟩⟩

/-- One is reduced like any other word: modulo one, it is zero. -/
instance : One (Residue q) := ⟨ofWord 1⟩

instance : Inhabited (Residue q) := ⟨0⟩

@[simp] theorem toNat_zero : (0 : Residue q).toNat = 0 := rfl

@[simp] theorem toNat_one : (1 : Residue q).toNat = 1 % q.toNat := toNat_ofWord 1

/-- The generator of the units, reduced. -/
def generator : Residue q := ofWord q.generator

/-! ## Arithmetic -/

/-- The sum of the representatives, reduced. -/
protected def add (a b : Residue q) : Residue q := ofWide (wide a.word + wide b.word)

/-- The product of the representatives, reduced. -/
protected def mul (a b : Residue q) : Residue q := ofWide (wide a.word * wide b.word)

/-- The difference of the representatives, plus the modulus where that would be negative. -/
protected def sub (a b : Residue q) : Residue q :=
  if h : b.word ≤ a.word then
    ⟨a.word - b.word, by
      have := a.lt
      rw [UInt64.toNat_sub_of_le _ _ h]
      omega⟩
  else
    ⟨q.word - (b.word - a.word), by
      have ha := a.lt
      have hb := b.lt
      unfold Modulus.toNat at ha hb ⊢
      rw [UInt64.le_iff_toNat_le] at h
      have hd : (b.word - a.word).toNat = b.word.toNat - a.word.toNat :=
        UInt64.toNat_sub_of_le _ _ (UInt64.le_iff_toNat_le.2 (by omega))
      rw [UInt64.toNat_sub_of_le _ _ (UInt64.le_iff_toNat_le.2 (by omega)), hd]
      omega⟩

/-- Zero is its own negative; any other residue is taken from the modulus. -/
protected def neg (a : Residue q) : Residue q :=
  if h : a.word = 0 then a
  else
    ⟨q.word - a.word, by
      have ha := a.lt
      unfold Modulus.toNat at ha ⊢
      have hz : a.word.toNat ≠ 0 := fun e => h (UInt64.toNat_inj.1 e)
      rw [UInt64.toNat_sub_of_le _ _ (UInt64.le_iff_toNat_le.2 (by omega))]
      omega⟩

instance : Add (Residue q) := ⟨Residue.add⟩
instance : Mul (Residue q) := ⟨Residue.mul⟩
instance : Sub (Residue q) := ⟨Residue.sub⟩
instance : Neg (Residue q) := ⟨Residue.neg⟩

theorem toNat_add (a b : Residue q) : (a + b).toNat = (a.toNat + b.toNat) % q.toNat := by
  change (ofWide _ : Residue q).toNat = _
  rw [toNat_ofWide, toNat_wide_add]
  rfl

theorem toNat_mul (a b : Residue q) : (a * b).toNat = a.toNat * b.toNat % q.toNat := by
  change (ofWide _ : Residue q).toNat = _
  rw [toNat_ofWide, toNat_wide_mul]
  rfl

theorem toNat_difference {a b : Residue q} (h : b.word ≤ a.word) :
    (a.word - b.word).toNat = a.toNat - b.toNat :=
  toNat_word_sub (UInt64.le_iff_toNat_le.1 h)

theorem toNat_lt_of_not_le {a b : Residue q} (h : ¬ b.word ≤ a.word) : a.toNat < b.toNat :=
  Nat.lt_of_not_le (mt UInt64.le_iff_toNat_le.2 h)

/-- What the smaller term lacks, where a difference is negative. -/
theorem toNat_shortfall {a b : Residue q} (h : ¬ b.word ≤ a.word) :
    (b.word - a.word).toNat = b.toNat - a.toNat :=
  toNat_word_sub (Nat.le_of_lt (toNat_lt_of_not_le h))

/-- What is left of the modulus then. -/
theorem toNat_complement {a b : Residue q} (h : ¬ b.word ≤ a.word) :
    (q.word - (b.word - a.word)).toNat = q.toNat - (b.toNat - a.toNat) := by
  have hb : b.toNat < q.word.toNat := b.toNat_lt
  have hshortfall := toNat_shortfall h
  rw [toNat_word_sub (by omega), hshortfall]
  rfl

theorem toNat_sub (a b : Residue q) :
    (a - b).toNat = (a.toNat + (q.toNat - b.toNat)) % q.toNat := by
  have ha := a.toNat_lt
  have hb := b.toNat_lt
  change (Residue.sub a b).toNat = _
  unfold Residue.sub
  split
  · rename_i h
    have hle : b.toNat ≤ a.toNat := UInt64.le_iff_toNat_le.1 h
    refine (toNat_difference h).trans ?_
    rw [show a.toNat + (q.toNat - b.toNat) = a.toNat - b.toNat + q.toNat by omega,
      Nat.add_mod_right, Nat.mod_eq_of_lt (by omega)]
  · rename_i h
    have hlt := toNat_lt_of_not_le h
    refine (toNat_complement h).trans ?_
    rw [Nat.mod_eq_of_lt (by omega)]
    omega

theorem toNat_neg (a : Residue q) : (-a).toNat = (q.toNat - a.toNat) % q.toNat := by
  have ha := a.toNat_lt
  change (Residue.neg a).toNat = _
  unfold Residue.neg
  split
  · rename_i h
    have hz : a.toNat = 0 := by rw [toNat, h]; rfl
    rw [hz, Nat.sub_zero, Nat.mod_self]
  · rename_i h
    have hz : a.toNat ≠ 0 := fun e => h (UInt64.toNat_inj.1 e)
    have hword : (q.word - a.word).toNat = q.toNat - a.toNat := toNat_word_sub (Nat.le_of_lt ha)
    refine hword.trans ?_
    rw [Nat.mod_eq_of_lt (by omega)]

/-- The square of a residue. -/
def square (a : Residue q) : Residue q := a * a

end Residue

end OutOfDomain
