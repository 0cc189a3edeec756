import Mathlib.Data.Nat.Digits.Defs
import OutOfDomain.Parameters.Digest

/-!
# What a digest binds

A digest is the hash of a list of bytes, and nothing here opens the hash. What can be said without it is
that the bytes are those of one parameter set only (`Parameters.preimage_inj`), and that is a matter of
cutting them up again: the tag is the same for all, every word takes eight bytes, and eight bytes are
one word. So two parameter sets that share a digest either are the same or have shown two messages that
the hash does not tell apart (`digest_binds`).
-/

set_option autoImplicit false

namespace OutOfDomain

/-! ## Words in bytes -/

@[simp] theorem length_littleEndian (count n : ℕ) : (littleEndian count n).length = count := by
  induction count generalizing n with
  | zero => rfl
  | succ count ih => simp [littleEndian, ih]

/-- The bytes of a number are its lowest digits to the base 256. -/
theorem ofDigits_littleEndian (count n : ℕ) :
    Nat.ofDigits 256 ((littleEndian count n).map UInt8.toNat) = n % 256 ^ count := by
  induction count generalizing n with
  | zero => simp [littleEndian, Nat.mod_one]
  | succ count ih =>
    have hlow : n.toUInt8.toNat = n % 256 := UInt8.toNat_ofNat'
    rw [littleEndian, List.map_cons, Nat.ofDigits_cons, ih, hlow, pow_succ', Nat.mod_mul]

/-- Eight bytes have room for every word. -/
theorem littleEndian_word_injective :
    Function.Injective fun w : UInt64 => littleEndian 8 w.toNat := by
  intro w w' h
  have hdigits := congrArg (fun bytes => Nat.ofDigits 256 (bytes.map UInt8.toNat)) h
  have hw : w.toNat < 256 ^ 8 := w.toNat_lt
  have hw' : w'.toNat < 256 ^ 8 := w'.toNat_lt
  simp only [ofDigits_littleEndian, Nat.mod_eq_of_lt hw, Nat.mod_eq_of_lt hw'] at hdigits
  exact UInt64.toNat_inj.1 hdigits

/-- Pieces of one size can be cut apart again, however many they are. -/
theorem flatMap_injective {α β : Type} {f : α → List β} {size : ℕ} (hpos : 0 < size)
    (hsize : ∀ a, (f a).length = size) (hf : Function.Injective f) :
    Function.Injective (List.flatMap f) := by
  have hne : ∀ a rest, f a ++ rest ≠ [] := by
    intro a rest h
    have hlength := hsize a
    rw [(List.append_eq_nil_iff.1 h).1] at hlength
    exact hpos.ne hlength
  intro l
  induction l with
  | nil =>
    intro l' h
    cases l' with
    | nil => rfl
    | cons a' l' => exact absurd h.symm (hne a' _)
  | cons a l ih =>
    intro l' h
    cases l' with
    | nil => exact absurd h (hne a _)
    | cons a' l' =>
      simp only [List.flatMap_cons] at h
      obtain ⟨hhead, htail⟩ := List.append_inj h (by simp [hsize])
      rw [hf hhead, ih htail]

/-! ## Parameters in bytes -/

/-- Two messages that the hash does not tell apart. -/
structure Blake3.Collides (message message' : List UInt8) : Prop where
  ne : message ≠ message'
  hash_eq : hash message = hash message'

namespace Parameters

variable {p p' : Parameters}

/-- No two parameter sets share their bytes. -/
theorem preimage_inj : p.preimage = p'.preimage ↔ p = p' := by
  constructor
  · intro h
    have hwords := flatMap_injective (by decide) (fun _ => length_littleEndian _ _)
      littleEndian_word_injective (List.append_cancel_left h)
    obtain ⟨⟨length, width, assertions, blowup, publicInputs⟩, _⟩ := p
    obtain ⟨⟨length', width', assertions', blowup', publicInputs'⟩, _⟩ := p'
    simp only [List.cons.injEq, and_true] at hwords
    obtain ⟨rfl, rfl, rfl, rfl, rfl⟩ := hwords
    rfl
  · intro h
    rw [h]

end Parameters

/-- **A digest binds all parameters.** The bytes that are hashed for two parameter sets are the same
exactly if the parameter sets are, in all five words; so their digests are the same exactly if the
parameter sets are or their bytes are a collision of the hash. -/
theorem digest_binds (p p' : Parameters) :
    (p.preimage = p'.preimage ↔ p = p') ∧
      (p.digest = p'.digest ↔ p = p' ∨ Blake3.Collides p.preimage p'.preimage) := by
  refine ⟨Parameters.preimage_inj, ?_⟩
  constructor
  · intro h
    by_cases hp : p = p'
    · exact .inl hp
    · exact .inr ⟨fun hbytes => hp (Parameters.preimage_inj.1 hbytes), h⟩
  · intro h
    rcases h with hp | hcollision
    · rw [hp]
    · exact hcollision.hash_eq

end OutOfDomain
