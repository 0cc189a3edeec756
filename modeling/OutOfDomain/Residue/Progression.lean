import OutOfDomain.Residue.Power

/-!
# Geometric progressions

A coset of a subgroup of the units, walked in order: first `a`, then `a r`, `a r²` and so on. Trace
domains, composition domains and the twiddle factors of a transform are all of this form, and each
is computed by one running product.
-/

set_option autoImplicit false

namespace OutOfDomain.Residue

variable {q : Modulus}

/-- The first `count` terms of the progression that starts with `first` and grows by `ratio`. -/
def progression (first ratio : Residue q) : (count : Nat) → List (Residue q)
  | 0 => []
  | count + 1 => first :: progression (first * ratio) ratio count

@[simp] theorem length_progression (first ratio : Residue q) (count : Nat) :
    (progression first ratio count).length = count := by
  induction count generalizing first with
  | zero => rfl
  | succ count ih => simp [progression, ih]

/-- Compute something at every term in turn, up to the first that fails. No term after that is
computed, however many there would be. -/
def mapProgression {ε α : Type} (f : Residue q → Except ε α) (first ratio : Residue q) :
    (count : Nat) → Except ε (List α)
  | 0 => .ok []
  | count + 1 =>
    match f first with
    | .error e => .error e
    | .ok a => (mapProgression f (first * ratio) ratio count).map (a :: ·)

/-- The sum of a list, the first term first. -/
def sum (terms : List (Residue q)) : Residue q := terms.foldl (· + ·) 0

end OutOfDomain.Residue
