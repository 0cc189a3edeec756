import OutOfDomain.Residue.Progression

/-!
# Polynomials by their coefficients

A polynomial is the list of its coefficients, the constant term first. Trailing zeros are *kept*:
an interpolation over `n` points has `n` coefficients whatever its degree, and the split into
columns deals out exactly the coefficients that are there. Equality is therefore equality of
lists, and the degree is computed, not read off the length.
-/

set_option autoImplicit false

namespace OutOfDomain

/-- A polynomial as its coefficients in ascending order. -/
structure DensePoly (q : Modulus) where
  /-- The coefficients, the constant term first. -/
  coefficients : List (Residue q)
  deriving DecidableEq

namespace DensePoly

variable {q : Modulus}

/-- The value at a point, by Horner's rule. -/
def evaluate (p : DensePoly q) (x : Residue q) : Residue q :=
  p.coefficients.foldr (fun c rest => rest * x + c) 0

/-- The place of the last non-zero entry. -/
private def lastNonZero? : List (Residue q) → Option Nat
  | [] => none
  | c :: rest =>
    match lastNonZero? rest with
    | some d => some (d + 1)
    | none => if c = 0 then none else some 0

/-- The degree; the zero polynomial has none. -/
def degree? (p : DensePoly q) : Option Nat := lastNonZero? p.coefficients

/-! ## Columns

A polynomial of width `w` is dealt out like cards: column `i` takes the coefficients at `i`,
`i + w`, `i + 2 w` and so on, so that `p x` is the sum of `xⁱ` times column `i` at `x ^ w`. -/

/-- Every entry that comes `wait` places from the start and every `gap + 1` places after that. -/
def everyNth {α : Type} (gap : Nat) : (wait : Nat) → List α → List α
  | _, [] => []
  | 0, a :: rest => a :: everyNth gap gap rest
  | wait + 1, _ :: rest => everyNth gap wait rest

/-- The columns of a polynomial. There is at least one, so a width of zero acts as one. -/
def splitColumns (p : DensePoly q) (width : Nat) : List (DensePoly q) :=
  let width := max width 1
  (List.range width).map fun i => ⟨everyNth (width - 1) i p.coefficients⟩

end DensePoly

end OutOfDomain
