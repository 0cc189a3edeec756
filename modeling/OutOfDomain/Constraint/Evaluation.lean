import OutOfDomain.Constraint.Error
import OutOfDomain.Residue.Basic

/-!
# Evaluated constraints

A constraint is a polynomial relation between a row of the trace and the next, or between a cell
and a value. What the check works with are not the relations but their *residues* at one point, and
what it needs to know about each: the degree of the residue as a polynomial, and for an assertion
the row it is pinned to.

A `Frame` is the pair of rows that residues are computed from. Both rows have the same width and at
least one cell, by construction. The evaluations carry no such promise: they are also read from
documents, and the check compares every length with its parameters anyway.
-/

set_option autoImplicit false

namespace OutOfDomain

variable {q : Modulus}

/-! ## Frames -/

/-- A row of the trace polynomials and the row after it, at a point that need not lie in the trace
domain. -/
structure Frame (q : Modulus) where
  current : List (Residue q)
  next : List (Residue q)
  current_ne_nil : current ≠ []
  length_next : next.length = current.length
  deriving DecidableEq

/-- The frame of two rows, if they have the same non-zero width. -/
def Frame.ofRows (current next : List (Residue q)) : Except ConstraintError (Frame q) :=
  if hc : current = [] then .error (.schemaMismatch .frameWidth 1 0)
  else if hn : next.length = current.length then .ok ⟨current, next, hc, hn⟩
  else .error (.schemaMismatch .frameNextWidth current.length next.length)

/-- The number of columns. -/
def Frame.width (f : Frame q) : Nat := f.current.length

/-! ## Weights -/

/-- The pair of random coefficients that weighs one constraint: one for its residue as it is, one
for the residue raised to the highest degree. -/
structure Weight (q : Modulus) where
  /-- The coefficient of the bare residue. -/
  c0 : Residue q
  /-- The coefficient of the adjusted residue. -/
  c1 : Residue q
  deriving DecidableEq

/-- The factor that a residue is multiplied with, given the power that adjusts its degree. -/
def Weight.at (w : Weight q) (adjustment : Residue q) : Residue q := w.c0 + w.c1 * adjustment

/-! ## Residues -/

/-- The residue of each column's transition constraint and its degree as a polynomial. -/
structure TransitionEvaluation (q : Modulus) where
  residues : List (Residue q)
  degrees : List UInt64
  deriving DecidableEq

/-- The evaluation that pairs residues with degrees, if there are as many of the one as of the
other. -/
def TransitionEvaluation.ofParts (residues : List (Residue q)) (degrees : List UInt64) :
    Except ConstraintError (TransitionEvaluation q) :=
  if residues.length = degrees.length then .ok ⟨residues, degrees⟩
  else .error (.schemaMismatch .transitionDegrees residues.length degrees.length)

/-- The residue of one assertion, and the divisor that belongs to it. -/
structure AssertionEvaluation (q : Modulus) where
  residue : Residue q
  divisorDegree : UInt64
  step : UInt64
  deriving DecidableEq

/-- The evaluated assertions, in the order in which they were made. -/
structure BoundaryEvaluation (q : Modulus) where
  assertions : List (AssertionEvaluation q)
  deriving DecidableEq

/-- The evaluation that is given as three lists, if they have one length. -/
def BoundaryEvaluation.ofParts (residues : List (Residue q)) (divisorDegrees steps : List UInt64) :
    Except ConstraintError (BoundaryEvaluation q) :=
  if divisorDegrees.length ≠ residues.length then
    .error (.schemaMismatch .boundaryDivisorDegrees residues.length divisorDegrees.length)
  else if steps.length ≠ residues.length then
    .error (.schemaMismatch .boundarySteps residues.length steps.length)
  else .ok ⟨(residues.zip (divisorDegrees.zip steps)).map fun (r, d, s) => ⟨r, d, s⟩⟩

/-! ## Assertions -/

/-- A cell of the trace holds a value. -/
structure Assertion (q : Modulus) where
  column : UInt64
  step : UInt64
  value : Residue q
  deriving DecidableEq

/-- What the current row of a frame has in the asserted column, less the asserted value. -/
def Assertion.residue (a : Assertion q) (f : Frame q) : Except ConstraintError (Residue q) :=
  match f.current[a.column.toNat]? with
  | some cell => .ok (cell - a.value)
  | none => .error (.schemaMismatch .assertionColumn f.width a.column.toNat)

/-- The degree of the divisor of an assertion about a single row. -/
def singlePoleDegree : UInt64 := 1

/-- Evaluate assertions about single rows on a frame, up to the first that names no column. -/
def Assertion.evaluateAll (assertions : List (Assertion q)) (f : Frame q) :
    Except ConstraintError (BoundaryEvaluation q) := do
  let evaluated ← assertions.mapM fun a => do
    return ⟨← a.residue f, singlePoleDegree, a.step⟩
  return ⟨evaluated⟩

end OutOfDomain
