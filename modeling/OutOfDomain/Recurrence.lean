import OutOfDomain.Residue.Power
import OutOfDomain.Trace.Table

/-!
# Recurrences

Three small constraint systems. Each runs one rule from row to row, so that a row determines the
next and the whole trace follows from the first; each pins the trace at its ends by assertions made
from the public inputs. They share everything but the rule: the transition residue of a column is
always what the next row has there, less what the rule says it should have.

The rules are chosen for their degrees. The affine rule and the Fibonacci rule are linear in the
row, so their residues have the degree of the trace polynomials; the cubic rule has three times
that, which is more than a small blowup allows.
-/

set_option autoImplicit false

namespace OutOfDomain

/-! ## Rules -/

/-- How a row determines the next. -/
inductive Rule where
  /-- One cell: five times itself, plus seven. -/
  | affine
  /-- Two cells: the second, and their sum. -/
  | fibonacci
  /-- One cell: its cube, plus eleven. -/
  | cubic
  deriving DecidableEq, Repr

namespace Rule

variable {q : Modulus}

/-- The name that reports use. -/
def id : Rule → String
  | affine => "lfsr-v1"
  | fibonacci => "fibonacci-v1"
  | cubic => "cube-v1"

/-- The number of cells of a row. -/
def width : Rule → Nat
  | affine => 1
  | fibonacci => 2
  | cubic => 1

/-- The degree of the rule in the cells of a row. -/
def degree : Rule → UInt64
  | affine => 1
  | fibonacci => 1
  | cubic => 3

/-- The number of public inputs. The rules of one cell publish where they start and where they
end, the rule of two cells where it ends. -/
def publicInputCount : Rule → Nat
  | affine => 2
  | fibonacci => 1
  | cubic => 2

/-- The number of assertions: one for each public input, and the fixed start of the rule of two
cells. -/
def assertionCount : Rule → Nat
  | affine => 2
  | fibonacci => 3
  | cubic => 2

/-- The row after a row; a row of another width than the rule's stays as it is. -/
def next : Rule → List (Residue q) → List (Residue q)
  | affine, [x] => [.ofWord 5 * x + .ofWord 7]
  | fibonacci, [a, b] => [b, a + b]
  | cubic, [x] => [x.powFixed 3 + .ofWord 11]
  | _, row => row

/-- The first row of a run. The rule of two cells always starts the same. -/
def start (seed : Residue q) : Rule → List (Residue q)
  | affine => [seed]
  | fibonacci => [1, 1]
  | cubic => [seed]

/-- A row and the rows that follow it, as many as there should be in all. -/
def run (rule : Rule) (row : List (Residue q)) : (count : Nat) → List (List (Residue q))
  | 0 => []
  | count + 1 => row :: run rule (rule.next row) count

end Rule

/-! ## Recurrences of a given length -/

/-- A rule and the number of rows that it runs for. -/
structure Recurrence where
  rule : Rule
  length : UInt64
  two_le_length : 2 ≤ length.toNat
  isPowerOfTwo_length : length.toNat.isPowerOfTwo
  deriving DecidableEq

namespace Recurrence

variable {q : Modulus}

/-- The recurrence of a rule over a number of rows. -/
def ofLength (rule : Rule) (length : UInt64) : Except ConstraintError Recurrence :=
  if h2 : 2 ≤ length.toNat then
    if hp : length.toNat.isPowerOfTwo then .ok ⟨rule, length, h2, hp⟩
    else .error (.layoutViolation .lengthNotPowerOfTwo)
  else .error (.layoutViolation .tooFewRows)

/-- The last row. -/
def lastRow (r : Recurrence) : UInt64 := r.length - 1

/-- The trace that the rule runs through from a seed. -/
def trace (r : Recurrence) (seed : Residue q) : Except ConstraintError (TraceTable q) :=
  TraceTable.ofRows (r.rule.run (r.rule.start seed) r.length.toNat)

/-- The public inputs that a trace gives rise to. -/
def publicInputs (r : Recurrence) (t : TraceTable q) : Except ConstraintError (List (Residue q)) :=
  match r.rule with
  | .affine => do
    let cells ← t.column 0
    match cells.head?, cells[r.lastRow.toNat]? with
    | some first, some last => return [first, last]
    | _, _ => throw (.schemaMismatch .traceRows r.length.toNat cells.length)
  | .cubic => do
    let first ← t.row 0
    let last ← t.row r.lastRow.toNat
    return first.take 1 ++ last.take 1
  | .fibonacci => do
    let last ← t.row r.lastRow.toNat
    match last[1]? with
    | some result => return [result]
    | none => throw (.schemaMismatch .traceColumn t.width 1)

/-- The assertions that public inputs imply. -/
def assertions (r : Recurrence) (publicInputs : List (Residue q)) :
    Except ConstraintError (List (Assertion q)) :=
  match r.rule, publicInputs with
  | .affine, [first, last] | .cubic, [first, last] =>
    .ok [⟨0, 0, first⟩, ⟨0, r.lastRow, last⟩]
  | .fibonacci, [result] => .ok [⟨0, 0, 1⟩, ⟨1, 0, 1⟩, ⟨1, r.lastRow, result⟩]
  | rule, given => .error (.schemaMismatch .publicInputs rule.publicInputCount given.length)

/-- The transition residues on a frame, and their degree: that of the rule, times the degree of a
trace polynomial. -/
def transitions (r : Recurrence) (f : Frame q) : Except ConstraintError (TransitionEvaluation q) :=
  if f.width ≠ r.rule.width then
    .error (.schemaMismatch .frameWidth r.rule.width f.width)
  else
    TransitionEvaluation.ofParts (List.zipWith (· - ·) f.next (r.rule.next f.current))
      (List.replicate r.rule.width (r.rule.degree * r.lastRow))

/-- The residues of the assertions that public inputs imply. -/
def boundaries (r : Recurrence) (f : Frame q) (publicInputs : List (Residue q)) :
    Except ConstraintError (BoundaryEvaluation q) := do
  Assertion.evaluateAll (← r.assertions publicInputs) f

/-- The recurrence as a constraint system. -/
def system (q : Modulus) (r : Recurrence) : ConstraintSystem q where
  id := r.rule.id
  layout :=
    { traceWidth := r.rule.width.toUInt64
      traceLength := r.length
      assertionCount := r.rule.assertionCount.toUInt64
      publicInputCount := r.rule.publicInputCount.toUInt64 }
  transitions := r.transitions
  boundaries f publicInputs _ _ := r.boundaries f publicInputs

end Recurrence

end OutOfDomain
