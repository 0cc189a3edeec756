import OutOfDomain.Constraint.System

/-!
# Execution traces

A trace is a rectangle of residues, stored by columns because each column becomes a polynomial. It
has a column, at least two rows, and a power of two of them: that is part of the type, and
`TraceTable.ofColumns` is where it is checked. A trace given by rows is turned on its side first.

Rows are what constraints are about. The frame of a row pairs it with the next, and the next row
after the last is the first; that one frame is exempt from the transition constraints.
-/

set_option autoImplicit false

namespace OutOfDomain

variable {q : Modulus}

/-- A rectangle of residues, by columns. -/
structure TraceTable (q : Modulus) where
  columns : List (List (Residue q))
  length : Nat
  columns_ne_nil : columns ≠ []
  length_column : ∀ c ∈ columns, c.length = length
  two_le_length : 2 ≤ length
  isPowerOfTwo_length : length.isPowerOfTwo
  deriving DecidableEq

namespace TraceTable

/-! ## From columns and from rows -/

/-- The trace with the given columns. A column of another length than the first is reported after
the faults of the first. -/
def ofColumns : List (List (Residue q)) → Except ConstraintError (TraceTable q)
  | [] => .error (.schemaMismatch .traceColumns 1 0)
  | first :: rest =>
    if h2 : first.length < 2 then .error (.schemaMismatch .traceRows 2 first.length)
    else if hp : first.length.isPowerOfTwo then
      match hr : rest.find? fun c => c.length != first.length with
      | some ragged => .error (.schemaMismatch .traceRows first.length ragged.length)
      | none => .ok {
          columns := first :: rest
          length := first.length
          columns_ne_nil := List.cons_ne_nil _ _
          length_column := by
            intro c hc
            rcases List.mem_cons.1 hc with rfl | hc
            · rfl
            · simpa using List.find?_eq_none.1 hr c hc
          two_le_length := Nat.le_of_not_lt h2
          isPowerOfTwo_length := hp }
    else .error (.layoutViolation .rowsNotPowerOfTwo)

/-- Put a row on top of the columns. -/
def consRow (row : List (Residue q)) (columns : List (List (Residue q))) :
    List (List (Residue q)) :=
  List.zipWith List.cons row columns

/-- The trace with the given rows. A row of another width than the first is reported before
anything else. -/
def ofRows (rows : List (List (Residue q))) : Except ConstraintError (TraceTable q) :=
  let width := (rows.head?.map List.length).getD 0
  match rows.find? fun r => r.length != width with
  | some ragged => .error (.schemaMismatch .traceColumns width ragged.length)
  | none => ofColumns (rows.foldr consRow (List.replicate width []))

/-! ## Columns, rows and frames -/

/-- The number of columns. -/
def width (t : TraceTable q) : Nat := t.columns.length

/-- A column. -/
def column (t : TraceTable q) (i : Nat) : Except ConstraintError (List (Residue q)) :=
  match t.columns[i]? with
  | some c => .ok c
  | none => .error (.schemaMismatch .traceColumn t.width i)

/-- A row. Every column has as many cells as the trace has rows, so either all columns have a cell
there or none has. -/
def row (t : TraceTable q) (i : Nat) : Except ConstraintError (List (Residue q)) :=
  match t.columns.mapM fun column => column[i]? with
  | some cells => .ok cells
  | none => .error (.schemaMismatch .traceRow t.length i)

/-- A row and the next; after the last row comes the first. -/
def frame (t : TraceTable q) (i : Nat) : Except ConstraintError (Frame q) := do
  let current ← t.row i
  let next ← t.row ((i + 1) % t.length)
  Frame.ofRows current next

/-! ## Checking constraints row by row -/

/-- Check the transition constraints from every row but the last to the next. -/
def checkTransitions (t : TraceTable q)
    (evaluate : Frame q → Except ConstraintError (TransitionEvaluation q)) :
    Except ConstraintError Unit :=
  (List.range (t.length - 1)).forM fun step => do
    let evaluation ← evaluate (← t.frame step)
    match evaluation.residues.findIdx? (· != 0) with
    | some column => throw (.invalidTransition column step)
    | none => return ()

/-- Check assertions against the cells that they are about. -/
def checkAssertions (t : TraceTable q) (assertions : List (Assertion q)) :
    Except ConstraintError Unit :=
  assertions.forM fun a => do
    let column ← t.column a.column.toNat
    match column[a.step.toNat]? with
    | none => throw (.schemaMismatch .assertionStep t.length a.step.toNat)
    | some cell =>
      if cell = a.value then return ()
      else throw (.boundaryViolation a.column.toNat a.step.toNat)

end TraceTable

end OutOfDomain
