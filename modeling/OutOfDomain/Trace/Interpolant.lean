import OutOfDomain.DensePoly.Coset
import OutOfDomain.Trace.Table

/-!
# Trace polynomials

Row `i` of a trace is thought of as its value at `gⁱ`, where `g` generates the subgroup of units
with as many elements as the trace has rows. Each column is then a polynomial, and a frame exists
at *every* point: the columns at `x` and, one step further, at `x g`. On the trace domain these are
the frames of the trace; off it they are what a check is about.
-/

set_option autoImplicit false

namespace OutOfDomain

variable {q : Modulus}

/-- The polynomials of a trace, one for each column, and the generator of its domain. -/
structure TraceInterpolant (q : Modulus) where
  columns : List (DensePoly q)
  generator : Residue q
  deriving DecidableEq

/-- Interpolate every column over the trace domain. -/
def TraceTable.interpolate (t : TraceTable q) : Except ConstraintError (TraceInterpolant q) :=
  match Residue.rootOfUnity? t.length.toUInt64 with
  | none => .error (.domainUnsupported t.length)
  | some g =>
    match t.columns.mapM fun c => DensePoly.interpolateCoset? c 1 g with
    | none => .error (.layoutViolation .domainNotInvertible)
    | some columns => .ok ⟨columns, g⟩

/-- The frame at a point: the columns there and at the point one step further. -/
def TraceInterpolant.frameAt (t : TraceInterpolant q) (x : Residue q) :
    Except ConstraintError (Frame q) :=
  let ahead := x * t.generator
  Frame.ofRows (t.columns.map (·.evaluate x)) (t.columns.map (·.evaluate ahead))

end OutOfDomain
