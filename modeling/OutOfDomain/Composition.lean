import OutOfDomain.Check.Verifier
import OutOfDomain.Trace.Interpolant

/-!
# Composing the constraints

The other side of a check. The prover folds the constraints at every point of a coset that is as
large as the highest degree requires and that, in general, meets the trace domain nowhere. The
polynomial through the values is the composition polynomial; dealt out into as many columns as the
trace has, it is what the channel opens.

Composing uses the verifier's own `Verifier.accumulate`, so that both sides compute the same thing
at the points of the coset by construction. That they also agree everywhere else is what the degrees
are for.
-/

set_option autoImplicit false

namespace OutOfDomain

variable {q : Modulus}

/-- Why constraints cannot be composed. -/
inductive CompositionError where
  /-- The units have no subgroup of this order, or it cannot be interpolated over. -/
  | domainUnsupported (size : Nat)
  /-- The trace does not fit, or the constraints could not be evaluated. -/
  | constraint (e : ConstraintError)
  | check (e : CheckError)
  deriving DecidableEq, Repr

/-- The text that reports a failed composition. -/
def CompositionError.message : CompositionError → String
  | domainUnsupported size => s!"no composition domain of size {size} in the field"
  | constraint e => s!"composition air failure: {e.message}"
  | check e => s!"composition accumulation failure: {e.message}"

/-- A composition polynomial and its columns. -/
structure Composition (q : Modulus) where
  polynomial : DensePoly q
  columns : List (DensePoly q)
  deriving DecidableEq

namespace Composition

/-- The value at a point. -/
def evaluate (c : Composition q) (z : Residue q) : Residue q := c.polynomial.evaluate z

/-- What the channel carries for a point: the columns at the power of the point that they were
dealt out for. -/
def channel (c : Composition q) (z : Residue q) : List (Residue q) :=
  let shifted := z.pow c.columns.length.toUInt64
  c.columns.map (·.evaluate shifted)

/-- The value of the constraints at one point, from the trace polynomials. -/
def valueAt (p : Parameters) (system : ConstraintSystem q) (trace : TraceInterpolant q)
    (publicInputs : List (Residue q)) (transitionWeights boundaryWeights : List (Weight q))
    (x : Residue q) : Except CompositionError (Residue q) := do
  let frame ← (trace.frameAt x).mapError .constraint
  let transition ← (system.transitions frame).mapError .constraint
  let boundary ←
    (system.boundaries frame publicInputs trace.generator x).mapError .constraint
  let folded ← (Verifier.accumulate { parameters := p } x trace.generator
    transitionWeights boundaryWeights transition boundary).mapError .check
  return folded.finalValue

/-- Compose the constraints of a system over a trace. -/
def compose (p : Parameters) (system : ConstraintSystem q) (trace : TraceTable q)
    (publicInputs : List (Residue q)) (transitionWeights boundaryWeights : List (Weight q)) :
    Except CompositionError (Composition q) := do
  let width := p.traceWidth.toNat
  if trace.width ≠ width then
    throw (.constraint (.schemaMismatch .traceColumns width trace.width))
  if trace.length ≠ p.traceLength.toNat then
    throw (.constraint (.schemaMismatch .traceRows p.traceLength.toNat trace.length))
  let interpolant ← trace.interpolate.mapError .constraint
  let size := p.compositionDomainSize
  match Residue.rootOfUnity? size with
  | none => throw (.domainUnsupported size.toNat)
  | some root =>
    let values ← Residue.mapProgression
      (valueAt p system interpolant publicInputs transitionWeights boundaryWeights)
      .generator root size.toNat
    match DensePoly.interpolateCoset? values .generator root with
    | none => throw (.domainUnsupported size.toNat)
    | some polynomial => return { polynomial, columns := polynomial.splitColumns width }

end Composition

end OutOfDomain
