/-!
# What can go wrong with a constraint system

Constraints are evaluated on rows of field elements that come from outside, so most faults are
faults of *shape*: something was counted, and the count is not the one that was agreed on. They
all look alike, and differ in what was counted; `Quantity` names that. The remaining faults say
that a trace breaks a constraint, that the field has no domain of the size that is asked for, or
that a trace or a system cannot exist in the first place.
-/

set_option autoImplicit false

namespace OutOfDomain

/-- What a fault of shape has counted, or which index it has found out of range. -/
inductive Quantity where
  | frameWidth
  | frameNextWidth
  | transitionDegrees
  | boundaryDivisorDegrees
  | boundarySteps
  | assertionColumn
  | assertionStep
  | traceColumns
  | traceRows
  | traceColumn
  | traceRow
  | publicInputs
  deriving DecidableEq, Repr

/-- The name that a quantity has in reports. -/
def Quantity.label : Quantity → String
  | frameWidth => "frame width"
  | frameNextWidth => "frame next-row width"
  | transitionDegrees => "transition degree count"
  | boundaryDivisorDegrees => "boundary divisor degree count"
  | boundarySteps => "boundary step count"
  | assertionColumn => "assertion column index"
  | assertionStep => "assertion step"
  | traceColumns => "trace column count"
  | traceRows => "trace row count"
  | traceColumn => "trace column index"
  | traceRow => "trace row index"
  | publicInputs => "public input count"

/-- Why a trace or a constraint system cannot exist. -/
inductive LayoutFault where
  | rowsNotPowerOfTwo
  /-- The number of rows is zero in the field, or the generator of the domain is. -/
  | domainNotInvertible
  | tooFewRows
  | lengthNotPowerOfTwo
  | reported (detail : String)
  deriving DecidableEq, Repr

/-- The text that reports a fault of layout. -/
def LayoutFault.message : LayoutFault → String
  | rowsNotPowerOfTwo => "trace row count must be a power of two"
  | domainNotInvertible => "trace domain is not invertible in the field"
  | tooFewRows => "example trace length must contain at least two rows"
  | lengthNotPowerOfTwo => "example trace length must be a power of two"
  | reported detail => detail

/-- What can go wrong with a trace, or with the constraints on it. -/
inductive ConstraintError where
  | schemaMismatch (what : Quantity) (expected actual : Nat)
  | invalidTransition (column step : Nat)
  | boundaryViolation (column step : Nat)
  | domainUnsupported (size : Nat)
  | layoutViolation (fault : LayoutFault)
  deriving DecidableEq, Repr

/-- The text that reports a constraint error. -/
def ConstraintError.message : ConstraintError → String
  | schemaMismatch what expected actual =>
    s!"schema mismatch for {what.label}: expected {expected}, got {actual}"
  | invalidTransition column step => s!"invalid transition at column #{column} step {step}"
  | boundaryViolation column step => s!"boundary violation at column #{column} row {step}"
  | domainUnsupported size => s!"field has no multiplicative subgroup of size {size}"
  | layoutViolation fault => s!"layout violation: {fault.message}"

end OutOfDomain
