import OutOfDomain.BitWidth

/-!
# The parameters of a check

Five words fix what a check is about: how long and how wide the trace is, how many assertions pin
it down, by how much the composition domain is larger than the trace domain, and how many public
inputs there are. A `Draft` is any five words; `Parameters` are a draft in which nothing is wrong,
and the only way to one is `Draft.validate`.

The quantities derived from them are word arithmetic, and validation is what makes that safe: the
product of length and blowup fits a word, so neither it nor its predecessor wraps, and the
exponents that the check forms stay within the two declared widths.
-/

set_option autoImplicit false

namespace OutOfDomain

/-! ## Drafts and their faults -/

/-- Five words that may or may not be parameters. What is left out takes the values of the smallest
check of interest: one column of eight rows, pinned at both ends. -/
structure Draft where
  traceLength : UInt64 := 8
  /-- The number of columns of the trace, of transition constraints and of channel values. -/
  traceWidth : UInt64 := 1
  assertionCount : UInt64 := 2
  /-- The size of the composition domain over the size of the trace domain. -/
  blowup : UInt64 := 2
  publicInputCount : UInt64 := 2
  deriving DecidableEq, Repr, Inhabited

/-- Why five words are no parameters. -/
inductive ParameterError where
  | traceTooShort (got : UInt64)
  | traceLengthNotPowerOfTwo (got : UInt64)
  | traceWidthZero
  | invalidBlowup (got : UInt64)
  | domainOverflow (traceLength blowup : UInt64)
  deriving DecidableEq, Repr

/-- The fewest rows that a trace can have. -/
def minTraceLength : UInt64 := 2

/-- The text that reports a fault of a draft. -/
def ParameterError.message : ParameterError → String
  | traceTooShort got => s!"trace length {got} is below the minimum of {minTraceLength}"
  | traceLengthNotPowerOfTwo got => s!"trace length {got} is not a power of two"
  | traceWidthZero => "trace width must be positive"
  | invalidBlowup got => s!"blowup factor {got} is not a non-zero power of two"
  | domainOverflow traceLength blowup =>
    s!"evaluation domain {traceLength} x {blowup} overflows 64 bits"

/-- The first fault of a draft, in the order of the causes. -/
def Draft.fault? (d : Draft) : Option ParameterError :=
  if d.traceLength < minTraceLength then some (.traceTooShort d.traceLength)
  else if ¬ d.traceLength.toNat.isPowerOfTwo then some (.traceLengthNotPowerOfTwo d.traceLength)
  else if d.traceWidth = 0 then some .traceWidthZero
  else if ¬ d.blowup.toNat.isPowerOfTwo then some (.invalidBlowup d.blowup)
  else if UInt64.size ≤ d.traceLength.toNat * d.blowup.toNat then
    some (.domainOverflow d.traceLength d.blowup)
  else none

/-! ## Parameters -/

/-- A draft without a fault. -/
structure Parameters extends Draft where
  faultless : toDraft.fault? = none
  deriving DecidableEq

/-- The parameters that a draft describes, or its first fault. -/
def Draft.validate (d : Draft) : Except ParameterError Parameters :=
  match h : d.fault? with
  | some e => .error e
  | none => .ok ⟨d, h⟩

namespace Parameters

/-- The highest degree that the composition polynomial may have. -/
def maxDegree (p : Parameters) : UInt64 := p.traceLength * p.blowup - 1

/-- The number of points that the composition polynomial is computed from. -/
def compositionDomainSize (p : Parameters) : UInt64 := p.maxDegree + 1

/-- The width of every exponent that raises a weight to the highest degree. -/
def degreeBits (p : Parameters) : UInt32 := bitWidth p.maxDegree

/-- The width of every exponent that counts rows of the trace. -/
def stepBits (p : Parameters) : UInt32 := bitWidth p.traceLength

end Parameters

end OutOfDomain
