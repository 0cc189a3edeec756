import OutOfDomain.Decimal.Shortest
import OutOfDomain.Json.Token

/-!
# What a numeral is worth

A numeral without point and exponent is an integer as long as it fits a word, signed if there is a
minus. All others are doubles, and so is minus zero.

A double is found in two steps. The digits are gathered into one word; once a digit no longer fits,
the digits before the point only count as powers of ten from there on, and those after the point are
dropped. Then one multiplication or division by a power of ten gives the double, so it may be off in
the last place for numerals of many digits. A double that is out of range is an error, not infinity.
-/

set_option autoImplicit false

namespace OutOfDomain.Json

/-- What a numeral is worth. -/
inductive Number where
  | natural (n : UInt64)
  /-- A negative integer, by its magnitude. -/
  | negative (n : Nat)
  /-- A double, by its bits. -/
  | double (bits : UInt64)
  deriving DecidableEq, Repr

/-! ## Gathering digits -/

/-- Append digits to a number while it fits a word; the digits that are left over are counted. -/
def gatherWhole (n : Nat) : List Nat → Nat × Nat
  | [] => (n, 0)
  | d :: rest =>
    if n * 10 + d < UInt64.size then gatherWhole (n * 10 + d) rest
    else (n, rest.length + 1)

/-- Append digits to a number while it fits a word; the digits that are appended are counted. -/
def gatherFraction (n : Nat) : List Nat → Nat × Nat
  | [] => (n, 0)
  | d :: rest =>
    if n * 10 + d < UInt64.size then
      let (m, count) := gatherFraction (n * 10 + d) rest
      (m, count + 1)
    else (n, 0)

/-- The number that digits spell. -/
def ofDigits (ds : List Nat) : Nat := ds.foldl (fun n d => n * 10 + d) 0

/-- The power of ten of a numeral that is written after its digits. -/
def Numeral.power (n : Numeral) : Int :=
  match n.exponent with
  | none => 0
  | some e => if e.negative then -(ofDigits e.digits : Int) else ofDigits e.digits

/-! ## Doubles -/

/-- A power of ten, rounded. -/
def tenTo (n : Nat) : Float := Float.ofScientific 1 false n

/-- Divide by a power of ten, in steps if it is more than a double holds. -/
def shrink (x : Float) (n : Nat) : Float :=
  if n ≤ 308 then x / tenTo n
  else if x == 0 then x
  else shrink (x / tenTo 308) (n - 308)
termination_by n

/-- Multiply by a power of ten, unless the result is out of range. -/
def grow? (x : Float) (n : Nat) : Option Float :=
  if n ≤ 308 then
    let y := x * tenTo n
    if y.isInf then none else some y
  else if x == 0 then some x
  else none

/-- The double that a numeral stands for, if it is in range. -/
def Numeral.double? (n : Numeral) : Option Float :=
  let (whole, skipped) := gatherWhole 0 n.whole
  let (all, after) := gatherFraction whole n.fraction
  let power : Int := (skipped : Int) - after + n.power
  let x := all.toUInt64.toFloat
  let magnitude? := if power < 0 then some (shrink x power.natAbs) else grow? x power.natAbs
  magnitude?.map fun x => if n.negative then -x else x

/-! ## Numbers -/

/-- The integer that a numeral stands for, if it is written as one and fits a word. -/
def Numeral.integer? (n : Numeral) : Option Number :=
  if n.fraction ≠ [] ∨ n.exponent ≠ none then none
  else
    let magnitude := ofDigits n.whole
    if n.negative then
      if 0 < magnitude ∧ 2 * magnitude ≤ UInt64.size then some (.negative magnitude) else none
    else if magnitude < UInt64.size then some (.natural magnitude.toUInt64) else none

/-- What a numeral is worth; nothing for a double out of range. -/
def Numeral.value? (n : Numeral) : Option Number :=
  match n.integer? with
  | some i => some i
  | none => n.double?.map fun x => .double x.toBits

end OutOfDomain.Json
