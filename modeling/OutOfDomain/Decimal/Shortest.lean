/-!
# The shortest decimal of a double

A double stands for all reals that round to it, an interval around its value. The shortest decimal of
a double is the one in that interval with the fewest digits, and of several the one nearest to the
value; where two are equally near, the one whose last digit is even.

The interval and the grid of decimals with a given last place are compared in exact arithmetic, and
the grids are tried from the coarsest: one digit, two, and so on. A point of a grid that lies in the
interval has a neighbour of the value in it as well, so only the two neighbours are tested. Seventeen
digits are always enough.
-/

set_option autoImplicit false

namespace OutOfDomain.Decimal

/-- The number `mantissa * 2 ^ exponent`, as a double stores it. -/
structure Binary where
  mantissa : Nat
  exponent : Int
  /-- Whether the next double below is only half as far away as the next above. -/
  narrowBelow : Bool
  deriving DecidableEq, Repr

/-- The magnitude of a finite double, from its bits. -/
def Binary.ofBits (bits : UInt64) : Binary :=
  let biased := (bits >>> 52 &&& 0x7FF).toNat
  let fraction := (bits &&& 0xFFFFFFFFFFFFF).toNat
  if biased = 0 then ⟨fraction, -1074, false⟩
  else ⟨0x10000000000000 + fraction, (biased : Int) - 1075, fraction == 0 && 1 < biased⟩

/-- A number `digits * 10 ^ exponent`. -/
structure Scientific where
  digits : Nat
  exponent : Int
  deriving DecidableEq, Repr

/-- A positive number and the ends of its interval, as fractions of one denominator. -/
structure Interval where
  low : Nat
  value : Nat
  high : Nat
  unit : Nat
  closed : Bool

/-- The reals that round to a double. The ends are half way to its neighbours and round to the even
mantissa. -/
def Binary.interval (b : Binary) : Interval :=
  let up := 1 <<< (b.exponent - 2).toNat
  { low := (4 * b.mantissa - if b.narrowBelow then 1 else 2) * up
    value := 4 * b.mantissa * up
    high := (4 * b.mantissa + 2) * up
    unit := 1 <<< (2 - b.exponent).toNat
    closed := b.mantissa % 2 == 0 }

/-- Whether `n` units lie in the interval. -/
def Interval.contains (i : Interval) (n : Nat) : Bool :=
  let n := n * i.unit
  if i.closed then i.low ≤ n && n ≤ i.high else i.low < n && n < i.high

/-- Measure an interval in units of `10 ^ place`. -/
def Interval.scale (i : Interval) (place : Int) : Interval :=
  let up := Nat.pow 10 (-place).toNat
  { i with
    low := i.low * up, value := i.value * up, high := i.high * up
    unit := i.unit * Nat.pow 10 place.toNat }

/-- The whole number of units nearest to the value, among its two neighbours in the interval. -/
def Interval.nearest? (i : Interval) : Option Nat :=
  let below := i.value / i.unit
  let above := below + 1
  match i.contains below, i.contains above with
  | false, false => none
  | true, false => some below
  | false, true => some above
  | true, true =>
    match compare (2 * i.value) ((below + above) * i.unit) with
    | .lt => some below
    | .gt => some above
    | .eq => some (if below % 2 = 0 then below else above)

/-- The number of decimal digits. -/
def digitCount (n : Nat) : Nat := (Nat.toDigits 10 n).length

/-- The power of ten of the leading digit of the value. -/
def Interval.leading (i : Interval) : Int :=
  if i.unit ≤ i.value then digitCount (i.value / i.unit) - 1
  else -(digitCount ((i.unit - 1) / i.value) : Int)

/-- Drop zeros at the end, no more of them than the fuel. -/
def Scientific.strip (fuel : Nat) (s : Scientific) : Scientific :=
  match fuel with
  | 0 => s
  | fuel + 1 =>
    if s.digits % 10 = 0 ∧ s.digits ≠ 0 then strip fuel ⟨s.digits / 10, s.exponent + 1⟩ else s

/-- The shortest decimal of a positive double. -/
def Binary.shortest (b : Binary) : Scientific :=
  let i := b.interval
  let place (count : Nat) : Int := i.leading + 1 - count
  let found := (List.range' 1 17).findSome? fun count =>
    ((i.scale (place count)).nearest?).map fun digits => (⟨digits, place count⟩ : Scientific)
  (found.getD ⟨(i.scale (place 17)).value / (i.scale (place 17)).unit, place 17⟩).strip 17

/-! ## How it is written

Small powers of ten are written out, from a hundred-thousandth up to sixteen digits before the
point; a point is never left out. Other numbers have one digit before the point, if more than one,
and a power of ten with its sign. -/

/-- The powers of ten of the leading digit that are written out. -/
def isWrittenOut (leading : Int) : Bool := -5 ≤ leading && leading ≤ 15

/-- The text of a decimal. -/
def Scientific.render (s : Scientific) : List Char :=
  let ds := Nat.toDigits 10 s.digits
  let leading : Int := s.exponent + ds.length - 1
  if isWrittenOut leading then
    if 0 ≤ s.exponent then ds ++ List.replicate s.exponent.toNat '0' ++ ['.', '0']
    else if 0 ≤ leading then
      ds.take (leading.toNat + 1) ++ '.' :: ds.drop (leading.toNat + 1)
    else '0' :: '.' :: List.replicate (-leading - 1).toNat '0' ++ ds
  else
    let mantissa := match ds with
      | first :: second :: rest => first :: '.' :: second :: rest
      | ds => ds
    mantissa ++ 'e' :: (if leading < 0 then '-' else '+') :: Nat.toDigits 10 leading.natAbs

/-- The text of a finite double, from its bits. -/
def ofBits (bits : UInt64) : String :=
  let sign := if bits >>> 63 = 1 then ['-'] else []
  let b := Binary.ofBits bits
  let magnitude := if b.mantissa = 0 then ['0', '.', '0'] else b.shortest.render
  String.ofList (sign ++ magnitude)

end OutOfDomain.Decimal
