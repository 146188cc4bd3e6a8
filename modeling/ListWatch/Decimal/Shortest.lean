/-!
# Shortest decimal digits of a binary number

A positive double is `m · 2 ^ q`. The decimals that read back as it fill an
interval around it, whose ends belong to it exactly when `m` is even. For one,
two, … seventeen digits the value has two neighbours on the decimal grid; the
first grid with a neighbour inside the interval gives the digits, and of two
such neighbours the nearer one, or the even one when both are equally near. All
comparisons are between natural numbers.
-/
namespace ListWatch.Decimal

/-- The number `digits · 10 ^ exponent`. -/
structure Scaled where
  digits : Nat
  exponent : Int
  deriving DecidableEq, Repr

/-- A positive number `significand · 2 ^ exponent`; `narrow` when the gap below it is half the gap
above it. -/
structure Binary where
  significand : Nat
  exponent : Int
  narrow : Bool
  deriving DecidableEq, Repr

/-- The leading bit of a significand, which the bits of a double leave out. -/
def hiddenBit : Nat := Nat.pow 2 52

/-- The magnitude of a finite double, `none` for zero. -/
def Binary.ofBits? (bits : UInt64) : Option Binary :=
  let raw : Nat := bits.toNat % (UInt64.size / 2)
  let fraction : Nat := raw % hiddenBit
  let power : Nat := raw / hiddenBit
  if raw = 0 then none
  else if power = 0 then some ⟨fraction, -1074, false⟩
  else some ⟨hiddenBit + fraction, (power : Int) - 1075, fraction = 0 && power ≠ 1⟩

/-- Numerators of the lower end, the value and the upper end over one denominator. -/
structure Interval where
  low : Nat
  value : Nat
  high : Nat
  denominator : Nat
  closed : Bool
  deriving DecidableEq, Repr

def Binary.interval (number : Binary) : Interval :=
  let up := Nat.pow 2 (number.exponent - 2).toNat
  let quarter := 4 * number.significand
  { low := (quarter - if number.narrow then 1 else 2) * up
    value := quarter * up
    high := (quarter + 2) * up
    denominator := Nat.pow 2 (2 - number.exponent).toNat
    closed := number.significand % 2 = 0 }

/-- Number of decimal digits. -/
def digitCount (n : Nat) : Nat := (Nat.toDigits 10 n).length

/-- The power of ten of the leading digit. -/
def Interval.leading (span : Interval) : Int :=
  if span.denominator ≤ span.value then (digitCount (span.value / span.denominator) : Int) - 1
  else
    let count := digitCount (span.denominator / span.value)
    if span.denominator ≤ span.value * Nat.pow 10 (count - 1) then 1 - (count : Int) else -(count : Int)

/-- Numerators and denominator with the interval measured in units of `10 ^ exponent`. -/
def Interval.scale (span : Interval) (exponent : Int) : Interval :=
  let up := Nat.pow 10 (-exponent).toNat
  { span with
    low := span.low * up
    value := span.value * up
    high := span.high * up
    denominator := span.denominator * Nat.pow 10 exponent.toNat }

def Interval.holds (span : Interval) (digits : Nat) : Bool :=
  let point := digits * span.denominator
  if span.closed then span.low ≤ point && point ≤ span.high
  else span.low < point && point < span.high

/-- The neighbour of the value on the unit grid that lies inside, the nearer one if both do. -/
def Interval.neighbour? (span : Interval) : Option Nat :=
  let below := span.value / span.denominator
  let above := below + 1
  match span.holds below, span.holds above with
  | true, true =>
    let downward := span.value - below * span.denominator
    let upward := above * span.denominator - span.value
    if downward < upward then some below
    else if upward < downward then some above
    else if below % 2 = 0 then some below else some above
  | true, false => some below
  | false, true => some above
  | false, false => none

/-- Tries grids of `count` and more digits. -/
def Interval.search (span : Interval) : (fuel count : Nat) → Scaled
  | 0, _ => ⟨span.value / span.denominator, 0⟩
  | fuel + 1, count =>
    let exponent := span.leading - (count : Int) + 1
    match (span.scale exponent).neighbour? with
    | some digits => ⟨digits, exponent⟩
    | none => span.search fuel (count + 1)

/-- Moves the zeros at the end of the digits into the exponent. -/
def Scaled.strip : (fuel : Nat) → Scaled → Scaled
  | 0, number => number
  | fuel + 1, number =>
    if number.digits ≠ 0 && number.digits % 10 = 0 then
      Scaled.strip fuel ⟨number.digits / 10, number.exponent + 1⟩
    else number

/-- The fewest digits that read back as the double with these bits, `none` for zero. -/
def shortest? (bits : UInt64) : Option Scaled :=
  (Binary.ofBits? bits).map fun number => (number.interval.search 17 1).strip 20

end ListWatch.Decimal
