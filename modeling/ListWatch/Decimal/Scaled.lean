/-!
# Doubles from decimal text

Digits are gathered into 64 bits. The first digit that would not fit and all digits after it are
dropped, and a dropped digit before the point counts as a power of ten. The double is then the
gathered number times or over the double nearest to the power of ten, which rounds twice; a large
negative exponent is taken in steps.
-/
namespace ListWatch.Decimal

def largestWord : Nat := UInt64.size - 1

/-- The number gathered, and how many digits were dropped. -/
def gather (significand : Nat) : List Nat → Nat × Nat
  | [] => (significand, 0)
  | digit :: rest =>
    if significand * 10 + digit ≤ largestWord then gather (significand * 10 + digit) rest
    else (significand, rest.length + 1)

/-- The double nearest to a power of ten. -/
def powerOfTen (exponent : Nat) : Float := Float.ofScientific 1 false exponent

def divided (x : Float) (exponent : Nat) : Float :=
  if exponent ≤ 308 then x / powerOfTen exponent
  else if x == 0 then x
  else divided (x / powerOfTen 308) (exponent - 308)
termination_by exponent
decreasing_by omega

/-- `significand · 10 ^ exponent`, or `none` when it is too large. -/
def toFloat? (significand : Nat) (exponent : Int) : Option Float :=
  let x := significand.toUInt64.toFloat
  if exponent < 0 then some (divided x exponent.natAbs)
  else if exponent ≤ 308 then
    let scaled := x * powerOfTen exponent.toNat
    if scaled.isInf then none else some scaled
  else if x == 0 then some x
  else none

/-- Position of the first digit at which an exponent leaves 31 bits, counted from one. -/
def exponentOverflow? (value index : Nat) : List Nat → Option Nat
  | [] => none
  | digit :: rest =>
    if value * 10 + digit < UInt32.size / 2 then exponentOverflow? (value * 10 + digit) (index + 1) rest
    else some (index + 1)

def ofDigits (digits : List Nat) : Nat := digits.foldl (fun value digit => value * 10 + digit) 0

end ListWatch.Decimal
