import ListWatch.Decimal.Shortest

/-!
# Numbers as JSON text

A double is written with the fewest digits that read back. Exponents of the
leading digit from -5 to 15 are written positionally, with a point and at least
one decimal; all others with an exponent that always shows its sign.
-/
namespace ListWatch.Json

/-- Which exponents of the leading digit are written positionally. -/
structure FloatFormat where
  least : Int
  greatest : Int
  deriving DecidableEq, Repr

def floatFormat : FloatFormat := ⟨-5, 15⟩

def decimalDigits (n : Nat) : List Char := Nat.toDigits 10 n

def integerText (n : Int) : List Char :=
  if n < 0 then '-' :: decimalDigits n.natAbs else decimalDigits n.natAbs

/-- The digits with the point after the leading one, then the exponent. -/
def exponentText (digits : List Char) (leading : Int) : List Char :=
  let mantissa := match digits with
    | first :: second :: rest => first :: '.' :: second :: rest
    | short => short
  mantissa ++ ['e', if leading < 0 then '-' else '+'] ++ decimalDigits leading.natAbs

/-- The digits with the point in its place and zeros where there are no digits. -/
def positionalText (digits : List Char) (leading : Int) : List Char :=
  if leading < 0 then
    ['0', '.'] ++ List.replicate (leading.natAbs - 1) '0' ++ digits
  else
    let whole := leading.toNat + 1
    let padded := digits ++ List.replicate (whole - digits.length) '0'
    let fraction := padded.drop whole
    padded.take whole ++ ['.'] ++ (if fraction.isEmpty then ['0'] else fraction)

def magnitudeText (bits : UInt64) : List Char :=
  match Decimal.shortest? bits with
  | none => ['0', '.', '0']
  | some number =>
    let digits := decimalDigits number.digits
    let leading := number.exponent + (digits.length : Int) - 1
    if floatFormat.least ≤ leading ∧ leading ≤ floatFormat.greatest then
      positionalText digits leading
    else exponentText digits leading

def floatCharacters (x : Float) : List Char :=
  let bits := x.toBits
  if bits < 0x8000000000000000 then magnitudeText bits else '-' :: magnitudeText bits

def floatText (x : Float) : String := String.ofList (floatCharacters x)

end ListWatch.Json
