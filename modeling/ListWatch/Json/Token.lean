import ListWatch.Decimal.Scaled
import ListWatch.Json.Input
import ListWatch.Text.Utf8

/-!
# Numbers and strings

The readers start after the byte that told the kind of the token: a number after its sign, a
string after its opening quote. Each has a skimming twin that checks the form alone: it neither
bounds numbers nor looks at surrogates or UTF-8.
-/
namespace ListWatch.Json.Reader

def digitsFrom : List UInt8 → Position → List Nat × Input
  | [], position => ([], ⟨[], position⟩)
  | byte :: rest, position =>
    if isDigit byte then
      let (digits, input) := digitsFrom rest (position.after byte)
      ((byte.toNat - 0x30) :: digits, input)
    else ([], ⟨byte :: rest, position⟩)

/-- All digits to come. -/
def digits : Reader (List Nat) :=
  modifyGet fun input => digitsFrom input.rest input.position

def peekDigit : Reader Bool := do return (← peek).any isDigit

def isExponentMark (byte : UInt8) : Bool := byte = 0x65 || byte = 0x45

/-- Eats the sign of an exponent, if any, and tells whether it is a minus. -/
def exponentSign : Reader Bool := do
  match ← peek with
  | some 0x2B => eat; pure false
  | some 0x2D => eat; pure true
  | _ => pure false

def scaled (negative : Bool) (significand : Nat) (exponent : Int) : Reader Number :=
  match Decimal.toFloat? significand exponent with
  | some x => pure (.float (if negative then -x else x))
  | none => failHere .numberOutOfRange

/-- From the mark of the exponent. -/
def exponent (negative : Bool) (significand : Nat) (starting : Int) : Reader Number := do
  eat
  let minus ← exponentSign
  match ← peek with
  | none => failHere .endInValue
  | some byte =>
    unless isDigit byte do
      eat
      failHere .invalidNumber
    let before := (← get).position
    let run ← digits
    match Decimal.exponentOverflow? 0 0 run with
    -- Too large with such an exponent, unless it is zero or the exponent is negative.
    | some index =>
      if significand ≠ 0 && !minus then
        throw ⟨.numberOutOfRange, some { before with column := before.column + index }⟩
      else pure (.float (if negative then -0.0 else 0.0))
    | none =>
      let shift : Int := Decimal.ofDigits run
      scaled negative significand (if minus then starting - shift else starting + shift)

/-- From the point. -/
def fraction (negative : Bool) (significand : Nat) (starting : Int) : Reader Number := do
  eat
  let run ← digits
  if run.isEmpty then
    if (← peek).isNone then failNext .endInValue else failNext .invalidNumber
  else
    let (significand, dropped) := Decimal.gather significand run
    let starting := starting - ((run.length - dropped : Nat) : Int)
    if (← peek).any isExponentMark then exponent negative significand starting
    else scaled negative significand starting

/-- A number without point or exponent: an integer when it fits, else the nearest double. -/
def whole (negative : Bool) (significand : Nat) : Number :=
  if !negative then .integer significand
  else if significand = 0 || UInt64.size / 2 < significand then .float (-significand.toUInt64.toFloat)
  else .integer (-(significand : Int))

def number (negative : Bool) : Reader Number := do
  match ← peek with
  | none => failHere .endInValue
  | some byte =>
    unless isDigit byte do
      eat
      failHere .invalidNumber
    -- A zero in front is a number by itself.
    let run ← if byte = 0x30 then do
        eat
        if ← peekDigit then failNext .invalidNumber
        pure [0]
      else digits
    let (significand, dropped) := Decimal.gather 0 run
    match ← peek with
    | some 0x2E => fraction negative significand dropped
    | some 0x65 | some 0x45 => exponent negative significand dropped
    | _ =>
      if dropped = 0 then pure (whole negative significand)
      else scaled negative significand dropped

def hexValue? (byte : UInt8) : Option Nat :=
  if isDigit byte then some (byte.toNat - 0x30)
  else if 0x41 ≤ byte && byte ≤ 0x46 then some (byte.toNat - 0x41 + 10)
  else if 0x61 ≤ byte && byte ≤ 0x66 then some (byte.toNat - 0x61 + 10)
  else none

def eatAll : Nat → Reader Unit
  | 0 => pure ()
  | count + 1 => do eat; eatAll count

/-- The four digits of an escaped code unit. -/
def codeUnit : Reader Nat := do
  match (← get).rest with
  | a :: b :: c :: d :: _ =>
    -- The four bytes are gone before it is known whether they are digits.
    eatAll 4
    match hexValue? a, hexValue? b, hexValue? c, hexValue? d with
    | some a, some b, some c, some d => pure (((a * 16 + b) * 16 + c) * 16 + d)
    | _, _, _, _ => failHere .invalidEscape
  | short =>
    eatAll short.length
    failHere .endInString

def isLeading (unit : Nat) : Bool := 0xD800 ≤ unit && unit ≤ 0xDBFF
def isTrailing (unit : Nat) : Bool := 0xDC00 ≤ unit && unit ≤ 0xDFFF

/-- Eats the byte that a pair of code units needs next. -/
def pairByte (expected : UInt8) : Reader Unit := do
  match ← peek with
  | none => failHere .endInString
  | some byte =>
    eat
    unless byte = expected do failHere .endOfHexEscape

def escapedCodePoint : Reader (List UInt8) := do
  let unit ← codeUnit
  if isTrailing unit then failHere .loneSurrogate
  else if isLeading unit then
    pairByte 0x5C
    pairByte 0x75
    let second ← codeUnit
    if isTrailing second then
      let code := 0x10000 + (unit - 0xD800) * 0x400 + (second - 0xDC00)
      pure (String.utf8EncodeChar (Char.ofNat code))
    else failHere .loneSurrogate
  else pure (String.utf8EncodeChar (Char.ofNat unit))

/-- The byte that a one-letter escape stands for. -/
def shortEscape? (byte : UInt8) : Option UInt8 :=
  if byte = 0x22 || byte = 0x5C || byte = 0x2F then some byte
  else if byte = 0x62 then some 0x08
  else if byte = 0x66 then some 0x0C
  else if byte = 0x6E then some 0x0A
  else if byte = 0x72 then some 0x0D
  else if byte = 0x74 then some 0x09
  else none

/-- The bytes an escape stands for, read after its backslash. -/
def escape : Reader (List UInt8) := do
  match ← peek with
  | none => failHere .endInString
  | some byte =>
    eat
    if byte = 0x75 then escapedCodePoint
    else match shortEscape? byte with
      | some plain => pure [plain]
      | none => failHere .invalidEscape

/-- The unescaped bytes of a string; `gathered` holds those so far, last first. -/
def stringBytes : (fuel : Nat) → (gathered : List UInt8) → Reader (List UInt8)
  | 0, _ => failHere .endInString
  | fuel + 1, gathered => do
    match ← peek with
    | none => failHere .endInString
    | some byte =>
      eat
      if byte = 0x22 then pure gathered.reverse
      else if byte = 0x5C then
        let bytes ← escape
        stringBytes fuel (bytes.reverse ++ gathered)
      else if byte < 0x20 then failHere .controlCharacter
      else stringBytes fuel (byte :: gathered)

def string : Reader String := do
  let bytes ← stringBytes (← budget) []
  match Utf8.decode? bytes with
  | some text => pure text
  | none =>
    -- The fault is placed where the bytes stop being UTF-8, which was passed long ago.
    let position := (← get).position
    let back := bytes.length - Utf8.validLength bytes
    throw ⟨.invalidCodePoint, some { position with column := position.column - back }⟩

def skimEscape : Reader Unit := do
  match ← peek with
  | none => failHere .endInString
  | some byte =>
    eat
    if byte = 0x75 then discard codeUnit
    else if (shortEscape? byte).isNone then failHere .invalidEscape

def skimStringLoop : (fuel : Nat) → Reader Unit
  | 0 => failHere .endInString
  | fuel + 1 => do
    match ← peek with
    | none => failHere .endInString
    | some byte =>
      if byte = 0x22 then eat
      else if byte = 0x5C then
        eat
        skimEscape
        skimStringLoop fuel
      else if byte < 0x20 then failHere .controlCharacter
      else
        eat
        skimStringLoop fuel

def skimString : Reader Unit := do skimStringLoop (← budget)

def skimExponent : Reader Unit := do
  eat
  discard exponentSign
  let found ← peekDigit
  eat
  if found then discard digits else failHere .invalidNumber

def skimFraction : Reader Unit := do
  eat
  let run ← digits
  if run.isEmpty then failNext .invalidNumber
  else if (← peek).any isExponentMark then skimExponent

/-- A number after its sign, its form alone. -/
def skimNumber : Reader Unit := do
  let first ← peek
  if first = some 0x30 then
    eat
    if ← peekDigit then failNext .invalidNumber
  else if first.any isDigit then discard digits
  else
    eat
    failHere .invalidNumber
  match ← peek with
  | some 0x2E => skimFraction
  | some 0x65 | some 0x45 => skimExponent
  | _ => pure ()

end ListWatch.Json.Reader
