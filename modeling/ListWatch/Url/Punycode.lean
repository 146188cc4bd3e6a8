/-!
# Punycode

A label with characters outside ASCII is written as its ASCII characters, a hyphen, and one number
for each of the others in ascending order. The number tells how far to go on from the character
inserted last, first along the text and then to the next code point. It is written in digits of
base 36, least first, and ends at the first digit below a threshold, which follows the size of the
numbers before. Numbers are words of 32 bits, as are the values of their digits.
-/
namespace ListWatch.Punycode

def digit? (c : Char) : Option Nat :=
  if 'a' ≤ c ∧ c ≤ 'z' then some (c.toNat - 0x61)
  else if 'A' ≤ c ∧ c ≤ 'Z' then some (c.toNat - 0x41)
  else if c.isDigit then some (c.toNat - 0x30 + 26)
  else none

/-- The least digit after which a number goes on, at a place that is a multiple of 36. -/
def threshold (bias place : Nat) : Nat := max 1 (min 26 (place - bias))

/-- The bias of a number: it grows by the base as often as the number can be scaled down. -/
def scaledBias (number : Nat) : Nat :=
  if 455 < number then 36 + scaledBias (number / 35) else 36 * number / (number + 38)
termination_by number
decreasing_by omega

/-- The bias after a number that led to a text of the given length. -/
def nextBias (number length : Nat) (isFirst : Bool) : Nat :=
  let damped := if isFirst then number / 700 else number / 2
  scaledBias (damped + damped / length)

/-- The text so far, its newest code point, where the next one goes at the earliest, and the bias
of the next number. -/
structure Insertion where
  text : List Char
  code : Nat := 0x80
  index : Nat := 0
  bias : Nat := 72

/-- Inserts the character that a number leads to, if it is one. -/
def Insertion.insert? (state : Insertion) (number : Nat) : Option Insertion :=
  let length := state.text.length + 1
  let code := state.code + (state.index + number) / length
  let index := (state.index + number) % length
  if code.isValidChar then
    some
      { text := state.text.insertIdx index (Char.ofNat code)
        code
        index := index + 1
        bias := nextBias number length (state.index = 0) }
  else none

/-- Reads numbers and inserts their characters; `place` and `weight` are those of the next digit of
the number read so far. -/
def insertAll (state : Insertion) (place weight number : Nat) : List Char → Option (List Char)
  | [] => if place = 36 then some state.text else none
  | c :: rest => do
    let digit ← digit? c
    let limit := threshold state.bias place
    if digit < limit then
      let next ← state.insert? (number + digit * weight)
      insertAll next 36 1 0 rest
    else if UInt32.size ≤ weight * (36 - limit) then none
    else insertAll state (place + 36) (weight * (36 - limit)) (number + digit * weight) rest

/-- The text before the last hyphen and the text after it. A hyphen stands only after a text. -/
def splitBasic? (text : List Char) : Option (List Char × List Char) :=
  match text.reverse.span (· ≠ '-') with
  | (_, []) => some ([], text)
  | (_, [_]) => none
  | (numbers, _ :: basic) => some (basic.reverse, numbers.reverse)

def decode? (text : List Char) : Option (List Char) := do
  let (basic, numbers) ← splitBasic? text
  insertAll { text := basic } 36 1 0 numbers

/-! ## Writing -/

def digit (value : Nat) : Char :=
  if value < 26 then Char.ofNat (0x61 + value) else Char.ofNat (0x30 + (value - 26))

theorem threshold_pos (bias place : Nat) : 0 < threshold bias place :=
  Nat.lt_of_lt_of_le Nat.one_pos (Nat.le_max_left _ _)

/-- The digits of a number from a place on. -/
def writeNumber (bias place number : Nat) : List Char :=
  let limit := threshold bias place
  if number < limit then [digit number]
  else
    digit (limit + (number - limit) % (36 - limit))
      :: writeNumber bias (place + 36) ((number - limit) / (36 - limit))
termination_by number
decreasing_by
  have := threshold_pos bias place
  exact Nat.lt_of_le_of_lt (Nat.div_le_self _ _) (by omega)

/-- The number that leads to an index for a code point. -/
def Insertion.numberTo (state : Insertion) (code index : Nat) : Nat :=
  (code - state.code) * (state.text.length + 1) + index - state.index

/-- Writes the numbers of code points at indices, each that of the text of those before it. -/
def writeAll (state : Insertion) : List (Nat × Nat) → List Char
  | [] => []
  | (code, index) :: rest =>
    let number := state.numberTo code index
    writeNumber state.bias 36 number ++ ((state.insert? number).map (writeAll · rest)).getD []

/-- Puts a character in its place among characters in ascending order, unless it is there. -/
def addOnce (c : Char) : List Char → List Char
  | [] => [c]
  | first :: rest =>
    if c < first then c :: first :: rest
    else if c = first then first :: rest
    else first :: addOnce c rest

/-- The characters outside ASCII in ascending order. -/
def outside (text : List Char) : List Char :=
  (text.filter fun c => 0x80 ≤ c.toNat).foldr addOnce []

/-- The indices of a character from a text on that starts at an index. -/
def indices (c : Char) (start : Nat) : List Char → List Nat
  | [] => []
  | first :: rest =>
    if first = c then start :: indices c (start + 1) rest else indices c (start + 1) rest

/-- The code points of the characters, and for each its indices in the text without those that are
inserted later. -/
def insertions (text : List Char) : List Char → List (Nat × Nat)
  | [] => []
  | c :: later =>
    (indices c 0 (text.filter (· ∉ later))).map (c.toNat, ·) ++ insertions text later

def encode (text : List Char) : List Char :=
  let basic := text.filter fun c => c.toNat < 0x80
  (if basic.isEmpty then [] else basic ++ ['-'])
    ++ writeAll { text := basic } (insertions text (outside text))

end ListWatch.Punycode
