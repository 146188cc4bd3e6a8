import ListWatch.Proofs.Json.Verbatim

/-!
# JSON texts as they are spelled

A value may be spelled in many ways: with blanks between the tokens, characters escaped or not,
numbers with a fraction or an exponent. A spelling is the syntax tree of one such text; its bytes are
the text, and every well-formed text has one. What it stands for is a value as it stands. A spelling
stands for none when half of a surrogate pair is missing in it, when the bytes of a string are no
UTF-8, or when a number is too large.
-/
namespace ListWatch.Json

open Reader (isBlank isDigit)

/-! ## Tokens -/

/-- Blanks between two tokens. -/
structure Blanks where
  bytes : List UInt8
  blank : ∀ byte ∈ bytes, isBlank byte = true

def Blanks.empty : Blanks := ⟨[], nofun⟩

def Blanks.append (first second : Blanks) : Blanks :=
  ⟨first.bytes ++ second.bytes, fun byte member =>
    (List.mem_append.mp member).elim (first.blank byte) (second.blank byte)⟩

/-- One digit or more. -/
structure Digits where
  run : List (Fin 10)
  some : run ≠ []

def digitByte (digit : Fin 10) : UInt8 := UInt8.ofNat (0x30 + digit)

def Digits.bytes (digits : Digits) : List UInt8 := digits.run.map digitByte

def Digits.values (digits : Digits) : List Nat := digits.run.map Fin.val

/-- The exponent of a number, with the sign that was written. -/
structure Exponent where
  capital : Bool
  sign : Option Bool
  digits : Digits

def signBytes : Option Bool → List UInt8
  | some true => [0x2D]
  | some false => [0x2B]
  | none => []

def Exponent.bytes (exponent : Exponent) : List UInt8 :=
  (if exponent.capital then 0x45 else 0x65) :: (signBytes exponent.sign ++ exponent.digits.bytes)

/-- A number as it is written. No other digit follows a zero in front. -/
structure Numeral where
  negative : Bool
  whole : Digits
  leading : whole.run.head? = some 0 → whole.run = [0]
  fraction : Option Digits
  exponent : Option Exponent

def Numeral.fractionBytes (numeral : Numeral) : List UInt8 :=
  match numeral.fraction with
  | some digits => 0x2E :: digits.bytes
  | none => []

def Numeral.exponentBytes (numeral : Numeral) : List UInt8 :=
  match numeral.exponent with
  | some exponent => exponent.bytes
  | none => []

/-- The bytes of a number after its sign. -/
def Numeral.magnitude (numeral : Numeral) : List UInt8 :=
  numeral.whole.bytes ++ (numeral.fractionBytes ++ numeral.exponentBytes)

def Numeral.bytes (numeral : Numeral) : List UInt8 :=
  (if numeral.negative then [0x2D] else []) ++ numeral.magnitude

/-- A hexadecimal digit, with a small letter or a capital. -/
structure HexDigit where
  value : Fin 16
  capital : Bool

def HexDigit.byte (digit : HexDigit) : UInt8 :=
  if digit.value.val < 10 then UInt8.ofNat (0x30 + digit.value)
  else if digit.capital then UInt8.ofNat (0x41 + (digit.value - 10))
  else UInt8.ofNat (0x61 + (digit.value - 10))

/-- A piece of a string: a byte that stands for itself, or an escape. -/
inductive Piece where
  | plain (byte : UInt8) (stands : byte ≠ 0x22 ∧ byte ≠ 0x5C ∧ ¬ byte < 0x20)
  | short (letter meaning : UInt8) (known : Reader.shortEscape? letter = some meaning)
  | unit (first second third fourth : HexDigit)

def Piece.bytes : Piece → List UInt8
  | .plain byte _ => [byte]
  | .short letter _ _ => [0x5C, letter]
  | .unit first second third fourth =>
    [0x5C, 0x75, first.byte, second.byte, third.byte, fourth.byte]

/-- The pieces of a string and the quote after them. -/
def quotedBytes (pieces : List Piece) : List UInt8 := pieces.flatMap Piece.bytes ++ [0x22]

theorem quotedBytes_cons (piece : Piece) (pieces : List Piece) :
    quotedBytes (piece :: pieces) = piece.bytes ++ quotedBytes pieces := by
  rw [quotedBytes, quotedBytes, List.flatMap_cons, List.append_assoc]

/-! ## What tokens stand for -/

def codeUnitOf (first second third fourth : HexDigit) : Nat :=
  ((first.value * 16 + second.value) * 16 + third.value) * 16 + fourth.value

/-- The character of a surrogate pair. -/
def pairedCharacter (leading trailing : Nat) : Char :=
  Char.ofNat (0x10000 + (leading - 0xD800) * 0x400 + (trailing - 0xDC00))

/-- The unescaped bytes of a string. -/
def unescaped? : List Piece → Option (List UInt8)
  | [] => some []
  | .plain byte _ :: rest => (unescaped? rest).map ([byte] ++ ·)
  | .short _ meaning _ :: rest => (unescaped? rest).map ([meaning] ++ ·)
  | .unit a b c d :: rest =>
    let unit := codeUnitOf a b c d
    if Reader.isTrailing unit then none
    else if Reader.isLeading unit then
      match rest with
      | .unit a b c d :: rest =>
        let second := codeUnitOf a b c d
        if Reader.isTrailing second then
          (unescaped? rest).map (String.utf8EncodeChar (pairedCharacter unit second) ++ ·)
        else none
      | _ => none
    else (unescaped? rest).map (String.utf8EncodeChar (Char.ofNat unit) ++ ·)

theorem unescaped?_unit (a b c d : HexDigit) (rest : List Piece) :
    unescaped? (.unit a b c d :: rest) =
      if Reader.isTrailing (codeUnitOf a b c d) then none
      else if Reader.isLeading (codeUnitOf a b c d) then
        match rest with
        | .unit a' b' c' d' :: rest =>
          if Reader.isTrailing (codeUnitOf a' b' c' d') then
            (unescaped? rest).map (String.utf8EncodeChar
              (pairedCharacter (codeUnitOf a b c d) (codeUnitOf a' b' c' d')) ++ ·)
          else none
        | _ => none
      else (unescaped? rest).map
        (String.utf8EncodeChar (Char.ofNat (codeUnitOf a b c d)) ++ ·) := by
  rw [unescaped?.eq_def]

def text? (pieces : List Piece) : Option String := (unescaped? pieces).bind Utf8.decode?

/-- A number that is given by its digits and a power of ten. -/
def scaled? (negative : Bool) (significand : Nat) (power : Int) : Option Number :=
  (Decimal.toFloat? significand power).map fun x => .float (if negative then -x else x)

def Exponent.number? (exponent : Exponent) (negative : Bool) (significand : Nat) (power : Int) :
    Option Number :=
  let minus := exponent.sign = some true
  match Decimal.exponentOverflow? 0 0 exponent.digits.values with
  | some _ =>
    if significand ≠ 0 ∧ ¬ minus then none else some (.float (if negative then -0.0 else 0.0))
  | none =>
    let shift : Int := Decimal.ofDigits exponent.digits.values
    scaled? negative significand (if minus then power - shift else power + shift)

/-- The digits of a number that fit a word, and the power of ten they are given in. -/
def Numeral.gathered (numeral : Numeral) : Nat × Int :=
  let (significand, dropped) := Decimal.gather 0 numeral.whole.values
  match numeral.fraction with
  | some digits =>
    let (significand, lost) := Decimal.gather significand digits.values
    (significand, dropped - ((digits.values.length - lost : Nat) : Int))
  | none => (significand, dropped)

def Numeral.number? (numeral : Numeral) : Option Number :=
  let (significand, power) := numeral.gathered
  match numeral.exponent with
  | some exponent => exponent.number? numeral.negative significand power
  | none =>
    if numeral.fraction.isNone ∧ power = 0 then some (Reader.whole numeral.negative significand)
    else scaled? numeral.negative significand power

/-! ## Values -/

/-- Something between blanks. -/
structure Spaced (α : Type) where
  before : Blanks
  it : α
  after : Blanks

/-- Something after a name and a colon. -/
structure Named (α : Type) where
  before : Blanks
  name : List Piece
  after : Blanks
  value : Spaced α

inductive Spelling where
  | null
  | boolean (value : Bool)
  | number (numeral : Numeral)
  | string (pieces : List Piece)
  | list (inner : Blanks) (elements : List (Spaced Spelling))
  | object (inner : Blanks) (members : List (Named Spelling))

namespace Spelling

/-- A property of all spellings, from what brackets pass on from what is in them. -/
theorem parts {motive : Spelling → Prop} (null : motive .null) (boolean : ∀ b, motive (.boolean b))
    (number : ∀ numeral, motive (.number numeral)) (string : ∀ pieces, motive (.string pieces))
    (list : ∀ inner elements, (∀ element ∈ elements, motive element.it) →
      motive (.list inner elements))
    (object : ∀ inner members, (∀ member ∈ members, motive member.value.it) →
      motive (.object inner members))
    (spelling : Spelling) : motive spelling := by
  refine @Spelling.rec motive (fun elements => ∀ element ∈ elements, motive element.it)
    (fun members => ∀ member ∈ members, motive member.value.it)
    (fun element => motive element.it) (fun member => motive member.value.it)
    null boolean number string list object ?_ ?_ ?_ ?_ ?_ ?_ spelling
  all_goals simp_all

mutual
def bytes : Spelling → List UInt8
  | .null => [0x6E, 0x75, 0x6C, 0x6C]
  | .boolean true => [0x74, 0x72, 0x75, 0x65]
  | .boolean false => [0x66, 0x61, 0x6C, 0x73, 0x65]
  | .number numeral => numeral.bytes
  | .string pieces => 0x22 :: quotedBytes pieces
  | .list inner elements => 0x5B :: (inner.bytes ++ (elementBytes true elements ++ [0x5D]))
  | .object inner members => 0x7B :: (inner.bytes ++ (memberBytes true members ++ [0x7D]))
/-- The elements of a list, each but the first after a comma. -/
def elementBytes (first : Bool) : List (Spaced Spelling) → List UInt8
  | [] => []
  | ⟨before, value, after⟩ :: rest =>
    (if first then [] else [0x2C]) ++
      (before.bytes ++ (value.bytes ++ (after.bytes ++ elementBytes false rest)))
/-- The members of an object, each but the first after a comma. -/
def memberBytes (first : Bool) : List (Named Spelling) → List UInt8
  | [] => []
  | ⟨before, name, after, ⟨lead, value, trail⟩⟩ :: rest =>
    (if first then [] else [0x2C]) ++
      (before.bytes ++ (0x22 :: (quotedBytes name ++ (after.bytes ++ (0x3A ::
        (lead.bytes ++ (value.bytes ++ (trail.bytes ++ memberBytes false rest))))))))
end

mutual
/-- The value, as it stands, that the spelling stands for. -/
def value? : Spelling → Option Value
  | .null => some .null
  | .boolean b => some (.boolean b)
  | .number numeral => numeral.number?.map .number
  | .string pieces => (text? pieces).map .string
  | .list _ elements => (elementValues? elements).map .list
  | .object _ members => (memberValues? members).map .object
def elementValues? : List (Spaced Spelling) → Option (List Value)
  | [] => some []
  | ⟨_, value, _⟩ :: rest => value.value?.bind fun first => (elementValues? rest).map (first :: ·)
def memberValues? : List (Named Spelling) → Option Members
  | [] => some []
  | ⟨_, name, _, ⟨_, value, _⟩⟩ :: rest =>
    (text? name).bind fun key => value.value?.bind fun first =>
      (memberValues? rest).map ((key, first) :: ·)
end

mutual
/-- How deep brackets are nested. -/
def depth : Spelling → Nat
  | .null | .boolean _ | .number _ | .string _ => 0
  | .list _ elements => elementsDepth elements + 1
  | .object _ members => membersDepth members + 1
def elementsDepth : List (Spaced Spelling) → Nat
  | [] => 0
  | ⟨_, value, _⟩ :: rest => max value.depth (elementsDepth rest)
def membersDepth : List (Named Spelling) → Nat
  | [] => 0
  | ⟨_, _, _, ⟨_, value, _⟩⟩ :: rest => max value.depth (membersDepth rest)
end

theorem elementsDepth_le {elements : List (Spaced Spelling)} {bound : Nat} :
    elementsDepth elements ≤ bound ↔ ∀ element ∈ elements, element.it.depth ≤ bound := by
  induction elements with
  | nil => simp [elementsDepth]
  | cons element elements ih => rw [elementsDepth, Nat.max_le, ih, List.forall_mem_cons]

theorem membersDepth_le {members : List (Named Spelling)} {bound : Nat} :
    membersDepth members ≤ bound ↔ ∀ member ∈ members, member.value.it.depth ≤ bound := by
  induction members with
  | nil => simp [membersDepth]
  | cons member members ih => rw [membersDepth, Nat.max_le, ih, List.forall_mem_cons]

end Spelling

end ListWatch.Json
