/-!
# UTF-8

Bytes are read one at a time by a machine that holds the character begun so far.
A byte that cannot continue it refuses the whole beginning at once, so every
refused stretch is a maximal one: lossy reading puts one replacement character
for it, and strict reading fails there. Both readings are recursions on the
bytes, and the machine is the only place that knows the byte ranges.
-/
namespace ListWatch.Utf8

/-- A character begun: its bits so far, the tails still owed, and the range of the next one. -/
structure Begun where
  bits : Nat
  owed : Nat
  least : UInt8
  greatest : UInt8
  deriving DecidableEq, Repr

inductive Step where
  | character (c : Char)
  | begun (state : Begun)
  | refused
  deriving DecidableEq, Repr

/-- The first byte of a character. -/
def lead (byte : UInt8) : Step :=
  if byte < 0x80 then .character (Char.ofNat byte.toNat)
  else if byte < 0xC2 then .refused
  else if byte < 0xE0 then .begun ⟨byte.toNat - 0xC0, 1, 0x80, 0xBF⟩
  else if byte = 0xE0 then .begun ⟨0, 2, 0xA0, 0xBF⟩
  else if byte = 0xED then .begun ⟨0xD, 2, 0x80, 0x9F⟩
  else if byte < 0xF0 then .begun ⟨byte.toNat - 0xE0, 2, 0x80, 0xBF⟩
  else if byte = 0xF0 then .begun ⟨0, 3, 0x90, 0xBF⟩
  else if byte < 0xF4 then .begun ⟨byte.toNat - 0xF0, 3, 0x80, 0xBF⟩
  else if byte = 0xF4 then .begun ⟨4, 3, 0x80, 0x8F⟩
  else .refused

/-- A later byte of a character. -/
def Begun.tail (state : Begun) (byte : UInt8) : Step :=
  if state.least ≤ byte && byte ≤ state.greatest then
    let bits := state.bits * 64 + byte.toNat % 64
    if state.owed ≤ 1 then .character (Char.ofNat bits)
    else .begun ⟨bits, state.owed - 1, 0x80, 0xBF⟩
  else .refused

def replacement : Char := '\uFFFD'

/-- Lossy reading from a character begun, if any. -/
def lossyFrom : Option Begun → List UInt8 → List Char
  | none, [] => []
  | some _, [] => [replacement]
  | none, byte :: rest =>
    match lead byte with
    | .character c => c :: lossyFrom none rest
    | .begun state => lossyFrom (some state) rest
    | .refused => replacement :: lossyFrom none rest
  | some state, byte :: rest =>
    match state.tail byte with
    | .character c => c :: lossyFrom none rest
    | .begun next => lossyFrom (some next) rest
    | .refused =>
      match lead byte with
      | .character c => replacement :: c :: lossyFrom none rest
      | .begun next => replacement :: lossyFrom (some next) rest
      | .refused => replacement :: replacement :: lossyFrom none rest

/-- Every maximal stretch that is not UTF-8 becomes one replacement character. -/
def lossy (bytes : List UInt8) : String := String.ofList (lossyFrom none bytes)

/-- Strict reading from a character begun, if any. -/
def charactersFrom : Option Begun → List UInt8 → Option (List Char)
  | none, [] => some []
  | some _, [] => none
  | begun, byte :: rest =>
    match (match begun with | none => lead byte | some state => state.tail byte) with
    | .character c => (charactersFrom none rest).map (c :: ·)
    | .begun state => charactersFrom (some state) rest
    | .refused => none

def decode? (bytes : List UInt8) : Option String :=
  (charactersFrom none bytes).map String.ofList

/-- Number of bytes up to the end of the last whole character before the first fault. `whole`
counts the bytes of whole characters so far, `extra` those of the character begun. -/
def validLengthFrom (whole extra : Nat) : Option Begun → List UInt8 → Nat
  | _, [] => whole
  | begun, byte :: rest =>
    match (match begun with | none => lead byte | some state => state.tail byte) with
    | .character _ => validLengthFrom (whole + extra + 1) 0 none rest
    | .begun state => validLengthFrom whole (extra + 1) (some state) rest
    | .refused => whole

def validLength (bytes : List UInt8) : Nat := validLengthFrom 0 0 none bytes

def encode (text : List Char) : List UInt8 := text.flatMap String.utf8EncodeChar

def ofString (text : String) : List UInt8 := encode text.toList

@[simp] theorem encode_append (first second : List Char) :
    encode (first ++ second) = encode first ++ encode second := by
  simp [encode]

end ListWatch.Utf8
