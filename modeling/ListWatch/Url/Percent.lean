import ListWatch.Text.Utf8

/-!
# Percent encoding

Each place in a URL has a set of bytes that must not stand there as themselves.
They are written as a percent sign and two upper-case digits; bytes outside
ASCII and controls always are. Query values are form-encoded instead, with a
plus sign for a blank.
-/
namespace ListWatch.Percent

abbrev ByteSet := UInt8 → Bool

def control : ByteSet := fun byte => byte < 0x20 || 0x7F ≤ byte

def having (base : ByteSet) (characters : List Char) : ByteSet := fun byte =>
  base byte || characters.any fun c => c.toNat = byte.toNat

def inFragment : ByteSet := having control [' ', '"', '<', '>', '\x60']
def inPath : ByteSet := having inFragment ['#', '?', '\x7b', '\x7d']
def inUserinfo : ByteSet := having inPath ['/', ':', ';', '=', '@', '[', '\\', ']', '^', '|']
def inQuery : ByteSet := having control [' ', '"', '#', '<', '>']
def inSpecialQuery : ByteSet := having inQuery ['\'']
def inSegment : ByteSet := having inPath ['/', '%']
def inSpecialSegment : ByteSet := having inSegment ['\\']

def hexDigit (n : Nat) : Char := (Nat.digitChar (n % 16)).toUpper

def encodeByte (byte : UInt8) : List Char :=
  ['%', hexDigit (byte.toNat / 16), hexDigit byte.toNat]

def encodeWith (set : ByteSet) (byte : UInt8) : List Char :=
  if set byte then encodeByte byte else [Char.ofNat byte.toNat]

def encode (set : ByteSet) (text : List Char) : String :=
  String.ofList ((Utf8.encode text).flatMap (encodeWith set))

def hexValue? (c : Char) : Option Nat :=
  if c.isDigit then some (c.toNat - 0x30)
  else if 'A' ≤ c ∧ c ≤ 'F' then some (c.toNat - 0x41 + 10)
  else if 'a' ≤ c ∧ c ≤ 'f' then some (c.toNat - 0x61 + 10)
  else none

/-- The bytes of a percent-encoded text. A percent sign that starts no encoded byte is itself. -/
def decode : List Char → List UInt8
  | [] => []
  | '%' :: high :: low :: rest =>
    match hexValue? high, hexValue? low with
    | some high, some low => UInt8.ofNat (high * 16 + low) :: decode rest
    | _, _ => 0x25 :: decode (high :: low :: rest)
  | c :: rest => String.utf8EncodeChar c ++ decode rest

/-- The text of a percent-encoded part, if its bytes are UTF-8. -/
def text? (part : String) : Option String := Utf8.decode? (decode part.toList)

def isFormPlain (byte : UInt8) : Bool :=
  (0x30 ≤ byte && byte ≤ 0x39) || (0x41 ≤ byte && byte ≤ 0x5A) || (0x61 ≤ byte && byte ≤ 0x7A)
    || byte = 0x2A || byte = 0x2D || byte = 0x2E || byte = 0x5F

def formByte (byte : UInt8) : List Char :=
  if isFormPlain byte then [Char.ofNat byte.toNat]
  else if byte = 0x20 then ['+']
  else encodeByte byte

def formEncode (text : String) : String :=
  String.ofList ((Utf8.ofString text).flatMap formByte)

end ListWatch.Percent
