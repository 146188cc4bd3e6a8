import ListWatch.Json.Number
import ListWatch.Json.Value
import ListWatch.Text.Utf8

/-!
# Writing JSON

Values are written without blanks. In a string only the quote, the backslash
and the controls below the blank are escaped; all other characters stand for
themselves.
-/
namespace ListWatch.Json

def hexDigit (n : Nat) : Char := (Nat.digitChar (n % 16))

def escaped (c : Char) : List Char :=
  if c = '"' then ['\\', '"']
  else if c = '\\' then ['\\', '\\']
  else if c.toNat = 0x08 then ['\\', 'b']
  else if c.toNat = 0x0C then ['\\', 'f']
  else if c = '\n' then ['\\', 'n']
  else if c = '\r' then ['\\', 'r']
  else if c = '\t' then ['\\', 't']
  else if c.toNat < 0x20 then
    ['\\', 'u', '0', '0', hexDigit (c.toNat / 16), hexDigit c.toNat]
  else [c]

def stringText (text : String) : List Char :=
  '"' :: text.toList.flatMap escaped ++ ['"']

def Number.text : Number → List Char
  | .integer n => integerText n
  | .float x => floatCharacters x

mutual
def Value.characters : Value → List Char
  | .null => ['n', 'u', 'l', 'l']
  | .boolean true => ['t', 'r', 'u', 'e']
  | .boolean false => ['f', 'a', 'l', 's', 'e']
  | .number n => n.text
  | .string text => stringText text
  | .list [] => ['[', ']']
  | .list (first :: rest) => '[' :: (first.characters ++ Value.elementCharacters rest)
  | .object [] => ['\x7b', '\x7d']
  | .object ((key, first) :: rest) =>
    '\x7b' :: (stringText key ++ ':' :: (first.characters ++ Value.memberCharacters rest))
def Value.elementCharacters : List Value → List Char
  | [] => [']']
  | value :: rest => ',' :: (value.characters ++ Value.elementCharacters rest)
def Value.memberCharacters : List (String × Value) → List Char
  | [] => ['\x7d']
  | (key, value) :: rest =>
    ',' :: (stringText key ++ ':' :: (value.characters ++ Value.memberCharacters rest))
end

def Value.render (value : Value) : String := String.ofList value.characters

def Value.bytes (value : Value) : List UInt8 := Utf8.encode value.characters

end ListWatch.Json
