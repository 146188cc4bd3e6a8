import ListWatch.Json.Fault

/-!
# The text being read

A reader takes the bytes still to come and the position reached. A fault is
placed either at the position reached, when the last byte eaten shows it, or one
byte further, when the byte to come shows it.
-/
namespace ListWatch.Json

structure Input where
  rest : List UInt8
  position : Position := Position.start
  deriving DecidableEq, Repr

abbrev Reader (α : Type) := StateT Input (Except Fault) α

namespace Reader

def isBlank (byte : UInt8) : Bool :=
  byte = 0x20 || byte = 0x0A || byte = 0x09 || byte = 0x0D

def isDigit (byte : UInt8) : Bool := 0x30 ≤ byte && byte ≤ 0x39

def Input.eat : Input → Input
  | ⟨[], position⟩ => ⟨[], position⟩
  | ⟨byte :: rest, position⟩ => ⟨rest, position.after byte⟩

def skipBlanksFrom : List UInt8 → Position → Input
  | [], position => ⟨[], position⟩
  | byte :: rest, position =>
    if isBlank byte then skipBlanksFrom rest (position.after byte) else ⟨byte :: rest, position⟩

/-- The byte to come. -/
def peek : Reader (Option UInt8) := do return (← get).rest.head?

def eat : Reader Unit := modify Input.eat

/-- The byte to come after blanks. -/
def peekToken : Reader (Option UInt8) := do
  modify fun input => skipBlanksFrom input.rest input.position
  peek

def failHere {α : Type} (cause : Cause) : Reader α := do
  throw ⟨cause, some (← get).position⟩

def failNext {α : Type} (cause : Cause) : Reader α := do
  throw ⟨cause, some (Input.eat (← get)).position⟩

/-- A bound on the steps of any loop that eats a byte in each. -/
def budget : Reader Nat := do return (← get).rest.length + 1

/-- The bytes of a word after its first. -/
def word : List UInt8 → Reader Unit
  | [] => pure ()
  | expected :: more => do
    match ← peek with
    | none => failHere .endInValue
    | some byte =>
      eat
      if byte = expected then word more else failHere .expectedWord

def nullTail : Reader Unit := word [0x75, 0x6C, 0x6C]
def trueTail : Reader Unit := word [0x72, 0x75, 0x65]
def falseTail : Reader Unit := word [0x61, 0x6C, 0x73, 0x65]

end Reader

end ListWatch.Json
