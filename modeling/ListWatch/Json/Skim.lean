import ListWatch.Json.Token

/-!
# Skimming a value

The values of members that nobody asked for are passed over. Their brackets are
kept on a stack, so nesting is not bounded, and only the form is checked.
-/
namespace ListWatch.Json.Reader

inductive Bracket where
  | list
  | object
  deriving DecidableEq, Repr

/-- What is to be read next inside the open brackets. -/
inductive Goal where
  | value
  | first
  | next
  deriving DecidableEq, Repr

def Bracket.close : Bracket → UInt8
  | .list => 0x5D
  | .object => 0x7D

def Bracket.unfinished : Bracket → Cause
  | .list => .endInList
  | .object => .endInObject

def Bracket.separator : Bracket → Cause
  | .list => .expectedListSeparator
  | .object => .expectedObjectSeparator

/-- The key before a value, inside an object. -/
def skimKey : Bracket → Reader Unit
  | .list => pure ()
  | .object => do
    match ← peekToken with
    | some 0x22 => eat
    | some _ => failNext .keyNotString
    | none => failNext .endInObject
    skimString
    match ← peekToken with
    | some 0x3A => eat
    | some _ => failNext .expectedColon
    | none => failNext .endInObject

/-- Skims a scalar, or opens a bracket and returns it. -/
def skimStart : Reader (Option Bracket) := do
  match ← peekToken with
  | none => failNext .endInValue
  | some 0x6E => eat; nullTail; pure none
  | some 0x74 => eat; trueTail; pure none
  | some 0x66 => eat; falseTail; pure none
  | some 0x2D => eat; skimNumber; pure none
  | some 0x22 => eat; skimString; pure none
  | some 0x5B => eat; pure (some .list)
  | some 0x7B => eat; pure (some .object)
  | some byte =>
    if isDigit byte then
      skimNumber
      pure none
    else failNext .expectedValue

def skimFrom : (fuel : Nat) → Goal → List Bracket → Reader Unit
  | 0, _, _ => failHere .expectedValue
  | fuel + 1, .value, stack => do
    match ← skimStart with
    | some bracket => skimFrom fuel .first (bracket :: stack)
    | none => skimFrom fuel .next stack
  | _ + 1, .first, [] | _ + 1, .next, [] => pure ()
  | fuel + 1, .first, bracket :: stack => do
    match ← peekToken with
    | none => failNext bracket.unfinished
    | some byte =>
      if byte = bracket.close then
        eat
        skimFrom fuel .next stack
      else
        skimKey bracket
        skimFrom fuel .value (bracket :: stack)
  | fuel + 1, .next, bracket :: stack => do
    match ← peekToken with
    | none => failNext bracket.unfinished
    | some byte =>
      if byte = 0x2C then
        eat
        skimKey bracket
        skimFrom fuel .value (bracket :: stack)
      else if byte = bracket.close then
        eat
        skimFrom fuel .next stack
      else failNext bracket.separator

/-- Passes over one value. Every second step eats a byte. -/
def skim : Reader Unit := do skimFrom (2 * (← budget) + 1) .value []

end ListWatch.Json.Reader
