import ListWatch.Text.Parts
import ListWatch.Url.Label
import ListWatch.Url.Percent

/-!
# Hosts

A host is a domain, an IPv4 address in any of its spellings, or an IPv6 address
in brackets. A domain whose last label is a number must be an IPv4 address.
Hosts of schemes that are not special are kept as they are written.
-/
namespace ListWatch

inductive UrlError where
  | relative
  | emptyHost
  | invalidPort
  | invalidIpv4
  | invalidIpv6
  | invalidDomainName
  | invalidDomainCharacter
  deriving DecidableEq, Repr

def UrlError.message : UrlError → String
  | .relative => "relative URL without a base"
  | .emptyHost => "empty host"
  | .invalidPort => "invalid port number"
  | .invalidIpv4 => "invalid IPv4 address"
  | .invalidIpv6 => "invalid IPv6 address"
  | .invalidDomainName => "invalid international domain name"
  | .invalidDomainCharacter => "invalid domain character"

namespace Host

/-! ## IPv4 -/

/-- The value of a label in one of the three notations, if it is a number. -/
def ipv4Number? (label : List Char) : Option Nat :=
  let (base, digits) := match label with
    | '0' :: 'x' :: rest | '0' :: 'X' :: rest => (16, rest)
    | '0' :: second :: rest => (8, second :: rest)
    | other => (10, other)
  if label.isEmpty then none
  else digits.foldl
    (fun value c => do
      let value ← value
      let digit ← Percent.hexValue? c
      if digit < base then some (value * base + digit) else none)
    (some 0)

/-- The labels of a domain, without an empty one at the end. -/
def labels (domain : List Char) : List (List Char) :=
  let parts := Text.splitAt '.' domain
  if parts.length > 1 && parts.getLast? = some [] then parts.dropLast else parts

def endsInNumber (domain : List Char) : Bool :=
  match (labels domain).getLast? with
  | some last => (!last.isEmpty && last.all Char.isDigit) || (ipv4Number? last).isSome
  | none => false

/-- The address of the labels' values: each but the last gives one byte. -/
def ipv4Value : (weight : Nat) → List Nat → Option Nat
  | _, [] => none
  | weight, [last] => if last < weight * 256 then some last else none
  | weight, first :: rest =>
    if first ≤ 255 then (ipv4Value (weight / 256) rest).map (first * weight + ·) else none

def ipv4Text (address : Nat) : String :=
  ".".intercalate
    ([256 * 256 * 256, 256 * 256, 256, 1].map fun weight => toString (address / weight % 256))

def parseIpv4 (domain : List Char) : Except UrlError String :=
  let parts := (labels domain).map ipv4Number?
  if parts.length > 4 then .error .invalidIpv4
  else match parts.mapM id >>= ipv4Value (256 * 256 * 256) with
    | some address => .ok (ipv4Text address)
    | none => .error .invalidIpv4

/-! ## IPv6 -/

def isHex (c : Char) : Bool := (Percent.hexValue? c).isSome

def hexNumber (digits : List Char) : Nat :=
  digits.foldl (fun value c => value * 16 + (Percent.hexValue? c).getD 0) 0

/-- A byte of an embedded IPv4 address: no leading zero, at most 255. -/
def embeddedByte? (digits : List Char) : Option Nat :=
  let value := digits.foldl (fun value c => value * 10 + (c.toNat - 0x30)) 0
  if digits.isEmpty || !digits.all Char.isDigit || value > 255
      || (digits.length > 1 && digits.head? = some '0') then none
  else some value

/-- The last two pieces, written as an IPv4 address. -/
def embeddedPieces? (text : List Char) : Option (List Nat) :=
  match (Text.splitAt '.' text).map embeddedByte? with
  | [some a, some b, some c, some d] => some [a * 256 + b, c * 256 + d]
  | _ => none

/-- The pieces so far and where the run of zeros belongs. -/
structure Pieces where
  pieces : List Nat := []
  gap : Option Nat := none
  deriving DecidableEq, Repr

def Pieces.push (state : Pieces) (piece : Nat) : Pieces :=
  { state with pieces := state.pieces ++ [piece] }

/-- Marks the run of zeros, which counts as a piece. -/
def Pieces.mark (state : Pieces) : Pieces :=
  { pieces := state.pieces ++ [0], gap := some (state.pieces.length + 1) }

def readPieces : (fuel : Nat) → Pieces → List Char → Option Pieces
  | 0, _, _ => none
  | _ + 1, state, [] => some state
  | fuel + 1, state, c :: rest =>
    if 8 ≤ state.pieces.length then none
    else if c = ':' then
      if state.gap.isSome then none else readPieces fuel state.mark rest
    else
      let digits := ((c :: rest).takeWhile isHex).take 4
      match (c :: rest).drop digits.length with
      | [] => if digits.isEmpty then none else some (state.push (hexNumber digits))
      -- The digits were the first byte of an IPv4 address, which takes two of the eight pieces.
      | '.' :: _ =>
        if digits.isEmpty || 6 < state.pieces.length then none
        else (embeddedPieces? (c :: rest)).map fun pair =>
          { state with pieces := state.pieces ++ pair }
      | ':' :: more =>
        if more.isEmpty then none
        else readPieces fuel (state.push (hexNumber digits)) more
      | _ => none

def Pieces.complete (state : Pieces) : Option (List Nat) :=
  match state.gap with
  | some index =>
    some (state.pieces.take index ++ List.replicate (8 - state.pieces.length) 0
      ++ state.pieces.drop index)
  | none => if state.pieces.length = 8 then some state.pieces else none

def ipv6Pieces? (text : List Char) : Option (List Nat) :=
  let fuel := text.length + 1
  let state := match text with
    | ':' :: ':' :: rest => readPieces fuel (Pieces.mark {}) rest
    | ':' :: _ => none
    | other => readPieces fuel {} other
  state.bind Pieces.complete

/-- Length of the run of zeros at the front. -/
def zeroRun (pieces : List Nat) : Nat := (pieces.takeWhile (· = 0)).length

/-- Where the first longest run of at least two zeros starts, and its length. -/
def longestZeros (pieces : List Nat) : Option (Nat × Nat) :=
  (List.range pieces.length).foldl
    (fun best start =>
      let run := zeroRun (pieces.drop start)
      if 2 ≤ run && (match best with | some (_, length) => length < run | none => true) then
        some (start, run)
      else best)
    none

def pieceText (piece : Nat) : String := String.ofList (Nat.toDigits 16 piece)

def piecesText (pieces : List Nat) : String := ":".intercalate (pieces.map pieceText)

def ipv6Text (pieces : List Nat) : String :=
  match longestZeros pieces with
  | some (start, length) =>
    "[" ++ piecesText (pieces.take start) ++ "::" ++ piecesText (pieces.drop (start + length)) ++ "]"
  | none => "[" ++ piecesText pieces ++ "]"

/-! ## Hosts -/

def parseBracketed (text : List Char) : Except UrlError String :=
  match text.reverse with
  | ']' :: inner =>
    match ipv6Pieces? (inner.reverse.drop 1) with
    | some pieces => .ok (ipv6Text pieces)
    | none => .error .invalidIpv6
  | _ => .error .invalidIpv6

/-- Characters that no domain holds once it is spelled. -/
def isForbidden (c : Char) : Bool :=
  c.toNat ≤ 0x20 || c.toNat = 0x7F
    || ['%', '#', '/', ':', '<', '>', '?', '@', '[', '\\', ']', '^', '|'].contains c

/-- The domain of a text in ASCII and in small letters. -/
def domain? (text : List Char) : Option (List Char) := do
  let characters ← Utf8.charactersFrom none (Percent.decode text)
  let domain ← Label.spell? characters
  if domain.any isForbidden then none else Label.writeAll? (Text.splitAt '.' domain)

/-- The host of a special scheme. -/
def parseSpecial (text : List Char) : Except UrlError String :=
  if text.head? = some '[' then parseBracketed text
  else match domain? text with
    | none => .error .invalidDomainName
    | some domain =>
      if domain.isEmpty then .error .emptyHost
      else if endsInNumber domain then parseIpv4 domain
      else .ok (String.ofList domain)

/-- Characters that the host of no other scheme holds. -/
def isForbiddenElsewhere (c : Char) : Bool :=
  c.toNat = 0 || [' ', '#', '/', ':', '<', '>', '?', '@', '[', '\\', ']', '^', '|'].contains c

def parseOther (text : List Char) : Except UrlError String :=
  if text.head? = some '[' then parseBracketed text
  else if text.any isForbiddenElsewhere then .error .invalidDomainCharacter
  else .ok (Percent.encode Percent.control text)

end Host

end ListWatch
