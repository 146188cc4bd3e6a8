import ListWatch.Text.Composition
import ListWatch.Text.Direction
import ListWatch.Text.Folding
import ListWatch.Text.Joining
import ListWatch.Text.Printable
import ListWatch.Url.Punycode

/-!
# Labels of domains

A domain is spelled in one way: its characters are folded and composed. A label with characters
outside ASCII is written as `xn--` and its Punycode, and a label that starts so must stand for one
that would be written so. A label starts with no mark, its joiners join something, and in a domain
with letters from right to left each label keeps to one direction.
-/
namespace ListWatch.Label

def marker : List Char := ['x', 'n', '-', '-']

/-- How many characters a label may have if some are outside ASCII. -/
def greatestLength : Nat := 1000

/-- How many characters may follow the marker. -/
def greatestCode : Nat := 2000

def isAscii (c : Char) : Bool := c.toNat < 0x80

/-! ## Spelling -/

/-- The joiner and what keeps letters apart, allowed where they make a difference. -/
def joiner : Char := '\u200D'
def nonJoiner : Char := '\u200C'

def isJoiner (c : Char) : Bool := c = joiner || c = nonJoiner

/-- Characters that describe others or stand for them. -/
def placeholderRanges : List (Nat × Nat) := [(0x2FF0, 0x2FFF), (0x31EF, 0x31EF), (0xFFFC, 0xFFFD)]

/-- Variants of texts with a full stop, which would part a label. -/
def stopRanges : List (Nat × Nat) := [
  (0x2024, 0x2026), (0x2488, 0x249B), (0x33C2, 0x33C2), (0x33C7, 0x33C7), (0x33D8, 0x33D8),
  (0xFE12, 0xFE12), (0xFE19, 0xFE19), (0xFE30, 0xFE30), (0xFE52, 0xFE52), (0x1F100, 0x1F100)]

def isAllowed (c : Char) : Bool :=
  isAscii c || isJoiner c
    || ((!Text.isHidden c || Text.isMark c) && !Text.isFolded c
      && !Text.within (placeholderRanges ++ stopRanges) c)

/-- What a character is spelled with, if it is allowed once it is folded. -/
def spelling? (c : Char) : Option (List Char) :=
  Text.fold? c <|> if isAllowed c then some [c] else none

/-- How a domain is spelled. In ASCII only letters are folded, and nothing is composed. -/
def spell? (domain : List Char) : Option (List Char) :=
  if domain.all isAscii then some (domain.map Char.toLower)
  else (domain.mapM spelling?).map fun parts => Text.compose parts.flatten

/-! ## Validity -/

/-- Whether a letter that joins the next one stands before, and one that joins the last one after,
attached marks aside; the text before is held last character first. -/
def keepsApart (before after : List Char) : Bool :=
  ((before.dropWhile Text.isAttached).head?.any Text.joinsForward)
    && ((after.dropWhile Text.isAttached).head?.any Text.joinsBackward)

/-- Whether each joiner follows a vowel killer, or keeps apart what would be joined. -/
def joinersFit (before : List Char) : List Char → Bool
  | [] => true
  | c :: rest =>
    (!isJoiner c || before.head?.any Text.isVowelKiller
        || (c = nonJoiner && keepsApart before rest))
      && joinersFit (c :: before) rest

/-- Whether the characters of a label fit beside each other. -/
def isFitting (label : List Char) : Bool :=
  !label.head?.any Text.isMark && joinersFit [] label
    && (label.all isAscii || label.length ≤ greatestLength)

/-- Whether a label is one to be written with the marker. -/
def isMarked (label : List Char) : Bool :=
  label.all isAllowed && Text.compose label = label && isFitting label && label.take 4 ≠ marker
    && !label.all isAscii

/-- What a spelled label stands for, if it is valid. -/
def read? (label : List Char) : Option (List Char) :=
  if label.take 4 = marker then
    if label.all isAscii && label.length ≤ marker.length + greatestCode then
      (Punycode.decode? (label.drop 4)).filter isMarked
    else none
  else (some label).filter isFitting

/-- Whether a label keeps to one direction, attached marks at its end aside. -/
def isDirected (label : List Char) : Bool :=
  match label.map Text.direction with
  | [] => true
  | first :: more =>
    let body := (more.reverse.dropWhile (· = .attached)).reverse
    match first with
    | .leftToRight =>
      body.getLast?.all [.leftToRight, .europeanNumber].contains
        && body.all [.leftToRight, .europeanNumber, .neutral, .attached].contains
    | .rightToLeft =>
      body.getLast?.all [.rightToLeft, .europeanNumber, .arabicNumber].contains
        && !body.contains .leftToRight
        && !(body.contains .europeanNumber && body.contains .arabicNumber)
    | _ => false

def runsRightToLeft (label : List Char) : Bool :=
  label.any fun c => [.rightToLeft, .arabicNumber].contains (Text.direction c)

/-! ## Writing -/

def write (label : List Char) : List Char :=
  if label.all isAscii then label else marker ++ Punycode.encode label

/-- The spelled labels of a domain in ASCII, if they are valid beside each other. -/
def writeAll? (labels : List (List Char)) : Option (List Char) :=
  match labels.mapM read? with
  | some texts =>
    if texts.any runsRightToLeft && !texts.all isDirected then none
    else some (['.'].intercalate (labels.map write))
  | none => none

end ListWatch.Label
