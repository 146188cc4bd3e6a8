import ListWatch.Url.Percent

/-!
# URLs

A URL has a scheme, perhaps an authority, a path, and perhaps a query and a
fragment. A path is a list of segments, written with a slash before each, or an
undivided text that cannot carry segments. Segments, user names and hosts are
held as they are written, that is, encoded. A segment that is pushed is encoded
whole, so it stays one segment; only a dot segment is a step along the path, and
only the letter of a drive is cut off.
-/
namespace ListWatch

structure Authority where
  username : String := ""
  password : Option String := none
  host : String := ""
  port : Option Nat := none
  deriving DecidableEq, Repr, Inhabited

inductive UrlPath where
  | undivided (text : String)
  | segments (list : List String)
  deriving DecidableEq, Repr, Inhabited

/-- A guarded path is written after a dot segment, so that its empty first segment is not taken
for an authority. -/
structure Url where
  scheme : String
  authority : Option Authority := none
  guarded : Bool := false
  path : UrlPath := .segments []
  query : Option String := none
  fragment : Option String := none
  deriving DecidableEq, Repr, Inhabited

def specialSchemes : List String := ["http", "https", "ws", "wss", "ftp", "file"]

def isSpecialScheme (scheme : String) : Bool := specialSchemes.contains scheme

def defaultPort? (scheme : String) : Option Nat :=
  if scheme = "http" ∨ scheme = "ws" then some 80
  else if scheme = "https" ∨ scheme = "wss" then some 443
  else if scheme = "ftp" then some 21
  else none

namespace Authority

def userinfo (authority : Authority) : String :=
  match authority.password with
  | some password => authority.username ++ ":" ++ password ++ "@"
  | none => if authority.username = "" then "" else authority.username ++ "@"

def render (authority : Authority) : String :=
  authority.userinfo ++ authority.host
    ++ (match authority.port with | some port => ":" ++ toString port | none => "")

/-- The authority without user name and password. They stay when the name is not text, and when
there is no name and the password is not text. -/
def withoutUserinfo (authority : Authority) : Authority :=
  match Percent.text? authority.username with
  | none => authority
  | some name =>
    if name = "" && (authority.password.bind Percent.text?).isNone then authority
    else { authority with username := "", password := none }

end Authority

def segmentsText (segments : List String) : String :=
  String.join (segments.map fun segment => "/" ++ segment)

namespace Url

def isSpecial (url : Url) : Bool := isSpecialScheme url.scheme

/-- Whether the path is divided into segments. -/
def isBase (url : Url) : Bool :=
  match url.path with
  | .segments _ => true
  | .undivided _ => false

def pathText (url : Url) : String :=
  (if url.guarded then "/." else "") ++ (match url.path with
    | .undivided text => text
    | .segments list => segmentsText list)

def render (url : Url) : String :=
  url.scheme ++ ":"
    ++ (match url.authority with | some authority => "//" ++ authority.render | none => "")
    ++ url.pathText
    ++ (match url.query with | some query => "?" ++ query | none => "")
    ++ (match url.fragment with | some fragment => "#" ++ fragment | none => "")

/-- The URL without user name and password. -/
def withoutUserinfo (url : Url) : Url :=
  { url with authority := url.authority.map Authority.withoutUserinfo }

/-- The URL without query and fragment. -/
def bare (url : Url) : Url := { url with query := none, fragment := none }

end Url

/-! ## Drives

A file path may begin with the letter of a drive. Such a segment stays where it is
whatever steps follow it.
-/

/-- Whether the characters are a letter and the mark of a drive. -/
def isDriveMark (letter mark : Char) : Bool := letter.isAlpha && (mark = ':' || mark = '|')

def isDriveLetter (segment : String) : Bool :=
  match segment.toList with
  | [letter, mark] => isDriveMark letter mark
  | _ => false

/-- A drive letter, or a segment that goes on with a backslash after one. -/
def startsWithDrive (segment : String) : Bool :=
  match segment.toList with
  | [letter, mark] => isDriveMark letter mark
  | letter :: mark :: next :: _ => isDriveMark letter mark && next = '\\'
  | _ => false

/-- One step up. Whatever the scheme, it does not leave a drive. -/
def stepUp (segments : List String) : List String :=
  if (segments.getLast?.map startsWithDrive).getD false then segments else segments.dropLast

/-! ## Dropped characters -/

/-- Tabs and line ends are dropped wherever they stand. -/
def isDropped (c : Char) : Bool := c = '\t' || c = '\n' || c = '\r'

def withoutDropped (text : List Char) : List Char := text.filter fun c => !isDropped c

/-- The drive letter of a file path is written with a colon. -/
def normalizeDrive (segment : String) : String :=
  if isDriveLetter segment then String.ofList (segment.toList.take 1 ++ [':']) else segment

/-- A drive letter with its colon, and the text that goes on behind a dropped character. -/
def cutDrive? (text : List Char) : Option (String × List Char) :=
  match withoutDropped (text.takeWhile (· ≠ ':')), text.dropWhile (· ≠ ':') with
  | [letter], _ :: next :: more =>
    let rest := withoutDropped more
    if letter.isAlpha && isDropped next && !rest.isEmpty then
      some (String.ofList [letter, ':'], rest)
    else none
  | _, _ => none

/-- The segments that the text of one becomes after the segments before it. At the front of a file
path a drive letter is a segment of its own. -/
def writeSegment (set : Percent.ByteSet) (scheme : String) (before : List String)
    (text : List Char) : List String :=
  let whole := Percent.encode set (withoutDropped text)
  if scheme = "file" && before.isEmpty then
    match cutDrive? text with
    | some (drive, rest) => [drive, Percent.encode set rest]
    | none => [normalizeDrive whole]
  else [whole]

/-! ## Pushing segments -/

/-- Removes the empty segment at the end of a path longer than a slash. -/
def popIfEmpty (segments : List String) : List String :=
  if segments.length > 1 && segments.getLast? = some "" then segments.dropLast else segments

/-- The path before a new segment: the one of a lone slash is replaced. -/
def pushBase (segments : List String) : List String :=
  if segments = [""] then [] else segments

/-- A path of files starts with one slash. -/
def collapseFront (scheme : String) (segments : List String) : List String :=
  if scheme = "file" then
    match segments.dropWhile (· = "") with
    | [] => [""]
    | rest => rest
  else segments

/-- Pushes one segment. A segment that is a dot or two before tabs and line ends are dropped is
passed over; one that is so only after it is a step. -/
def pushSegment (scheme : String) (segments : List String) (segment : String) : List String :=
  if segment = "." ∨ segment = ".." then segments
  else
    let kept := withoutDropped segment.toList
    let set := if isSpecialScheme scheme then Percent.inSpecialSegment else Percent.inSegment
    let base := pushBase segments
    if kept = ['.', '.'] then collapseFront scheme (stepUp base ++ [""])
    else if kept = ['.'] then collapseFront scheme (base ++ [""])
    else collapseFront scheme (base ++ writeSegment set scheme base segment.toList)

def pushSegments (scheme : String) (segments : List String) (new : List String) : List String :=
  new.foldl (pushSegment scheme) segments

namespace Url

/-- Pushes segments onto a divided path. -/
def push (url : Url) (new : List String) : Url :=
  match url.path with
  | .segments list => { url with path := .segments (pushSegments url.scheme list new) }
  | .undivided _ => url

/-- The query of name and value pairs. -/
def withPairs (url : Url) (pairs : List (String × String)) : Url :=
  { url with
    query := some ("&".intercalate (pairs.map fun pair =>
      Percent.formEncode pair.1 ++ "=" ++ Percent.formEncode pair.2)) }

end Url

end ListWatch
