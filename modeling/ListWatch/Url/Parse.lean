import ListWatch.Url.Basic
import ListWatch.Url.Host
import ListWatch.Text.Blank

/-!
# Reading URLs

The text loses controls and blanks around it, and tabs and line ends anywhere; in
a path they are dropped when its segments are written. First comes the scheme,
and what follows depends on it: special schemes always have a host and take
backslashes for slashes; files have a host only after two slashes; any other
scheme has an authority after two slashes, a divided path after one, and an
undivided path otherwise. Dot segments are resolved while the path is read.
-/
namespace ListWatch.Url

def isSchemeCharacter (c : Char) : Bool := c.isAlphanum || c = '+' || c = '-' || c = '.'

/-- The scheme in lower case, and what follows its colon. -/
def splitScheme? (text : List Char) : Option (String × List Char) :=
  let inName := fun c => isSchemeCharacter c || isDropped c
  match withoutDropped (text.takeWhile inName), text.dropWhile inName with
  | first :: more, ':' :: rest =>
    if first.isAlpha then some (String.ofList ((first :: more).map Char.toLower), rest) else none
  | _, _ => none

/-- Whether a character separates segments. -/
def isSeparator (special : Bool) (c : Char) : Bool := c = '/' || (special && c = '\\')

def isPathEnd (c : Char) : Bool := c = '?' || c = '#'

def isAuthorityEnd (special : Bool) (c : Char) : Bool := isSeparator special c || isPathEnd c

/-! ## Paths -/

def isSingleDot (segment : String) : Bool :=
  segment = "." || segment = "%2e" || segment = "%2E"

def isDoubleDot (segment : String) : Bool :=
  [".", "%2e", "%2E"].any fun first =>
    [".", "%2e", "%2E"].any fun second => segment = first ++ second

/-- The segments read so far, and whether the first was a drive letter when it was read. -/
structure Trail where
  segments : List String := []
  onDrive : Bool := false
  deriving DecidableEq, Repr

/-- Takes the text of one segment into the path; `more` tells whether a separator follows it. -/
def Trail.take (scheme : String) (trail : Trail) (text : List Char) (more : Bool) : Trail :=
  let segment := Percent.encode Percent.inPath (withoutDropped text)
  if isDoubleDot segment then
    let shorter := stepUp trail.segments
    { trail with segments := if more then shorter else shorter ++ [""] }
  else if isSingleDot segment then
    { trail with segments := if more then trail.segments else trail.segments ++ [""] }
  else
    { segments := trail.segments ++ writeSegment Percent.inPath scheme trail.segments text
      onDrive := trail.onDrive || (trail.segments.isEmpty && isDriveLetter segment) }

/-- Reads the segments of a path; `begun` is the segment begun, last first. -/
def Trail.read (scheme : String) (trail : Trail) (begun : List Char) : List Char → Trail
  | [] => trail.take scheme begun.reverse false
  | c :: rest =>
    if isSeparator (isSpecialScheme scheme) c then
      Trail.read scheme (trail.take scheme begun.reverse true) [] rest
    else trail.read scheme (c :: begun) rest

def Trail.path (scheme : String) (trail : Trail) : UrlPath :=
  .segments (collapseFront scheme trail.segments)

/-- The way along a text that starts with its first segment. -/
def walk (scheme : String) (text : List Char) : Trail := Trail.read scheme {} [] text

/-- The way along the text after an authority. Special schemes always have a path. -/
def walkAfterAuthority (scheme : String) (text : List Char) : Trail :=
  match text with
  | [] => if isSpecialScheme scheme then { segments := [""] } else {}
  | c :: rest => walk scheme (if isSeparator (isSpecialScheme scheme) c then rest else text)

/-! ## Query and fragment -/

/-- The text before the query, the query and the fragment. -/
def splitTail (text : List Char) : List Char × Option (List Char) × Option (List Char) :=
  let beforeFragment := text.takeWhile (· ≠ '#')
  let fragment := match text.dropWhile (· ≠ '#') with
    | _ :: rest => some rest
    | [] => none
  let path := beforeFragment.takeWhile (· ≠ '?')
  let query := match beforeFragment.dropWhile (· ≠ '?') with
    | _ :: rest => some rest
    | [] => none
  (path, query, fragment)

def withTail (url : Url) (query fragment : Option (List Char)) : Url :=
  let set := if url.isSpecial then Percent.inSpecialQuery else Percent.inQuery
  { url with
    query := query.map fun text => Percent.encode set (withoutDropped text)
    fragment := fragment.map fun text => Percent.encode Percent.inFragment (withoutDropped text) }

/-! ## Authorities -/

/-- The text before the last at sign, if there is one, and the text after it. -/
def splitUserinfo (text : List Char) : Option (List Char) × List Char :=
  match text.reverse.span (· ≠ '@') with
  | (_, []) => (none, text)
  | (after, _ :: before) => (some before.reverse, after.reverse)

def readUserinfo (text : List Char) : Authority :=
  let name := text.takeWhile (· ≠ ':')
  let password := match text.dropWhile (· ≠ ':') with
    | _ :: [] => none
    | _ :: rest => some (Percent.encode Percent.inUserinfo rest)
    | [] => none
  { username := Percent.encode Percent.inUserinfo name, password }

/-- The text up to the colon of the port; colons in brackets belong to the host. -/
def splitPort (bracketed : Bool) : List Char → List Char × Option (List Char)
  | [] => ([], none)
  | c :: rest =>
    if c = ':' && !bracketed then ([], some rest)
    else
      let inside := if c = '[' then true else if c = ']' then false else bracketed
      let (host, port) := splitPort inside rest
      (c :: host, port)

/-- The port of its digits, none if it is empty or the scheme's own. -/
def readPort (scheme : String) (digits : List Char) : Except UrlError (Option Nat) :=
  let value := digits.foldl (fun value c => value * 10 + (c.toNat - 0x30)) 0
  if !digits.all Char.isDigit || 65535 < value then .error .invalidPort
  else if digits.isEmpty || defaultPort? scheme = some value then .ok none
  else .ok (some value)

/-- Where a port may end besides the ends of an authority. -/
def untilPortEnd (digits : List Char) : List Char := digits.takeWhile (· ≠ '\\')

/-- The authority in front of the text, and the rest; `tailed` tells whether a query or fragment
follows the text. -/
def readAuthority (scheme : String) (tailed : Bool) (text : List Char) :
    Except UrlError (Authority × List Char) := do
  let special := isSpecialScheme scheme
  let inside := withoutDropped (text.takeWhile fun c => !isAuthorityEnd special c)
  let rest := text.dropWhile fun c => !isAuthorityEnd special c
  let (userinfo, hostAndPort) := splitUserinfo inside
  let user := (userinfo.map readUserinfo).getD {}
  let (hostText, portText) := splitPort false hostAndPort
  -- An at sign alone is no authority, unless nothing at all comes after it.
  if userinfo = some [] && hostAndPort.isEmpty && (tailed || !rest.isEmpty) then throw .emptyHost
  if hostText.isEmpty && (special || portText.isSome || user.userinfo ≠ "") then throw .emptyHost
  let host ← if special then Host.parseSpecial hostText else Host.parseOther hostText
  match portText with
  | none => return ({ user with host }, rest)
  | some digits =>
    let port ← readPort scheme (untilPortEnd digits)
    return ({ user with host, port }, digits.dropWhile (· ≠ '\\') ++ rest)

/-- The host of a file, empty if there is none or it is the local one, and the text after it. -/
def readFileHost (text : List Char) : Except UrlError (String × List Char) := do
  let inside := withoutDropped (text.takeWhile fun c => !isAuthorityEnd true c)
  let rest := text.dropWhile fun c => !isAuthorityEnd true c
  if inside.isEmpty || isDriveLetter (String.ofList inside) then return ("", text)
  let host ← Host.parseSpecial inside
  return (if host = "localhost" then "" else host, rest)

/-- The text after a separator at the front, if there is one. -/
def afterSeparator? (special : Bool) (text : List Char) : Option (List Char) :=
  match text.dropWhile isDropped with
  | c :: rest => if isSeparator special c then some rest else none
  | [] => none

/-- A file on a drive has no host. A path without a host is read with its slash, which makes the
first segment an empty one. -/
def parseFile (text : List Char) : Except UrlError (Authority × UrlPath) := do
  match afterSeparator? true text with
  -- The path begins at once, and there is no host.
  | none => return ({}, (walk "file" text).path "file")
  | some more =>
    match afterSeparator? true more with
    | none => return ({}, (walk "file" more).path "file")
    | some rest =>
      let (host, after) ← readFileHost rest
      if host = "" then return ({}, (walk "file" after).path "file")
      else
        let trail := walkAfterAuthority "file" after
        return ({ host := if trail.onDrive then "" else host }, trail.path "file")

/-! ## URLs -/

/-- The URL of a path without an authority. -/
def withoutAuthority (scheme : String) (segments : List String) : Url :=
  { scheme, guarded := segments.length > 1 && segments.head? = some "",
    path := .segments segments }

def parseAfterScheme (scheme : String) (text : List Char) : Except UrlError Url := do
  let (before, query, fragment) := splitTail text
  let tailed := query.isSome || fragment.isSome
  let url ←
    if scheme = "file" then do
      let (authority, path) ← parseFile before
      pure ({ scheme, authority := some authority, path } : Url)
    else if isSpecialScheme scheme then do
      let (authority, rest) ← readAuthority scheme tailed
        (before.dropWhile fun c => isSeparator true c || isDropped c)
      let path := (walkAfterAuthority scheme rest).path scheme
      pure { scheme, authority := some authority, path }
    else match afterSeparator? false before with
      | none =>
        pure { scheme, path := .undivided (Percent.encode Percent.control (withoutDropped before)) }
      | some more => match afterSeparator? false more with
        | none => pure (withoutAuthority scheme (walk scheme more).segments)
        | some rest => do
          let (authority, rest) ← readAuthority scheme tailed rest
          let path := (walkAfterAuthority scheme rest).path scheme
          pure { scheme, authority := some authority, path }
  return url.withTail query fragment

def isEdge (c : Char) : Bool := c.toNat ≤ 0x20

def parse (text : String) : Except UrlError Url :=
  match splitScheme? (Text.trimEnds isEdge text.toList) with
  | some (scheme, rest) => parseAfterScheme scheme rest
  | none => .error .relative

end ListWatch.Url
