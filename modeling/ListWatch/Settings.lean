import ListWatch.Client.Basic
import ListWatch.Url.Parse

/-!
# Settings of the command

The command is configured by named texts. Each is trimmed, and a blank one
counts as unset. They are looked at in a fixed order, so the first offending one
is named: the server, the path of the API, the resource, the form of the three
numbers, and last the two numbers that must not be zero.
-/
namespace ListWatch

structure Settings where
  server : Url
  token : Option String
  apiPath : String
  resource : String
  scope : Option String
  backoffMs : Nat
  listTimeoutSeconds : Nat
  requestTimeoutMs : Option Nat
  deriving DecidableEq, Repr

inductive SettingsError where
  | missing (key : String)
  | invalid (key value reason : String)
  deriving DecidableEq, Repr

def SettingsError.message : SettingsError → String
  | .missing key => key ++ " is required"
  | .invalid key value reason => "invalid " ++ key ++ "='" ++ value ++ "': " ++ reason

namespace Settings

abbrev Lookup := String → Option String

def serverKey : String := "REPLICA_SERVER"
def tokenKey : String := "REPLICA_TOKEN"
def apiPathKey : String := "REPLICA_API_PATH"
def resourceKey : String := "REPLICA_RESOURCE"
def scopeKey : String := "REPLICA_NAMESPACE"
def backoffKey : String := "REPLICA_BACKOFF_MS"
def listTimeoutKey : String := "REPLICA_LIST_TIMEOUT_SECONDS"
def requestTimeoutKey : String := "REPLICA_REQUEST_TIMEOUT_MS"

def keys : List String :=
  [serverKey, tokenKey, apiPathKey, resourceKey, scopeKey, backoffKey, listTimeoutKey,
    requestTimeoutKey]

def optional (lookup : Lookup) (key : String) : Option String :=
  ((lookup key).map Text.trim).filter fun text => text ≠ ""

def required (lookup : Lookup) (key : String) : Except SettingsError String :=
  match optional lookup key with
  | some text => .ok text
  | none => .error (.missing key)

inductive NumberError where
  | invalidDigit
  | tooLarge
  deriving DecidableEq, Repr

def NumberError.message : NumberError → String
  | .invalidDigit => "invalid digit found in string"
  | .tooLarge => "number too large to fit in target type"

/-- Reads digits from the front, so the first offence is told: a number that has become too large
or a character that is no digit. -/
def readDigits (greatest value : Nat) : List Char → Except NumberError Nat
  | [] => .ok value
  | c :: rest =>
    if !c.isDigit then .error .invalidDigit
    else
      let next := value * 10 + (c.toNat - 0x30)
      if greatest < next then .error .tooLarge else readDigits greatest next rest

/-- Digits after an optional plus sign. -/
def readNumber (greatest : Nat) (text : String) : Except NumberError Nat :=
  match text.toList with
  | ['+'] => .error .invalidDigit
  | '+' :: digits => readDigits greatest 0 digits
  | digits => readDigits greatest 0 digits

def number (lookup : Lookup) (key : String) (greatest : Nat) :
    Except SettingsError (Option Nat) :=
  match optional lookup key with
  | none => .ok none
  | some text =>
    match readNumber greatest text with
    | .ok n => .ok (some n)
    | .error reason => .error (.invalid key text reason.message)

def readServer (text : String) : Except SettingsError Url :=
  match Url.parse text with
  | .error error => .error (.invalid serverKey text error.message)
  | .ok url =>
    if url.isBase then .ok url
    else .error (.invalid serverKey text "must be an absolute http(s) URL")

def notZero (key : String) (n : Option Nat) : Except SettingsError Unit :=
  if n = some 0 then .error (.invalid key "0" "must be at least 1") else .ok ()

def read (lookup : Lookup) : Except SettingsError Settings := do
  let server ← readServer (← required lookup serverKey)
  let apiPath ← required lookup apiPathKey
  if apiPath.toList.head? ≠ some '/' then
    throw (.invalid apiPathKey apiPath "must start with '/'")
  let resource ← required lookup resourceKey
  let backoffMs ← number lookup backoffKey (UInt64.size - 1)
  let listTimeoutSeconds ← number lookup listTimeoutKey (UInt32.size - 1)
  let requestTimeoutMs ← number lookup requestTimeoutKey (UInt64.size - 1)
  -- Zero is looked for only once all three are known to be numbers.
  notZero listTimeoutKey listTimeoutSeconds
  notZero requestTimeoutKey requestTimeoutMs
  return {
    server
    token := optional lookup tokenKey
    apiPath
    resource
    scope := optional lookup scopeKey
    backoffMs := backoffMs.getD defaultRelistDelay.toNat
    listTimeoutSeconds := listTimeoutSeconds.getD defaultListTimeout
    requestTimeoutMs }

def collection (settings : Settings) : Collection := ⟨settings.apiPath, settings.resource⟩

def options (settings : Settings) : Options :=
  { backoff := .fixed settings.backoffMs, listTimeoutSeconds := settings.listTimeoutSeconds }

def credential (settings : Settings) : Credential :=
  match settings.token with
  | some token => .fixed token
  | none => .anonymous

def client (settings : Settings) : Client :=
  { server := settings.server, collection := settings.collection, scope := settings.scope }

end Settings

end ListWatch
