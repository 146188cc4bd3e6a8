import ListWatch.Json.Schema
import ListWatch.Json.Skim

/-!
# Reading a document by its schema

The text is read once, from the front, so the first fault in reading order wins.
A fault of the content that no byte shows is placed where the reader stands
after it tried to close the innermost record or list. Nesting is bounded by a
depth that every bracket takes one from, and the recursion is on that depth.
-/
namespace ListWatch.Json

namespace Reader

/-- Whether another element follows; then the reader stands before it. -/
def nextElement (first : Bool) : Reader Bool := do
  match ← peekToken with
  | none => failNext .endInList
  | some 0x5D => pure false
  | some byte =>
    if first then pure true
    else if byte = 0x2C then
      eat
      match ← peekToken with
      -- A list that ends behind a comma is told from one with a value missing.
      | some 0x5D => failNext .trailingComma
      | some _ => pure true
      | none => failNext .endInValue
    else failNext .expectedListSeparator

/-- Whether another member follows; then the reader stands before its key. -/
def nextMember (first : Bool) : Reader Bool := do
  let token ← peekToken
  match token with
  | none => failNext .endInObject
  | some 0x7D => pure false
  | some byte =>
    let key ←
      if first then pure token
      else if byte = 0x2C then do
        eat
        peekToken
      else failNext .expectedObjectSeparator
    match key with
    | some 0x22 => pure true
    | some 0x7D => failNext .trailingComma
    | some _ => failNext .keyNotString
    | none => failNext .endInValue

def colon : Reader Unit := do
  match ← peekToken with
  | some 0x3A => eat
  | some _ => failNext .expectedColon
  | none => failNext .endInObject

/-- The fault that the byte to come shows, as a result. -/
def faultNext (cause : Cause) : Reader (Except Fault Unit) := do
  return .error ⟨cause, some (Input.eat (← get)).position⟩

/-- Tries to eat the end of a list. What it ate stays eaten when that fails. -/
def tryCloseList : Reader (Except Fault Unit) := do
  match ← peekToken with
  | some 0x5D =>
    eat
    pure (.ok ())
  | some 0x2C =>
    eat
    -- The comma is gone by now, so the fault is placed behind it.
    if (← peekToken) = some 0x5D then faultNext .trailingComma else faultNext .trailingCharacters
  | some _ => faultNext .trailingCharacters
  | none => faultNext .endInList

def tryCloseObject : Reader (Except Fault Unit) := do
  match ← peekToken with
  | some 0x7D =>
    eat
    pure (.ok ())
  | some 0x2C => faultNext .trailingComma
  | some _ => faultNext .trailingCharacters
  | none => faultNext .endInObject

def close (attempt : Reader (Except Fault Unit)) : Reader Unit := do
  match ← attempt with
  | .ok () => pure ()
  | .error fault => throw fault

/-- A fault of the content of a record or list. -/
def failClosing {α : Type} (attempt : Reader (Except Fault Unit)) (cause : Cause) : Reader α := do
  discard attempt
  failHere cause

def elements (element : Reader Value) : (fuel : Nat) → (first : Bool) → Reader (List Value)
  | 0, _ => failNext .endInList
  | fuel + 1, first => do
    if ← nextElement first then
      let value ← element
      let rest ← elements element fuel false
      pure (value :: rest)
    else pure []

/-- Folds over the members of an object; `member` is called after the key was read. -/
def members {σ : Type} (member : String → σ → Reader σ) :
    (fuel : Nat) → (first : Bool) → σ → Reader σ
  | 0, _, _ => failNext .endInObject
  | fuel + 1, first, state => do
    if ← nextMember first then
      eat
      let key ← string
      let state ← member key state
      members member fuel false state
    else pure state

/-- Reads past what stands in place of something else, and says what it was. -/
def wrongType {α : Type} (expected : String) : Reader α := do
  match ← peekToken with
  | none => failNext .endInValue
  | some 0x6E => eat; nullTail; failHere (.invalidType .null expected)
  | some 0x74 => eat; trueTail; failHere (.invalidType (.boolean true) expected)
  | some 0x66 => eat; falseTail; failHere (.invalidType (.boolean false) expected)
  | some 0x2D =>
    eat
    let n ← number true
    failHere (.invalidType (.number n) expected)
  | some 0x22 =>
    eat
    let text ← string
    failHere (.invalidType (.string text) expected)
  | some 0x5B => failHere (.invalidType .sequence expected)
  | some 0x7B => failHere (.invalidType .map expected)
  | some byte =>
    if isDigit byte then
      let n ← number false
      failHere (.invalidType (.number n) expected)
    else failNext .expectedValue

def text : Reader String := do
  match ← peekToken with
  | some 0x22 =>
    eat
    string
  | _ => wrongType "a string"

def flag : Reader Value := do
  match ← peekToken with
  | some 0x74 => eat; trueTail; pure (.boolean true)
  | some 0x66 => eat; falseTail; pure (.boolean false)
  | _ => wrongType "a boolean"

def nothing : Reader Value := do
  match ← peekToken with
  | some 0x6E => eat; nullTail; pure .null
  | _ => wrongType "unit"

def wordIn (label : String) (greatest : Nat) : Reader Value := do
  let token ← peekToken
  let n ←
    if token = some 0x2D then do
      eat
      number true
    else if token.any isDigit then number false
    else wrongType label
  match wordOf label greatest n with
  | .ok value => pure value
  | .error cause => failHere cause

/-- One level deeper, past the bracket to come. -/
def enter (depth : Nat) : Reader Unit :=
  if depth = 0 then failNext .tooDeep else eat

/-- The value of a field: null where that is accepted, else by its schema. -/
def nullOr (acceptsNull : Bool) (value : Reader Value) : Reader Value := do
  if acceptsNull && (← peekToken) = some 0x6E then
    eat
    nullTail
    pure .null
  else value

/-- The list form of a record. -/
def fieldElements (read : Schema → Reader Value) (expected : String) :
    Fields → (index : Nat) → Reader Members
  | [], _ => pure []
  | (name, presence, schema) :: rest, index => do
    if ← nextElement (index = 0) then
      let value ← nullOr presence.acceptsNull (read schema)
      let members ← fieldElements read expected rest (index + 1)
      pure (presence.member name value ++ members)
    -- The list ended before the field, which stands only if it needs no element.
    else match presence.unreached? with
      | some value =>
        let members ← fieldElements read expected rest (index + 1)
        pure (presence.member name value ++ members)
      | none => failClosing tryCloseList (.invalidLength index expected)

/-- A member of a record: the declared fields found, and the other members kept. -/
def fieldMember (read : Schema → Reader Value) (fields : Fields) (keep : Bool) (key : String)
    (state : Members × Members) : Reader (Members × Members) := do
  match fields.find? key with
  | some (presence, schema) =>
    -- A field that stands twice is refused before its second value is read.
    if (member? key state.1).isSome then failClosing tryCloseObject (.duplicateField key)
    colon
    let value ← nullOr presence.acceptsNull (read schema)
    pure ((key, value) :: state.1, state.2)
  | none =>
    colon
    -- What is kept is read in full; what is not may hold anything of the right form.
    if keep then
      let value ← read .any
      pure (state.1, setMember key value state.2)
    else
      skim
      pure state

def closeRecord (fields : Fields) (state : Members × Members) : Reader Value := do
  match Fields.complete state.1 fields with
  | .ok written =>
    close tryCloseObject
    pure (.object (written ++ state.2))
  | .error cause => failClosing tryCloseObject cause

def variantNames (variants : List (String × Option Schema)) : List String :=
  variants.map Prod.fst

/-- The name of a variant, after its opening quote. -/
def variantName (variants : List (String × Option Schema)) : Reader (String × Option Schema) := do
  let name ← string
  match variants.find? fun variant => decide (variant.1 = name) with
  | some variant => pure variant
  | none => failHere (.unknownVariant name (variantNames variants))

/-- The name of a variant as the key of its payload. -/
def variantKey (variants : List (String × Option Schema)) : Reader (String × Option Schema) := do
  match ← peekToken with
  | some 0x22 =>
    eat
    variantName variants
  | some 0x7D => failNext .expectedValue
  | some _ => failNext .keyNotString
  | none => failNext .endInObject

/-- The value of a member after its colon. -/
def anyMember (read : Reader Value) (key : String) (state : Members) : Reader Members := do
  colon
  let value ← read
  pure (setMember key value state)

end Reader

open Reader in
/-- Reads one document and returns its normal form. -/
def Schema.read : (depth : Nat) → Schema → Reader Value
  | 0, _ => failNext .tooDeep
  | depth + 1, .any => do
    match ← peekToken with
    | none => failNext .endInValue
    | some 0x6E => eat; nullTail; pure .null
    | some 0x74 => eat; trueTail; pure (.boolean true)
    | some 0x66 => eat; falseTail; pure (.boolean false)
    | some 0x2D => eat; return .number (← number true)
    | some 0x22 => eat; return .string (← string)
    | some 0x5B =>
      enter depth
      let values ← elements (Schema.read depth .any) (← budget) true
      close tryCloseList
      pure (.list values)
    | some 0x7B =>
      enter depth
      let found ← members (anyMember (Schema.read depth .any)) (← budget) true []
      close tryCloseObject
      pure (.object found)
    | some byte =>
      if isDigit byte then return .number (← number false)
      else failNext .expectedValue
  | _ + 1, .text => return .string (← Reader.text)
  | _ + 1, .flag => Reader.flag
  | _ + 1, .nothing => Reader.nothing
  | _ + 1, .word label greatest => wordIn label greatest
  | depth + 1, .list element => do
    match ← peekToken with
    | some 0x5B =>
      enter depth
      let values ← elements (Schema.read depth element) (← budget) true
      close tryCloseList
      pure (.list values)
    | _ => wrongType "a sequence"
  | depth + 1, .record label fields => do
    match ← peekToken with
    | some 0x5B =>
      enter depth
      let found ← fieldElements (Schema.read depth) (Fields.lengthLabel fields label) fields 0
      close tryCloseList
      pure (.object found)
    | some 0x7B =>
      enter depth
      let state ← members (fieldMember (Schema.read depth) fields false) (← budget) true ([], [])
      closeRecord fields state
    | _ => wrongType label
  | depth + 1, .extensible label fields => do
    match ← peekToken with
    | some 0x7B =>
      enter depth
      let state ← members (fieldMember (Schema.read depth) fields true) (← budget) true ([], [])
      closeRecord fields state
    | _ => wrongType label
  | depth + 1, .choice variants => do
    match ← peekToken with
    | some 0x7B =>
      enter depth
      let (name, payload) ← variantKey variants
      colon
      let value ← match payload with
        | none => do
          -- A name without a payload may be written with null for one.
          discard Reader.nothing
          pure (.string name)
        | some schema => do
          let inner ← Schema.read depth schema
          pure (.object [(name, inner)])
      match ← peekToken with
      | some 0x7D =>
        eat
        pure value
      | some _ => failHere .expectedValue
      | none => failHere .endInObject
    | some 0x22 =>
      eat
      let (name, payload) ← variantName variants
      match payload with
      | none => pure (.string name)
      -- What is missing stands nowhere in the text, so the fault has no place.
      | some _ => throw ⟨.invalidType .bareName "struct variant", none⟩
    | some _ => failNext .expectedValue
    | none => failNext .endInValue

/-- The deepest nesting that is read. -/
def depthLimit : Nat := 128

open Reader in
/-- Reads a text that holds one document and nothing else. -/
def Schema.decode (schema : Schema) (bytes : List UInt8) : Except Fault Value :=
  let whole : Reader Value := do
    let value ← schema.read depthLimit
    match ← peekToken with
    | some _ => failNext .trailingCharacters
    | none => pure value
  (whole.run { rest := bytes }).map Prod.fst

/-- Reads any JSON text. -/
def parse (bytes : List UInt8) : Except Fault Value := Schema.any.decode bytes

end ListWatch.Json
