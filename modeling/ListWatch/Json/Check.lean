import ListWatch.Json.Schema

/-!
# Checking a value against a schema

A value that was read before is checked member by member in its own order. The
normal form is the one that reading the same document by the schema gives, and
the faults have no position.
-/
namespace ListWatch.Json

def refuse {α : Type} (cause : Cause) : Except Fault α := .error { cause }

def checkWord (label : String) (greatest : Nat) (n : Number) : Except Fault Value :=
  (wordOf label greatest n).mapError fun cause => { cause }

def checkName (variants : List (String × Option Schema)) (name : String) : Except Fault Value :=
  match variants.find? fun variant => decide (variant.1 = name) with
  | some (name, none) => .ok (.string name)
  | some (_, some _) => refuse (.invalidType .bareName "struct variant")
  | none => refuse (.unknownVariant name (variants.map Prod.fst))

/-- The fields that the list form does not reach. -/
def unreachedFields (expected : String) (index : Nat) : Fields → Except Fault Members
  | [] => .ok []
  | (name, presence, _) :: fields =>
    match presence.unreached? with
    | none => refuse (.invalidLength index expected)
    | some value =>
      (unreachedFields expected (index + 1) fields).map (presence.member name value ++ ·)

def completed (fields : Fields) (state : Members × Members) : Except Fault Value :=
  match Fields.complete state.1 fields with
  | .ok written => .ok (.object (written ++ state.2))
  | .error cause => refuse cause

mutual
def Value.check (schema : Schema) : Value → Except Fault Value
  | .number n => match schema with
    | .any => .ok (.number n)
    | .word label greatest => checkWord label greatest n
    | schema => refuse (.invalidType (.number n) schema.expectation)
  | .string text => match schema with
    | .any | .text => .ok (.string text)
    | .choice variants => checkName variants text
    | schema => refuse (.invalidType (.string text) schema.expectation)
  | .list values => match schema with
    | .any => .ok (.list values)
    | .list element => (Value.checkElements element values).map .list
    | .record label fields => do
      let written ← Value.checkFields (Fields.lengthLabel fields label) 0 fields values
      -- Values past the last field are refused only once the others have passed.
      if fields.length < values.length then
        refuse (.invalidLength values.length "fewer elements in array")
      else .ok (.object written)
    | schema => refuse (.invalidType .sequence schema.expectation)
  | .object members => match schema with
    | .any => .ok (.object members)
    | .record _ fields => do
      completed fields (← Value.checkMembers fields false ([], []) members)
    | .extensible _ fields => do
      completed fields (← Value.checkMembers fields true ([], []) members)
    | .choice variants => Value.checkVariant variants members
    | schema => refuse (.invalidType .map schema.expectation)
  | .null => match schema with
    | .any | .nothing => .ok .null
    | schema => refuse (.invalidType .null schema.expectation)
  | .boolean b => match schema with
    | .any | .flag => .ok (.boolean b)
    | schema => refuse (.invalidType (.boolean b) schema.expectation)
def Value.checkElements (element : Schema) : List Value → Except Fault (List Value)
  | [] => .ok []
  | value :: rest => do
    let value ← Value.check element value
    let rest ← Value.checkElements element rest
    return value :: rest
/-- The list form of a record. Values past the last field are left alone. -/
def Value.checkFields (expected : String) (index : Nat) (fields : Fields) :
    List Value → Except Fault Members
  | [] => unreachedFields expected index fields
  | value :: rest => match fields with
    | [] => .ok []
    | (name, presence, schema) :: fields => do
      let value ←
        if presence.acceptsNull && value = .null then pure .null else Value.check schema value
      let members ← Value.checkFields expected (index + 1) fields rest
      return presence.member name value ++ members
/-- The declared fields found, and the other members where they are kept. -/
def Value.checkMembers (fields : Fields) (keep : Bool) (state : Members × Members) :
    List (String × Value) → Except Fault (Members × Members)
  | [] => .ok state
  | (key, value) :: rest =>
    match Fields.find? fields key with
    | some (presence, schema) => do
      let value ←
        if presence.acceptsNull && value = .null then pure .null else Value.check schema value
      Value.checkMembers fields keep ((key, value) :: state.1, state.2) rest
    | none =>
      let kept := if keep then setMember key value state.2 else state.2
      Value.checkMembers fields keep (state.1, kept) rest
/-- A choice given as its name with a payload. -/
def Value.checkVariant (variants : List (String × Option Schema)) :
    List (String × Value) → Except Fault Value
  | [] => refuse (.invalidValue .map "map with a single key")
  | (key, value) :: rest =>
    if rest.isEmpty then
      match variants.find? fun variant => decide (variant.1 = key) with
      | none => refuse (.unknownVariant key (variants.map Prod.fst))
      | some (name, payload) =>
        (Value.check (payload.getD .nothing) value).map fun inner =>
          if payload.isNone then .string name else .object [(name, inner)]
    else refuse (.invalidValue .map "map with a single key")
end

end ListWatch.Json
