import ListWatch.Json.Fault

/-!
# What a document must hold

A schema says which documents are accepted and gives each accepted one a normal
form, which is the document that would be written for it: the fields of a
record in the declared order, absent ones filled in, and names left out where
the schema leaves them out. A closed record passes over members it does not
declare, and may also be given as the list of its fields. An open record keeps
the members it does not declare.
-/
namespace ListWatch.Json

/-- What an absent or null field means. -/
inductive Presence where
  /-- The field must be there. -/
  | required
  /-- An absent member is null, but the list form must reach the field. -/
  | nullable
  /-- An absent field is null. -/
  | optional
  /-- An absent field is null, and null is not written. -/
  | omissible
  /-- An absent field has this value, and null is refused. -/
  | default (value : Value)

def Presence.acceptsNull : Presence → Bool
  | .nullable | .optional | .omissible => true
  | .required | .default _ => false

/-- The value of an absent member. -/
def Presence.absent? : Presence → Option Value
  | .required => none
  | .nullable | .optional | .omissible => some .null
  | .default value => some value

/-- The value of a field that the list form does not reach. -/
def Presence.unreached? : Presence → Option Value
  | .required | .nullable => none
  | .optional | .omissible => some .null
  | .default value => some value

/-- The member written for a field. -/
def Presence.member (presence : Presence) (name : String) (value : Value) : Members :=
  match presence, value with
  | .omissible, .null => []
  | _, value => [(name, value)]

inductive Schema where
  | any
  | text
  | flag
  | nothing
  | word (label : String) (greatest : Nat)
  | list (element : Schema)
  | record (label : String) (fields : List (String × Presence × Schema))
  | extensible (label : String) (fields : List (String × Presence × Schema))
  | choice (variants : List (String × Option Schema))

abbrev Fields := List (String × Presence × Schema)

def Fields.find? (fields : Fields) (name : String) : Option (Presence × Schema) :=
  (List.find? (fun entry => decide (entry.1 = name)) fields).map Prod.snd

/-- The expectation that names the number of fields. -/
def Fields.lengthLabel (fields : Fields) (label : String) : String :=
  label ++ " with " ++ toString fields.length
    ++ (if fields.length = 1 then " element" else " elements")

/-- What a value of the wrong kind is told was expected. -/
def Schema.expectation : Schema → String
  | .any => "any value"
  | .text => "a string"
  | .flag => "a boolean"
  | .nothing => "unit"
  | .word label _ => label
  | .list _ => "a sequence"
  | .record label _ | .extensible label _ => label
  | .choice _ => "string or map"

/-- The members written for the fields found, or the first required field that is missing. -/
def Fields.complete (found : Members) : Fields → Except Cause Members
  | [] => .ok []
  | (name, presence, _) :: rest =>
    match (member? name found).orElse fun _ => presence.absent? with
    | none => .error (.missingField name)
    | some value => (Fields.complete found rest).map (presence.member name value ++ ·)

def u16 : Schema := .word "u16" (UInt16.size - 1)
def u64 : Schema := .word "u64" (UInt64.size - 1)
def usize : Schema := .word "usize" (UInt64.size - 1)

/-- The number as a word, or why it is none. -/
def wordOf (label : String) (greatest : Nat) : Number → Except Cause Value
  | .integer n =>
    if 0 ≤ n ∧ n ≤ greatest then .ok (.number (.integer n))
    else .error (.invalidValue (.number (.integer n)) label)
  | .float x => .error (.invalidType (.number (.float x)) label)

end ListWatch.Json
