import ListWatch.Json.Check
import ListWatch.Json.Reader
import ListWatch.Json.Render

/-!
# Types with a JSON form

A type has a schema, a meaning for the normal forms of that schema, and a
document written for each of its values. Texts and values are first brought to
normal form, so a meaning never has to deal with a fault.
-/
namespace ListWatch.Json

class Form (α : Type) where
  schema : Schema
  ofNormal : Value → α
  toValue : α → Value

def decode (α : Type) [Form α] (bytes : List UInt8) : Except Fault α :=
  ((Form.schema α).decode bytes).map Form.ofNormal

def ofValue (α : Type) [Form α] (value : Value) : Except Fault α :=
  (value.check (Form.schema α)).map Form.ofNormal

def Value.field (key : String) : Value → Value
  | .object members => (member? key members).getD .null
  | _ => .null

def Value.toText : Value → String
  | .string text => text
  | _ => ""

def Value.toNat : Value → Nat
  | .number (.integer n) => n.toNat
  | _ => 0

def Value.toFlag : Value → Bool
  | .boolean b => b
  | _ => false

def Value.toOption {α : Type} (read : Value → α) : Value → Option α
  | .null => none
  | value => some (read value)

def Value.toList : Value → List Value
  | .list values => values
  | _ => []

def Value.toMembers : Value → Members
  | .object members => members
  | _ => []

/-- The members other than those named. -/
def withoutNames (names : List String) (members : Members) : Members :=
  members.filter fun entry => !names.contains entry.1

/-- The form of an enumeration: each value is the string of its name. -/
@[reducible]
def Form.ofNames {α : Type} (all : List α) (name : α → String) (fallback : α) : Form α where
  schema := .choice (all.map fun value => (name value, none))
  ofNormal value := (all.find? fun candidate => decide (name candidate = value.toText)).getD fallback
  toValue value := .string (name value)

end ListWatch.Json
