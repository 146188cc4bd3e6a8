/-!
# JSON values

An object is a list of members. Values that were read hold their members in
the order of the keys, each key once; `setMember` keeps that order, and the last
of repeated keys wins. A value built for writing may hold its members in any
order. A number is an integer when it fits 64 bits, and a double otherwise.
-/
namespace ListWatch.Json

inductive Number where
  | integer (value : Int)
  | float (value : Float)
  deriving DecidableEq, Repr, Inhabited

inductive Value where
  | null
  | boolean (value : Bool)
  | number (value : Number)
  | string (value : String)
  | list (elements : List Value)
  | object (members : List (String × Value))
  deriving Repr, Inhabited

abbrev Members := List (String × Value)

/-- Puts a member where its key belongs, over an earlier one of the same key. -/
def setMember (key : String) (value : Value) : Members → Members
  | [] => [(key, value)]
  | (other, old) :: rest =>
    if key = other then (key, value) :: rest
    else if key < other then (key, value) :: (other, old) :: rest
    else (other, old) :: setMember key value rest

def member? (key : String) (members : Members) : Option Value :=
  (members.find? fun entry => decide (entry.1 = key)).map Prod.snd

/-- The value reached by following keys through nested objects. -/
def Value.at? : Value → List String → Option Value
  | value, [] => some value
  | .object members, key :: keys => (member? key members).bind fun inner => inner.at? keys
  | _, _ :: _ => none
termination_by _ keys => keys.length

def Value.string? : Value → Option String
  | .string text => some text
  | _ => none

def Value.natural (n : Nat) : Value := .number (.integer n)

def Value.ofOption {α : Type} (write : α → Value) : Option α → Value
  | some value => write value
  | none => .null

mutual
def Value.decEq : (first second : Value) → Decidable (first = second)
  | .null, .null => isTrue rfl
  | .boolean a, .boolean b =>
    if h : a = b then isTrue (h ▸ rfl) else isFalse fun e => h (by cases e; rfl)
  | .number a, .number b =>
    if h : a = b then isTrue (h ▸ rfl) else isFalse fun e => h (by cases e; rfl)
  | .string a, .string b =>
    if h : a = b then isTrue (h ▸ rfl) else isFalse fun e => h (by cases e; rfl)
  | .list a, .list b =>
    match Value.decEqList a b with
    | isTrue h => isTrue (h ▸ rfl)
    | isFalse h => isFalse fun e => h (by cases e; rfl)
  | .object a, .object b =>
    match Value.decEqMembers a b with
    | isTrue h => isTrue (h ▸ rfl)
    | isFalse h => isFalse fun e => h (by cases e; rfl)
  | .null, .boolean _ | .null, .number _ | .null, .string _ | .null, .list _ | .null, .object _
  | .boolean _, .null | .boolean _, .number _ | .boolean _, .string _ | .boolean _, .list _
  | .boolean _, .object _ | .number _, .null | .number _, .boolean _ | .number _, .string _
  | .number _, .list _ | .number _, .object _ | .string _, .null | .string _, .boolean _
  | .string _, .number _ | .string _, .list _ | .string _, .object _ | .list _, .null
  | .list _, .boolean _ | .list _, .number _ | .list _, .string _ | .list _, .object _
  | .object _, .null | .object _, .boolean _ | .object _, .number _ | .object _, .string _
  | .object _, .list _ => isFalse nofun
def Value.decEqList : (first second : List Value) → Decidable (first = second)
  | [], [] => isTrue rfl
  | a :: as, b :: bs =>
    match Value.decEq a b, Value.decEqList as bs with
    | isTrue h, isTrue hs => isTrue (h ▸ hs ▸ rfl)
    | isFalse h, _ => isFalse fun e => h (by cases e; rfl)
    | _, isFalse hs => isFalse fun e => hs (by cases e; rfl)
  | [], _ :: _ | _ :: _, [] => isFalse nofun
def Value.decEqMembers : (first second : List (String × Value)) → Decidable (first = second)
  | [], [] => isTrue rfl
  | (j, a) :: as, (k, b) :: bs =>
    if hk : j = k then
      match Value.decEq a b, Value.decEqMembers as bs with
      | isTrue h, isTrue hs => isTrue (hk ▸ h ▸ hs ▸ rfl)
      | isFalse h, _ => isFalse fun e => h (by cases e; rfl)
      | _, isFalse hs => isFalse fun e => hs (by cases e; rfl)
    else isFalse fun e => hk (by cases e; rfl)
  | [], _ :: _ | _ :: _, [] => isFalse nofun
end

instance : DecidableEq Value := Value.decEq

end ListWatch.Json
