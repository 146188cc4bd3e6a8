import ListWatch.Json.Form

/-!
# Metadata and keys

Of an object's metadata only the name, the namespace and the version are looked
at; every other member is carried through. The key of an object is its namespace
and name, an absent name counting as empty. Keys are ordered with those outside
any namespace first.
-/
namespace ListWatch

open Json (Value Members Schema Form)

structure Metadata where
  name : Option String := none
  scope : Option String := none
  resourceVersion : Option String := none
  extra : Members := []
  deriving DecidableEq, Repr, Inhabited

namespace Metadata

def fields : Json.Fields :=
  [("name", .omissible, .text), ("namespace", .omissible, .text),
    ("resourceVersion", .omissible, .text)]

def ofNormal (value : Value) : Metadata :=
  { name := (value.field "name").toOption Value.toText
    scope := (value.field "namespace").toOption Value.toText
    resourceVersion := (value.field "resourceVersion").toOption Value.toText
    extra := Json.withoutNames (fields.map Prod.fst) value.toMembers }

def toValue (metadata : Metadata) : Value :=
  .object
    (Json.Presence.omissible.member "name" (.ofOption .string metadata.name)
      ++ Json.Presence.omissible.member "namespace" (.ofOption .string metadata.scope)
      ++ Json.Presence.omissible.member "resourceVersion"
        (.ofOption .string metadata.resourceVersion)
      ++ metadata.extra)

instance : Form Metadata where
  schema := .extensible "struct ObjectMeta" fields
  ofNormal := ofNormal
  toValue := toValue

end Metadata

structure Key where
  scope : Option String
  name : String
  deriving DecidableEq, Repr, Inhabited

namespace Key

def ofMetadata (metadata : Metadata) : Key := ⟨metadata.scope, metadata.name.getD ""⟩

def display (key : Key) : String :=
  match key.scope with
  | some scope => scope ++ "/" ++ key.name
  | none => key.name

def description (key : Key) : String :=
  "ResourceKey \x7b namespace: " ++ Text.quotedOption key.scope ++ ", name: " ++ Text.quoted key.name
    ++ " \x7d"

/-- Comparison of namespaces, none first. -/
def compareScope : Option String → Option String → Ordering
  | none, none => .eq
  | none, some _ => .lt
  | some _, none => .gt
  | some first, some second => compareOfLessAndEq first second

def compare (first second : Key) : Ordering :=
  (compareScope first.scope second.scope).then (compareOfLessAndEq first.name second.name)

instance : Form Key where
  schema := .record "struct ResourceKey"
    [("namespace", .nullable, .text), ("name", .required, .text)]
  ofNormal value :=
    { scope := (value.field "namespace").toOption Value.toText
      name := (value.field "name").toText }
  toValue key :=
    .object [("namespace", .ofOption .string key.scope), ("name", .string key.name)]

end Key

end ListWatch
