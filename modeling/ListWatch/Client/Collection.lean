import ListWatch.Text.Blank
import ListWatch.Text.Parts
import ListWatch.Text.Quoted

/-!
# Collections

A collection is named by the path of its group and version and by its own name.
Its path loses the slashes at the end of the former and around the latter.
-/
namespace ListWatch

structure Collection where
  apiPath : String
  resource : String
  deriving DecidableEq, Repr, Inhabited

namespace Collection

def isSlash (c : Char) : Bool := c = '/'

def resourceName (collection : Collection) : String :=
  String.ofList (Text.trimEnds isSlash collection.resource.toList)

def basePath (collection : Collection) : String :=
  String.ofList (collection.apiPath.toList.reverse.dropWhile isSlash).reverse

/-- The parts of the API's path, between its slashes. -/
def apiParts (collection : Collection) : List String :=
  ((Text.splitAt '/' collection.apiPath.toList).filter (· ≠ [])).map String.ofList

/-- The path of the collection, inside a namespace when one is given. -/
def path (collection : Collection) : Option String → String
  | some scope =>
    collection.basePath ++ "/namespaces/" ++ scope ++ "/" ++ collection.resourceName
  | none => collection.basePath ++ "/" ++ collection.resourceName

def description (collection : Collection) : String :=
  "CollectionRef \x7b api_path: " ++ Text.quoted collection.apiPath ++ ", resource: "
    ++ Text.quoted collection.resource ++ " \x7d"

end Collection

end ListWatch
