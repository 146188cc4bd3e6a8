import ListWatch.Json.Form

/-!
# Kinds of changes

The names used on the wire, and the kind that stands for every other name.
-/
namespace ListWatch

inductive ChangeKind where
  | added
  | modified
  | deleted
  | bookmark
  | error
  | unknown
  deriving DecidableEq, Repr, Inhabited

namespace ChangeKind

def all : List ChangeKind := [.added, .modified, .deleted, .bookmark, .error, .unknown]

def wireName : ChangeKind → String
  | .added => "ADDED"
  | .modified => "MODIFIED"
  | .deleted => "DELETED"
  | .bookmark => "BOOKMARK"
  | .error => "ERROR"
  | .unknown => "UNKNOWN"

def ofWireName (wire : String) : ChangeKind :=
  (all.find? fun kind => decide (kind.wireName = wire)).getD .unknown

def name : ChangeKind → String
  | .added => "Added"
  | .modified => "Modified"
  | .deleted => "Deleted"
  | .bookmark => "Bookmark"
  | .error => "Error"
  | .unknown => "Unknown"

instance : Json.Form ChangeKind := Json.Form.ofNames all name .unknown

end ChangeKind

end ListWatch
