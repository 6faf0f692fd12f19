/-
What a response says about an address. A response is prose, so it is classified by fixed pieces of text, its markers. A
class is decided only when the markers of the other classes are absent; anything else is unknown.
-/
import DebugFind.ObjectField
import DebugFind.Text.Search

namespace DebugFind

open DebugFind.Text

/-- what an address was reported to be -/
inductive Classification where
  | thread
  | managedObject
  /-- an address that cannot be read -/
  | notSafe
  | unknown
deriving DecidableEq, Repr

namespace Classification

/-- the classes in their usual order -/
def all : List Classification := [.thread, .managedObject, .notSafe, .unknown]

def name : Classification → String
  | .thread => "THREAD"
  | .managedObject => "MANAGED_OBJECT"
  | .notSafe => "UNSAFE"
  | .unknown => "UNKNOWN"

/-- the class in small letters -/
def word : Classification → String
  | .thread => "thread"
  | .managedObject => "managed_object"
  | .notSafe => "unsafe"
  | .unknown => "unknown"

/-! ## Markers -/

def threadMarker : String := " is a thread"

/-- how a detailed response shows that a thread waits -/
def waitingMarker : String := "java.lang.Thread.State: WAITING"

def objectMarker : String := " is an oop: "

def fieldsMarker : String := ObjectField.headerMarker

def notSafeMarker : String := "address not safe"

/-- the class of a response -/
def ofText (text : String) : Classification :=
  match contains text threadMarker, contains text objectMarker, contains text notSafeMarker with
  | false, false, true => .notSafe
  | true, false, false => .thread
  | false, true, false => .managedObject
  | _, _, _ => .unknown

end Classification

end DebugFind
