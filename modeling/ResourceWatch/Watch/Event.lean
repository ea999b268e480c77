import ResourceWatch.Schema

/-!
Events of a watched collection and the list that a watch begins with.
-/

namespace ResourceWatch

open Schema Checked

abbrev Object := List (Text × Json)

inductive EventType where
  | added
  | modified
  | deleted
  | bookmark
  | error
deriving DecidableEq

namespace EventType

def name : EventType → Text
  | .added => "ADDED"
  | .modified => "MODIFIED"
  | .deleted => "DELETED"
  | .bookmark => "BOOKMARK"
  | .error => "ERROR"

def options : List (Text × EventType) :=
  [.added, .modified, .deleted, .bookmark, .error].map fun type => (type.name, type)

def check : Check EventType := oneOf options

end EventType

/-- What a watch stream reports of an object. -/
structure WatchEvent where
  type : EventType
  object : Object

namespace WatchEvent

def check : Check WatchEvent := fun value => do
  let members ← record value
  let (type, object) ← both (field "type" EventType.check members) (field "object" record members)
  return ⟨type, object⟩

def toJson (event : WatchEvent) : Json :=
  .obj [("type", .str event.type.name), ("object", .obj event.object)]

end WatchEvent

/-- An event as it is handled: without a type if the object came from a listing. -/
structure Event where
  type : Option EventType
  object : Object

namespace Event

def listed (object : Object) : Event := ⟨none, object⟩

def ofWatch (event : WatchEvent) : Event := ⟨some event.type, event.object⟩

def typeJson (type : Option EventType) : Json :=
  match type with
  | some type => .str type.name
  | none => .null

def toJson (event : Event) : Json :=
  .obj [("type", typeJson event.type), ("object", .obj event.object)]

end Event

/-- A collection: its objects and the version that it has. -/
structure ObjectList where
  items : List Object
  resourceVersion : Option Text
  metadata : Object

namespace ObjectList

def checkMetadata : Check (Option Text × Object) := fun value => do
  let members ← record value
  let version ← field "resourceVersion" (Schema.optional string) members
  return (version, members)

def check : Check ObjectList := fun value => do
  let members ← record value
  let ((version, metadata), items) ←
    both (field "metadata" (withDefault (none, []) checkMetadata) members)
      (field "items" (arrayOf record) members)
  return ⟨items, version, metadata⟩

def toJson (list : ObjectList) : Json :=
  .obj [("metadata", .obj list.metadata), ("items", .arr (list.items.map .obj))]

end ObjectList

namespace Object

/-- The text at `metadata.key` of an object, if both are there. -/
def metadataText? (key : Text) (object : Object) : Option Text :=
  match Members.get? object "metadata" with
  | some (.obj metadata) => (Members.get? metadata key).bind Json.str?
  | _ => none

def resourceVersion? (object : Object) : Option Text :=
  metadataText? "resourceVersion" object

end Object

end ResourceWatch
