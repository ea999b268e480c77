import ResourceWatch.Failure
import ResourceWatch.Watch.Event

/-!
The identity under which a resource is known.
-/

namespace ResourceWatch.Object

/-- The text at `metadata.uid`, which must not be empty. -/
def uid? (object : Object) : Option Text :=
  (metadataText? "uid" object).filter fun uid => !uid.isEmpty

def identity (object : Object) : Except Failure Text :=
  match uid? object with
  | some uid => .ok uid
  | none => .error .missingIdentity

end ResourceWatch.Object
