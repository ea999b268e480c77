import ResourceWatch.Api.Error
import ResourceWatch.Log.Value

/-!
What an operation fails with.
-/

namespace ResourceWatch

inductive Failure where
  | api (error : ApiError)
  /-- The whole call or stream took longer than this. -/
  | timedOut (limit : Number)
  /-- A text that must be JSON is not. -/
  | undecodable (text : Text)
  | invalid (issues : List Schema.Issue)
  /-- The URL or a header does not make a request. -/
  | unbuildable
  | missingIdentity
  /-- There is no copy of the memo that a new one must be a copy of. -/
  | uncopyable
  /-- Raised by the server script, a template or a source of events, and passed on as it is. -/
  | external (thrown : Thrown)

namespace Failure

/-- A text that is too long for a message loses what is behind its first 80 units. -/
def excerpt (text : Text) : Text :=
  if 80 < text.length then text.take 80 ++ [0x2026] else text

def message : Failure → Text
  | .api error => error.message
  | .timedOut limit => "Request timed out after " ++ limit.toText ++ "ms"
  | .undecodable text => "Cannot decode response as JSON: " ++ excerpt text
  | .missingIdentity => "Resource body has no metadata.uid"
  | .external (.error _ message) => message
  | _ => []

/-- Whether the version that a watch starts from is no longer known to the server. -/
def isGone : Failure → Bool
  | .api error => error.errorClass = .gone
  | _ => false

end Failure

end ResourceWatch
