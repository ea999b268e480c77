import ResourceWatch.Api.Status

/-!
The error that a response without success is raised as.
-/

namespace ResourceWatch

inductive ErrorClass where
  | unauthorized
  | forbidden
  | notFound
  | conflict
  | gone
  | client
  | server
  | other
deriving DecidableEq

namespace ErrorClass

/-- The most specific class of a status. -/
def ofStatus (status : Number) : ErrorClass :=
  if Number.same status 401 then .unauthorized
  else if Number.same status 403 then .forbidden
  else if Number.same status 404 then .notFound
  else if Number.same status 409 then .conflict
  else if Number.same status 410 then .gone
  else if Number.le 400 status && Number.lt status 500 then .client
  else if Number.le 500 status && Number.lt status 600 then .server
  else .other

/-- The class and those that contain it, the widest one first. -/
def lineage : ErrorClass → List ErrorClass
  | .other => [.other]
  | .client => [.other, .client]
  | .server => [.other, .server]
  | specific => [.other, .client, specific]

def name : ErrorClass → Text
  | .unauthorized => "ApiUnauthorizedError"
  | .forbidden => "ApiForbiddenError"
  | .notFound => "ApiNotFoundError"
  | .conflict => "ApiConflictError"
  | .gone => "ApiGoneError"
  | .client => "ApiClientError"
  | .server => "ApiServerError"
  | .other => "ApiError"

end ErrorClass

/-- A status and what came with it: the JSON value of the body, or its text, or nothing. -/
structure ApiError where
  status : Number
  payload : Option Json

namespace ApiError

def errorClass (error : ApiError) : ErrorClass :=
  .ofStatus error.status

def statusObject? (error : ApiError) : Option Status :=
  Status.of? error.payload

def message (error : ApiError) : Text :=
  match error.statusObject?.bind Status.message with
  | some message => message
  | none => "API request failed with status " ++ error.status.toText

def reason? (error : ApiError) : Option Text :=
  error.statusObject?.bind Status.reason

def code? (error : ApiError) : Option Number :=
  error.statusObject?.bind Status.code

def details? (error : ApiError) : Option (List (Text × Json)) :=
  error.statusObject?.bind Status.details

end ApiError

end ResourceWatch
