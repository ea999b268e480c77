import ResourceWatch.Client.Headers
import ResourceWatch.Config
import ResourceWatch.Failure

/-!
A client of a resource API, and the requests that it builds.
-/

namespace ResourceWatch

inductive Method where
  | get
  | post
  | put
  | patch
  | delete
deriving DecidableEq

def Method.name : Method → Text
  | .get => "GET"
  | .post => "POST"
  | .put => "PUT"
  | .patch => "PATCH"
  | .delete => "DELETE"

structure Client where
  /-- The base of relative URLs. -/
  server : Text
  /-- Sent with every request. -/
  headers : List (Text × Text) := []
  /-- The time limit of calls that do not set one. -/
  requestTimeoutMs : Option Number := none
  watchTimeoutSeconds : Option Number := none
  userAgent : Option Text := none

structure Request where
  method : Method
  url : Text
  headers : Headers
  body : Option Text
deriving DecidableEq

/-- What a call asks for. -/
structure RequestOptions where
  payload : Option Json := none
  headers : List (Text × Text) := []
  /-- The content type of a payload, unless the headers of the call name one. -/
  contentType : Text := "application/json"

namespace Client

open Text

def ofConfig (config : ClientConfig) : Client where
  server := config.server
  requestTimeoutMs := config.requestTimeoutMs
  watchTimeoutSeconds := config.watchTimeoutSeconds
  userAgent := some config.userAgent

/-- Whether a URL begins with a scheme and two slashes. -/
def isAbsolute (url : Text) : Bool :=
  match Url.scheme? url with
  | some (_, first :: second :: _) => first = unit '/' && second = unit '/'
  | _ => false

/-- An absolute URL is kept, and any other text is appended to the server. -/
def resolve (client : Client) (url : Text) : Text :=
  if isAbsolute url then url else client.server ++ url

/-- The body of a request: a payload in JSON, but never with a read. -/
def body? (method : Method) (options : RequestOptions) : Option Text :=
  if method = .get then none else options.payload.map Json.print

/-- The fields in the order in which they are set, so that a later one wins. -/
def fields (client : Client) (method : Method) (options : RequestOptions) : List (Text × Text) :=
  ("Accept", "application/json") ::
    (((client.userAgent.filter (!·.isEmpty)).map fun agent => (ofString "User-Agent", agent)).toList ++
      client.headers ++
      (if (body? method options).isSome then [(ofString "Content-Type", options.contentType)] else []) ++
      options.headers)

/-- Builds a request, if the fields may be sent and the URL is absolute and without credentials. -/
def build? (client : Client) (method : Method) (url : Text) (options : RequestOptions) :
    Option Request := do
  let headers ← Headers.setAll? [] (client.fields method options)
  let parsed ← Url.parse? (client.resolve url)
  if parsed.hasCredentials then none
  else some ⟨method, parsed.toText, headers, body? method options⟩

end Client

end ResourceWatch
