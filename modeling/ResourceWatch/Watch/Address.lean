import ResourceWatch.Number.Shortest
import ResourceWatch.Url.Query

/-!
The URL of a watch request.
-/

namespace ResourceWatch.Watch

open Text

/-- The parameters that ask for a watch after `version`, in the order in which they are set. -/
def parameters (version : Option Text) (timeoutSeconds : Option Number) : Query :=
  ("watch", "true") :: ("allowWatchBookmarks", "true") ::
    ((version.map fun version => (ofString "resourceVersion", version)).toList ++
      (timeoutSeconds.map fun seconds => (ofString "timeoutSeconds", seconds.toText)).toList)

def setAll (query parameters : Query) : Query :=
  parameters.foldl (fun query pair => query.set pair.1 pair.2) query

/-- The URL of a collection with the parameters of a watch; other parameters are kept. -/
def address (timeoutSeconds : Option Number) (url : Text) (version : Option Text) : Text :=
  let (path, query) := Text.cut (unit '?') url
  path ++ unit '?' :: (setAll (Query.parse (query.getD [])) (parameters version timeoutSeconds)).toText

end ResourceWatch.Watch
