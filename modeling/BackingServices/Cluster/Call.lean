import BackingServices.Cluster.ApiError
import BackingServices.Cluster.Dialogue

/-!
# Calls of the API server

A call sends a request and reads the answer under a schema.

Objects are written by *applying* them: a request that carries the whole object as
the one writer wants it, under the writer's name and with force, so that it creates
the object, changes it or leaves it as it is.  The target is the path of the
objects' collection, the name, and the query that says who writes.
-/

namespace BackingServices.Cluster

/-- The name under which objects are written. -/
def fieldManager : String := "quartermaster"

/-- Sends a request. -/
def send (request : Request) : Dialogue Answer := .ask [] request .done

/-- Sends a request and reads the answer. -/
def call (schema : Schema) (request : Request) : Dialogue (Except ApiError Json) :=
  (send request).bind fun answer => .done (answer.read schema)

/-- Reads what is at a path. -/
def read (schema : Schema) (path : String) : Dialogue (Except ApiError Json) :=
  match Uri.parseRequest path with
  | .error fault => .done (.error (.badReadTarget fault))
  | .ok target => call schema ⟨.get, target, none, none⟩

/-! ## Applying -/

/-- The content type of objects that are applied. -/
def applyContentType : String := "application/apply-patch+yaml"

/-- The text of the target that an object of a collection is applied to. -/
def applyPath (collection name : String) : String :=
  collection ++ "/" ++ name ++ "?&force=true&fieldManager=" ++ fieldManager

/-- The request that applies an object, unless its name is empty or gives no target. -/
def applyRequest (collection name : String) (object : Json) : Except ApiError Request :=
  if name = "" then .error .emptyName
  else
    match Uri.parseRequest (applyPath collection name) with
    | .error fault => .error (.badTarget fault)
    | .ok target => .ok ⟨.patch, target, some applyContentType, some object⟩

/-- Applies an object, which is answered by the object as it is then. -/
def apply (schema : Schema) (collection name : String) (object : Json) :
    Dialogue (Except ApiError Json) :=
  match applyRequest collection name object with
  | .error e => .done (.error e)
  | .ok request => call schema request

end BackingServices.Cluster
