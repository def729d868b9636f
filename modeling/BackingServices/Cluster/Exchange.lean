import BackingServices.Json.Basic
import BackingServices.Uri

/-!
# Requests and answers

What is exchanged with the API server of a cluster.  A request has a method, a
target and, if it writes, a content type and a body.  The server answers with a
status and bytes, or the connection breaks.

A server is a function of everything it was asked before: it may answer the same
request differently at different times.
-/

namespace BackingServices.Cluster

/-- What a request does. -/
inductive Method where
  /-- It reads. -/
  | get
  /-- It writes. -/
  | patch
deriving DecidableEq

/-- The name of a method. -/
def Method.name : Method → String
  | .get => "GET"
  | .patch => "PATCH"

/-- A request. -/
structure Request where
  /-- What it does. -/
  method : Method
  /-- What it is about. -/
  target : Target
  /-- The content type, if there is a body. -/
  contentType? : Option String
  /-- The body, if there is one. -/
  body? : Option Json
deriving DecidableEq

/-- An answer. -/
inductive Answer where
  /-- A response with a status and a body. -/
  | response (status : Nat) (body : List UInt8)
  /-- The connection broke, for a reason that may have deeper ones. -/
  | broken (reason : String) (deeper : List String)
deriving DecidableEq

/-- A server: its answer to a request, given the earlier requests from the first on. -/
abbrev Server := List Request → Request → Answer

end BackingServices.Cluster
