import BackingServices.Cluster.ApiError
import BackingServices.Cluster.Dialogue

/-!
# Traffic

Where a server has an address, every request to it is logged in a span of its own, and
so is what goes wrong on the way: a connection that breaks and a status of 500 or
more.  What came of a request is then added to the fields of the span.
-/

namespace BackingServices.Cluster

/-- Where the events about requests come from. -/
def trafficSource : String := "kube_client::client::builder"

/-- The text of the address of a target on a server. -/
def addressText (server : Uri) (target : Target) : String :=
  let base := (server.target?.elim "" Target.path).toList.reverse.dropWhile (· == '/')
  let path := String.ofList base.reverse ++ target.path
  Uri.text ⟨server.scheme?, server.authority?, some ⟨path, target.query?⟩⟩

/-- The span of a request, with what came of it. -/
def requestSpan (server : Uri) (request : Request) (outcome : List Field) : Span where
  name := "HTTP"
  fields := [⟨"http.method", .shown request.method.name⟩,
    ⟨"http.url", .shown (addressText server request.target)⟩, ⟨"http.status_code", .unknown⟩,
    ⟨"otel.name", .text "HTTP"⟩, ⟨"otel.kind", .text "client"⟩, ⟨"otel.status_code", .unknown⟩] ++ outcome
  level := .debug
  source := trafficSource

/-- The field that says that a request failed. -/
def failedField : Field := ⟨"otel.status_code", .text "ERROR"⟩

/-- An event about a request. -/
def trafficEvent (server : Uri) (spans : List Span) (request : Request) (outcome : List Field)
    (level : Level) (message : String) : Event :=
  ⟨level, spans ++ [requestSpan server request outcome], trafficSource, message, []⟩

/-- The events about an answer. -/
def answerEvents (server : Uri) (spans : List Span) (request : Request) : Answer → List Event
  | .broken reason _ =>
    [trafficEvent server spans request [failedField] .error ("failed with error " ++ reason)]
  | .response status _ =>
    if 500 ≤ status ∧ status ≤ 599 then
      let code : Field := ⟨"http.status_code", .number status⟩
      [trafficEvent server spans request [code, failedField, failedField, code] .error
        ("failed with status " ++ statusText status)]
    else []

/-- A dialogue whose requests go to the address of a server and are logged. -/
def Dialogue.logTraffic {α : Type} (server : Uri) : Dialogue α → Dialogue α
  | .done a => .done a
  | .log e d => .log e (d.logTraffic server)
  | .ask spans request k =>
    .log (trafficEvent server spans request [] .debug "requesting")
      (.ask spans request fun answer =>
        .logAll (answerEvents server spans request answer) ((k answer).logTraffic server))

end BackingServices.Cluster
