import BackingServices.Json.Document
import BackingServices.Text.Utf8
import BackingServices.Cluster.Exchange

/-!
# What goes wrong with a request

A request fails before it is sent, because it is none; on its way, because the
connection breaks; or when its answer is read.  An answer of a status from 400 to
599 is a failure that the body describes.  Any other answer is read as the
document that was asked for.

Every failure has a wording and the wordings of its deeper causes.
-/

namespace BackingServices.Cluster

/-- The description of a failure that a server gives. -/
structure Status where
  /-- The outcome in a word. -/
  status : String
  /-- The outcome in a sentence. -/
  message : String
  /-- The reason in a word. -/
  reason : String
  /-- The number of the status. -/
  code : Nat
deriving DecidableEq

namespace Status

/-- What the documents of failures look like. -/
def schema : Schema :=
  .record .positional "ErrorResponse" (.cons "status" .required .text
    (.cons "message" (.absent (.string "")) .text
      (.cons "reason" (.absent (.string "")) .text
        (.cons "code" .required (.integer "u16" 0 65535) .nil))))

/-- The description in a document of the schema. -/
def ofDocument (v : Json) : Status :=
  let text := fun key => ((v.get? key).bind Json.text?).getD ""
  { status := text "status"
    message := text "message"
    reason := text "reason"
    code := match v.get? "code" with
      | some (.number (.integer n _ _)) => n.toNat
      | _ => 0 }

/-- The diagnostic text of a description. -/
def debug (s : Status) : DebugText :=
  .record "ErrorResponse" [("status", .quoted s.status), ("message", .quoted s.message),
    ("reason", .quoted s.reason), ("code", .leaf (toString s.code))] false

/-- The wording of a description. -/
def text (s : Status) : String := s.message ++ ": " ++ s.reason

end Status

/-- The names of the statuses that have one. -/
def statusNames : List (Nat × String) := [
  (400, "Bad Request"), (401, "Unauthorized"), (402, "Payment Required"), (403, "Forbidden"),
  (404, "Not Found"), (405, "Method Not Allowed"), (406, "Not Acceptable"),
  (407, "Proxy Authentication Required"), (408, "Request Timeout"), (409, "Conflict"), (410, "Gone"),
  (411, "Length Required"), (412, "Precondition Failed"), (413, "Payload Too Large"),
  (414, "URI Too Long"), (415, "Unsupported Media Type"), (416, "Range Not Satisfiable"),
  (417, "Expectation Failed"), (418, "I'm a teapot"), (421, "Misdirected Request"),
  (422, "Unprocessable Entity"), (423, "Locked"), (424, "Failed Dependency"), (425, "Too Early"),
  (426, "Upgrade Required"), (428, "Precondition Required"), (429, "Too Many Requests"),
  (431, "Request Header Fields Too Large"), (451, "Unavailable For Legal Reasons"),
  (500, "Internal Server Error"), (501, "Not Implemented"), (502, "Bad Gateway"),
  (503, "Service Unavailable"), (504, "Gateway Timeout"), (505, "HTTP Version Not Supported"),
  (506, "Variant Also Negotiates"), (507, "Insufficient Storage"), (508, "Loop Detected"),
  (510, "Not Extended"), (511, "Network Authentication Required")]

/-- The text of a status: its number and its name. -/
def statusText (code : Nat) : String :=
  toString code ++ " " ++ (statusNames.lookup code).getD "<unknown status code>"

/-- Why a request fails. -/
inductive ApiError where
  /-- The name of the object is empty. -/
  | emptyName
  /-- The target of a write is no URI. -/
  | badTarget (fault : UriError)
  /-- The target of a read is no URI. -/
  | badReadTarget (fault : UriError)
  /-- The connection broke. -/
  | broken (reason : String) (deeper : List String)
  /-- The server refused. -/
  | refused (status : Status)
  /-- The answer is no text. -/
  | notText (fault : Text.Utf8.Fault)
  /-- The answer is not the document that was asked for. -/
  | undecodable (error : PlacedError)
  /-- A group of resources has no version. -/
  | emptyGroup (name : String)

namespace ApiError

/-- The wordings of an error and its deeper causes, outermost first. -/
def chain : ApiError → List String
  | .emptyName =>
    let inner := "failed to validate request: A non-empty name is required"
    ["Failed to build request: " ++ inner, inner]
  | .badTarget fault =>
    let inner := "failed to build request: " ++ fault.message
    ["Failed to build request: " ++ inner, inner, fault.message]
  | .badReadTarget fault => ["HttpError: " ++ fault.message, fault.message]
  | .broken reason deeper => ("ServiceError: " ++ reason) :: reason :: deeper
  | .refused status => ["ApiError: " ++ status.text ++ " (" ++ status.debug.plain ++ ")", status.text]
  | .notText fault => ["UTF-8 Error: " ++ fault.message, fault.message]
  | .undecodable error => ["Error deserializing response: " ++ error.message, error.message]
  | .emptyGroup name =>
    let inner := "Empty Api Group: " ++ name
    ["Error from discovery: " ++ inner, inner]

/-- The wording of an error. -/
def message (e : ApiError) : String := e.chain.headD ""

end ApiError

/-! ## Reading answers -/

/-- Whether a status is that of a failure. -/
def isFailure (status : Nat) : Bool := 400 ≤ status && status ≤ 599

/-- The description of a failure whose body is no description. -/
def Status.ofText (code : Nat) (body : String) : Status :=
  ⟨statusText code, Text.quoted body, "Failed to parse error data", code⟩

/-- The failure that a status and a body describe. -/
def Status.ofBody (code : Nat) (body : String) : Status :=
  match Status.schema.readText documentDepth body with
  | .ok v => .ofDocument v
  | .error _ => .ofText code body

/-- The document of an answer under a schema, in normal form. -/
def Answer.read (schema : Schema) : Answer → Except ApiError Json
  | .broken reason deeper => .error (.broken reason deeper)
  | .response status body =>
    match Text.decode? body with
    | .error fault => .error (.notText fault)
    | .ok text =>
      if isFailure status then .error (.refused (.ofBody status text))
      else
        match schema.readText documentDepth text with
        | .ok v => .ok v
        | .error e => .error (.undecodable e)

end BackingServices.Cluster
