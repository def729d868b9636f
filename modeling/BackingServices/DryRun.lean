import BackingServices.HelmChart
import BackingServices.Text.Utf8

/-!
# Dry runs

In a dry run the manifests are written to a stream instead of being applied.  Every
deployment becomes one document of the stream: a line of three dashes and the manifest.

The writer behind the stream may have room for a limited number of bytes.  It takes
what fits; what it does when there is no room left is one of three things, of which the
last breaks the stream for good.  A writer may also fail to pass on what it took.  Where
it refuses something it says why in its own words.
-/

namespace BackingServices

/-- Why a run stops. -/
inductive Stop where
  /-- It fails. -/
  | failure (error : ProvisionError)
  /-- It breaks down. -/
  | breakdown

/-- What a writer does when there is no room left. -/
inductive AtLimit where
  /-- It says so, in these words. -/
  | refuse (reason : String)
  /-- It takes nothing and does not say why. -/
  | takeNothing
  /-- It breaks down. -/
  | breakDown
deriving DecidableEq

/-- A writer. -/
structure Writer where
  /-- How many bytes there is room for, if that is limited. -/
  limit? : Option Nat
  /-- What it does when there is no room left. -/
  atLimit : AtLimit
  /-- Why it does not pass on what it took, if it does not. -/
  flushFault? : Option String
deriving DecidableEq

/-- A writer without faults. -/
def Writer.unlimited : Writer := ⟨none, .takeNothing, none⟩

/-- What was written so far. -/
structure Stream where
  /-- The bytes that the writer holds. -/
  held : List UInt8
  /-- Whether the writer broke down. -/
  broken : Bool
deriving DecidableEq

namespace Stream

/-- A stream that nothing was written to. -/
def empty : Stream := ⟨[], false⟩

/-- What is left of a writer in the end: the bytes that it holds, even if it broke down. -/
def contents (s : Stream) : List UInt8 := s.held

/-- For how many of some bytes the writer has room. -/
def room (w : Writer) (s : Stream) (count : Nat) : Nat :=
  match w.limit? with
  | none => count
  | some limit => min count (limit - s.held.length)

/-- Hands bytes to the writer once.  It takes those that it has room for and says how many these are. -/
def offer (w : Writer) (s : Stream) (bytes : List UInt8) : Stream × Except Stop Nat :=
  let count := s.room w bytes.length
  if count = 0 then
    match w.atLimit with
    | .refuse reason => (s, .error (.failure (.submission (.notWritten (.refused reason)))))
    | .takeNothing => (s, .ok 0)
    | .breakDown => ({ s with broken := true }, .error .breakdown)
  else ({ s with held := s.held ++ bytes.take count }, .ok count)

/-- Hands bytes to the writer until it has taken all of them, or takes none. -/
def writeAll (w : Writer) (s : Stream) : List UInt8 → Stream × Except Stop Unit
  | [] => (s, .ok ())
  | byte :: bytes =>
    match s.offer w (byte :: bytes) with
    | (s, .error stop) => (s, .error stop)
    | (s, .ok 0) => (s, .error (.failure (.submission (.notWritten .tookNothing))))
    | (s, .ok (count + 1)) => s.writeAll w (bytes.drop count)
termination_by bytes => bytes.length
decreasing_by
  rw [List.length_drop, List.length_cons]
  omega

/-- Writes pieces one after the other, and has the writer pass on what it took. -/
def write (w : Writer) (s : Stream) : List (List UInt8) → Stream × Except Stop Unit
  | [] =>
    match w.flushFault? with
    | none => (s, .ok ())
    | some reason => (s, .error (.failure (.submission (.notWritten (.refused reason)))))
  | piece :: pieces =>
    match s.writeAll w piece with
    | (s, .error stop) => (s, .error stop)
    | (s, .ok ()) => s.write w pieces

end Stream

/-- The line before every manifest. -/
def documentMark : String := "---\n"

/-- The document of a Helm chart in the stream. -/
def HelmChart.document (c : HelmChart) : String := documentMark ++ c.manifest

/-- The pieces in which the document is written. -/
def HelmChart.pieces (c : HelmChart) : List (List UInt8) :=
  [Text.encode documentMark, Text.encode c.manifest]

/-- Submits a deployment to a stream. -/
def Stream.submit (w : Writer) (s : Stream) (d : Deployment) : Stream × Except Stop Unit :=
  match HelmChart.ofDeployment d with
  | .error e => (s, .error (.failure e))
  | .ok chart =>
    if s.broken then (s, .error (.failure (.submission .writerBroken)))
    else s.write w chart.pieces

end BackingServices
