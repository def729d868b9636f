import BackingServices.Cluster.ApiError
import BackingServices.Policy

/-!
# Why provisioning fails

A request is refused for one of six faults.  A submission fails because a chart
cannot be installed as asked, because a namespace is not applied, because a manifest
cannot be written, or because an installer rejects it.

All failures fall into seven kinds.  The kind gives the first words of the wording.
What is behind a failure is often told in words from outside: those of the API server,
of the source of random bytes, of a writer.
-/

namespace BackingServices

/-! ## Kinds -/

/-- The kinds of failures. -/
inductive FailureKind where
  /-- The API server. -/
  | api
  /-- The configuration of the connection. -/
  | connection
  /-- The request itself. -/
  | request
  /-- The source of random bytes. -/
  | randomness
  /-- The submission of a chart. -/
  | submission
  /-- The rendering of a chart. -/
  | rendering
  /-- The kind of objects that charts are. -/
  | notServed
deriving DecidableEq

/-- All kinds. -/
def FailureKind.all : List FailureKind :=
  [.api, .connection, .request, .randomness, .submission, .rendering, .notServed]

/-- The name of a kind. -/
def FailureKind.name : FailureKind → String
  | .api => "KubeError"
  | .connection => "KubeconfigError"
  | .request => "InvalidRequest"
  | .randomness => "Randomness"
  | .submission => "Submission"
  | .rendering => "Serialization"
  | .notServed => "CrdNotAvailable"

/-- The first words of the wording of a failure. -/
def FailureKind.heading : FailureKind → String
  | .api => "Kubernetes API error"
  | .connection => "Failed to load kubeconfig"
  | .request => "Invalid provision request"
  | .randomness => "Secure random source failed"
  | .submission => "Chart submission failed"
  | .rendering => "Failed to render chart values"
  | .notServed => "Installer CRD not available"

/-- The wording of a failure of a kind with some details. -/
def FailureKind.describe (kind : FailureKind) (details : String) : String :=
  kind.heading ++ ": " ++ details

/-- The diagnostic text of a failure of a kind with some details. -/
def FailureKind.debug (kind : FailureKind) (details : String) : DebugText :=
  .wrapper kind.name [.quoted details]

/-! ## Faults of a request -/

/-- The greatest length of a namespace's name. -/
def maxNamespaceLength : Nat := 63

/-- Why a request is refused. -/
inductive RequestFault where
  /-- The service has no name. -/
  | noService
  /-- The suffix of the namespace is empty. -/
  | noSuffix
  /-- There is no cluster. -/
  | noCluster
  /-- The namespace's name is empty or too long. -/
  | badLength (namespaceName : String)
  /-- The namespace's name is not a label. -/
  | notLabel (namespaceName : String)
  /-- The secret would be empty or too long. -/
  | badSecretLength (length : Nat)
deriving DecidableEq

/-- The wording of a fault. -/
def RequestFault.message : RequestFault → String
  | .noService => "service name must not be empty"
  | .noSuffix => "namespace suffix must not be empty"
  | .noCluster => "no cluster handle supplied"
  | .badLength name => s!"namespace '{name}' must be between 1 and {maxNamespaceLength} characters"
  | .notLabel name => s!"namespace '{name}' is not a valid DNS-1123 label"
  | .badSecretLength length =>
    s!"secret length must be between 1 and {maxSecretLength}, got {length}"

/-! ## Faults of a submission -/

/-- Why a manifest is not written. -/
inductive WriteFault where
  /-- The writer refuses, for a reason of its own. -/
  | refused (reason : String)
  /-- Nothing of the text was taken. -/
  | tookNothing
deriving DecidableEq

/-- The wording of a fault. -/
def WriteFault.message : WriteFault → String
  | .refused reason => reason
  | .tookNothing => "failed to write whole buffer"

/-- Why a submission fails. -/
inductive SubmissionFault where
  /-- The release is to block until it is ready. -/
  | blocking (release : String)
  /-- The namespace was not applied. -/
  | namespaceNotApplied (namespaceName : String) (error : Cluster.ApiError)
  /-- The manifest was not written. -/
  | notWritten (fault : WriteFault)
  /-- The writer broke down earlier. -/
  | writerBroken
  /-- The installer rejects the release. -/
  | rejected (release : String)

/-- The wording of a fault. -/
def SubmissionFault.message : SubmissionFault → String
  | .blocking release =>
    s!"release {release} asks to block until ready, which HelmChart submission cannot honour"
  | .namespaceNotApplied name error => s!"Failed to apply namespace {name}: {error.message}"
  | .notWritten fault => s!"Failed to write manifest: {fault.message}"
  | .writerBroken => "dry-run output lock poisoned"
  | .rejected release => s!"release {release} rejected"

/-! ## Failures -/

/-- The group of the objects that charts are. -/
def chartGroup : String := "helm.cattle.io"

/-- The version of the objects that charts are. -/
def chartVersion : String := "v1"

/-- The kind of the objects that charts are. -/
def chartKind : String := "HelmChart"

/-- Why provisioning fails. -/
inductive ProvisionError where
  /-- A request to the API server failed. -/
  | api (error : Cluster.ApiError)
  /-- There is no connection to a cluster, as the wording of the reason says. -/
  | connection (reason : String)
  /-- The request is refused. -/
  | request (fault : RequestFault)
  /-- There are no random bytes, as the wording of the reason says. -/
  | randomness (reason : String)
  /-- A submission failed. -/
  | submission (fault : SubmissionFault)
  /-- A chart or its values cannot be rendered, as the wording of the reason says.  Those that there are
  can, so that this is what other renderings would fail with. -/
  | rendering (reason : String)
  /-- The cluster does not serve Helm charts. -/
  | notServed

namespace ProvisionError

/-- The kind of a failure. -/
def kind : ProvisionError → FailureKind
  | .api _ => .api
  | .connection _ => .connection
  | .request _ => .request
  | .randomness _ => .randomness
  | .submission _ => .submission
  | .rendering _ => .rendering
  | .notServed => .notServed

/-- The details of a failure. -/
def details : ProvisionError → String
  | .api error => error.message
  | .connection reason => reason
  | .request fault => fault.message
  | .randomness reason => reason
  | .submission fault => fault.message
  | .rendering reason => reason
  | .notServed =>
    s!"{chartKind} ({chartGroup}/{chartVersion}) is not served by the cluster; " ++
      "is the Helm controller installed?"

/-- The wording of a failure. -/
def message (e : ProvisionError) : String := e.kind.describe e.details

/-- The wordings of a failure and its deeper causes, outermost first. -/
def chain (e : ProvisionError) : List String :=
  e.message :: (match e with
    | .api error => error.chain
    | _ => [])

/-- The diagnostic text of a failure. -/
def debug (e : ProvisionError) : DebugText := e.kind.debug e.details

end ProvisionError

end BackingServices
