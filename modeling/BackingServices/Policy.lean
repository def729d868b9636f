import BackingServices.DebugText
import BackingServices.Service

/-!
# Policies

A policy holds what is the same for all services that are onboarded: the registry
the charts are pulled from, the storage class of all volumes, the version of each
chart, where the credentials of the broker come from, and how long a generated
secret is.

The diagnostic text of credentials never shows a password.
-/

namespace BackingServices

/-- The versions of the charts. -/
structure ChartVersions where
  /-- The version of the cache's chart. -/
  cache : String
  /-- The version of the document store's chart. -/
  documentStore : String
  /-- The version of the broker's chart. -/
  broker : String
deriving DecidableEq

/-- The version of a backing service's chart. -/
def ChartVersions.of (v : ChartVersions) : Service → String
  | .cache => v.cache
  | .documentStore => v.documentStore
  | .broker => v.broker

/-- Where the credentials of the broker come from. -/
inductive BrokerCredentials where
  /-- They are a given user name and password. -/
  | fixed (username password : String)
  /-- The password is the secret that is generated for the run. -/
  | generated (username : String)
deriving DecidableEq

/-- The user name. -/
def BrokerCredentials.username : BrokerCredentials → String
  | .fixed username _ => username
  | .generated username => username

/-- Whether the password is generated. -/
def BrokerCredentials.isGenerated : BrokerCredentials → Bool
  | .fixed _ _ => false
  | .generated _ => true

/-- What is the same for all services. -/
structure Policy where
  /-- The root of the registry, without a chart's name. -/
  registryRoot : String
  /-- The storage class of all volumes. -/
  storageClass : String
  /-- The versions of the charts. -/
  chartVersions : ChartVersions
  /-- Where the credentials of the broker come from. -/
  brokerCredentials : BrokerCredentials
  /-- The length of a generated secret in hexadecimal digits. -/
  secretLength : Nat
deriving DecidableEq

/-- The greatest length of a generated secret. -/
def maxSecretLength : Nat := 1024

/-- The policy where nothing else is said. -/
def Policy.standard : Policy where
  registryRoot := "oci://registry-1.docker.io/bitnamicharts"
  storageClass := "gp2"
  chartVersions := ⟨"21.2.3", "16.5.21", "16.0.7"⟩
  brokerCredentials := .fixed "beckn" "beckn1234"
  secretLength := 12

/-! ## Diagnostic text -/

/-- The diagnostic text of versions. -/
def ChartVersions.debug (v : ChartVersions) : DebugText :=
  .record "ChartVersions" [("cache", .quoted v.cache), ("document_store", .quoted v.documentStore),
    ("broker", .quoted v.broker)] false

/-- The diagnostic text of credentials, without the password. -/
def BrokerCredentials.debug : BrokerCredentials → DebugText
  | .fixed username _ =>
    .record "Fixed" [("username", .quoted username), ("password", .quoted "<redacted>")] false
  | .generated username => .record "Generated" [("username", .quoted username)] false

/-- The diagnostic text of a policy. -/
def Policy.debug (p : Policy) : DebugText :=
  .record "ProvisionPolicy" [("registry_root", .quoted p.registryRoot),
    ("storage_class", .quoted p.storageClass), ("chart_versions", p.chartVersions.debug),
    ("broker_credentials", p.brokerCredentials.debug),
    ("secret_length", .leaf (toString p.secretLength))] false

end BackingServices
