import BackingServices.Deployment
import BackingServices.Secret

/-!
# The deployments of the backing services

The chart of a backing service lies below the root of the registry.  The values that
override its own say where it stores its data, and for the broker who may use it: the
password is the fixed one or, if it is generated, the secret of the run.
-/

namespace BackingServices

/-- A text without the slashes at its end. -/
def trimSlashes (s : String) : String :=
  String.ofList (s.toList.reverse.dropWhile (· == '/')).reverse

/-- Where a chart is: the root of the registry, a slash, and the chart's name. -/
def chartSource (registryRoot chartName : String) : String :=
  trimSlashes registryRoot ++ "/" ++ chartName

/-- The password of the broker. -/
def BrokerCredentials.password (secret : Secret) : BrokerCredentials → String
  | .fixed _ password => password
  | .generated _ => secret.expose

namespace Service

/-- A cache that needs no password, has no replica and stores its data. -/
def cacheValues (policy : Policy) : Json :=
  .object [("auth", .object [("enabled", .bool false)]),
    ("master", .object [("persistence", .object [("storageClass", .string policy.storageClass)])]),
    ("replica", .object [("replicaCount", .number (.ofNat 0 (by decide)))])]

/-- A document store that stores its data. -/
def documentStoreValues (policy : Policy) : Json :=
  .object [("persistence", .object [("storageClass", .string policy.storageClass)])]

/-- A broker that stores its data and has one user. -/
def brokerValues (policy : Policy) (secret : Secret) : Json :=
  .object [
    ("auth", .object [("password", .string (policy.brokerCredentials.password secret)),
      ("username", .string policy.brokerCredentials.username)]),
    ("persistence", .object [("enabled", .bool true), ("storageClass", .string policy.storageClass)])]

/-- The values that override those of a backing service's chart. -/
def values (policy : Policy) (secret : Secret) : Service → Json
  | .cache => cacheValues policy
  | .documentStore => documentStoreValues policy
  | .broker => brokerValues policy secret

/-- The deployment of a backing service in a namespace. -/
def deployment (policy : Policy) (namespaceName : String) (secret : Secret) (s : Service) :
    Deployment where
  chartName := s.chartName
  chartVersion := policy.chartVersions.of s
  releaseName := s.chartName
  targetNamespace := namespaceName
  sourceUri := chartSource policy.registryRoot s.chartName
  blockUntilReady := false
  valueOverrides := s.values policy secret

end Service

end BackingServices
