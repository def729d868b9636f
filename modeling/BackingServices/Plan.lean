import BackingServices.Charts
import BackingServices.Cluster.Handle
import BackingServices.NamespaceName
import BackingServices.Text.Blank

/-!
# Plans

An onboarding names a service, a suffix and a cluster.  A plan for it says what will
be submitted: the namespace, the deployment of each backing service in it, and the
secret of the run.

An onboarding is refused if the service's name has nothing but white space, the
suffix is empty, there is no cluster, the namespace's name is no label, or the policy
asks for a secret of a length that there is none of.  The first of these decides.
Planning submits nothing.
-/

namespace BackingServices

/-- Which service is onboarded, with which suffix, on which cluster. -/
structure Onboarding where
  /-- The name of the service. -/
  service : String
  /-- The suffix of the namespace. -/
  suffix : String
  /-- The cluster. -/
  cluster? : Option Cluster.Handle
deriving DecidableEq

namespace Onboarding

/-- The name of the namespace. -/
def namespaceName (o : Onboarding) : String := NamespaceName.derive o.service o.suffix

/-- Checks that the three parts are there, and gives the cluster. -/
def validate (o : Onboarding) : Except ProvisionError Cluster.Handle :=
  if Text.allBlank o.service then .error (.request .noService)
  else if o.suffix = "" then .error (.request .noSuffix)
  else
    match o.cluster? with
    | none => .error (.request .noCluster)
    | some cluster => .ok cluster

/-- The diagnostic text of an onboarding. -/
def debug (o : Onboarding) : DebugText :=
  .record "ProvisionRequest" [("service_name", .quoted o.service),
    ("namespace_suffix", .quoted o.suffix),
    ("cluster", .option (o.cluster?.map Cluster.Handle.debug))] false

end Onboarding

/-- What will be submitted. -/
structure Plan where
  /-- The name of the namespace. -/
  namespaceName : String
  /-- The deployment of the cache. -/
  cache : Deployment
  /-- The deployment of the document store. -/
  documentStore : Deployment
  /-- The deployment of the broker. -/
  broker : Deployment
  /-- The secret of the run. -/
  secret : Secret
deriving DecidableEq

namespace Plan

/-- The deployments in the order in which they are submitted. -/
def deployments (p : Plan) : List Deployment := [p.cache, p.documentStore, p.broker]

/-- The names of the releases in that order. -/
def releaseNames (p : Plan) : List String := p.deployments.map Deployment.releaseName

/-- The diagnostic text of a plan. -/
def debug (p : Plan) : DebugText :=
  .record "ProvisionPlan" [("namespace", .quoted p.namespaceName), ("cache", p.cache.debug),
    ("document_store", p.documentStore.debug), ("broker", p.broker.debug), ("secret", p.secret.debug)]
    false

/-- The plan for a namespace and a secret. -/
def of (policy : Policy) (namespaceName : String) (secret : Secret) : Plan where
  namespaceName := namespaceName
  cache := Service.cache.deployment policy namespaceName secret
  documentStore := Service.documentStore.deployment policy namespaceName secret
  broker := Service.broker.deployment policy namespaceName secret
  secret := secret

/-- The plan for an onboarding, with the cluster it is for. -/
def make (policy : Policy) (random : RandomSource) (o : Onboarding) :
    Except ProvisionError (Plan × Cluster.Handle) := do
  let cluster ← o.validate
  NamespaceName.validate o.namespaceName
  let secret ← Secret.generate policy.secretLength random
  .ok (of policy o.namespaceName secret, cluster)

end Plan

end BackingServices
