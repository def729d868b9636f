import BackingServices.Provisioning

/-!
# Recorders

A recorder is an installer that installs nothing.  It records every deployment it is
asked to submit, and it rejects those whose release is on its list.
-/

namespace BackingServices

/-- What a recorder was asked to submit, and where. -/
structure Attempt where
  /-- The name of the cluster. -/
  clusterName : String
  /-- The deployment. -/
  deployment : Deployment
deriving DecidableEq

namespace Attempt

/-- An attempt in a line: the cluster, the release in its namespace, where the chart is and its
version. -/
def text (a : Attempt) : String :=
  a.clusterName ++ " " ++ a.deployment.targetNamespace ++ "/" ++ a.deployment.releaseName ++ " " ++
    a.deployment.sourceUri ++ " " ++ a.deployment.chartVersion

end Attempt

/-- The recorder that rejects some releases; its state is the list of all attempts, in order. -/
def recorder (rejected : List String) : Installer (List Attempt) := fun attempts cluster d =>
  (attempts ++ [⟨cluster.name, d⟩],
    if d.releaseName ∈ rejected then .error (.failure (.submission (.rejected d.releaseName)))
    else .ok ())

end BackingServices
