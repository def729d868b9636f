import BackingServices.Cluster.Handle
import BackingServices.HelmChart

/-!
# Submissions

A deployment is submitted to a cluster by applying two objects: its namespace, and
then its Helm chart in that namespace.  The namespace is applied again by every
submission, which changes nothing if it is there.  The chart is applied only after the
server has accepted the namespace.

A server accepts an object if its answer is no failure and reads as an object of the
kind.
-/

namespace BackingServices

open Cluster (Dialogue)

/-- The namespace as it is applied. -/
def namespaceObject (name : String) : Json :=
  .object [("apiVersion", .string "v1"), ("kind", .string "Namespace"),
    ("metadata", .object [
      ("labels", .object [(managedByLabel, .string Cluster.fieldManager)]), ("name", .string name)])]

/-- The path of the namespaces. -/
def namespacesPath : String := "/api/v1/namespaces"

/-- The path of the Helm charts of a namespace. -/
def chartsPath (namespaceName : String) : String :=
  "/apis/" ++ HelmChart.apiVersion ++ "/namespaces/" ++ namespaceName ++ "/helmcharts"

/-- Where the events about namespaces come from. -/
def namespaceSource : String := "quartermaster::kubernetes::namespaces"

/-- Where the events about submissions come from. -/
def submissionSource : String := "quartermaster::kubernetes::installer"

/-- Applies a namespace. -/
def applyNamespace (name : String) : Dialogue (Except ProvisionError Unit) :=
  .within ⟨"apply_namespace", [⟨"namespace", .text name⟩], .info, namespaceSource⟩
    (((Cluster.apply Cluster.namespaceSchema namespacesPath name (namespaceObject name)).mapError
        fun e => .submission (.namespaceNotApplied name e)).andThen
      fun _ => .log (.plain .debug namespaceSource s!"Namespace {name} applied") (.done (.ok ())))

/-- Applies the Helm chart of a deployment. -/
def applyChart (d : Deployment) (chart : HelmChart) : Dialogue (Except ProvisionError Unit) :=
  ((Cluster.apply Cluster.helmChartSchema (chartsPath d.targetNamespace) d.releaseName
      chart.toJson).mapError .api).andThen
    fun _ =>
      .log (.plain .info submissionSource (s!"Submitted chart {d.chartName} {d.chartVersion} " ++
        s!"as release {d.targetNamespace}/{d.releaseName}")) (.done (.ok ()))

/-- The span of a submission. -/
def submissionSpan (cluster : Cluster.Handle) (d : Deployment) : Span :=
  ⟨"submit", [⟨"cluster", .shown cluster.name⟩, ⟨"release", .shown d.releaseName⟩,
    ⟨"namespace", .shown d.targetNamespace⟩], .info, submissionSource⟩

/-- Submits a deployment to a cluster. -/
def submit (cluster : Cluster.Handle) (d : Deployment) : Dialogue (Except ProvisionError Unit) :=
  .within (submissionSpan cluster d)
    (match HelmChart.ofDeployment d with
    | .error e => .done (.error e)
    | .ok chart => (applyNamespace d.targetNamespace).andThen fun () => applyChart d chart)

/-- Submits deployments side by side.  A submission has two turns, one for each object. -/
def submitAll (cluster : Cluster.Handle) (ds : List Deployment) :
    Dialogue (Except ProvisionError Unit) :=
  .rounds 2 (ds.map (submit cluster))

end BackingServices
