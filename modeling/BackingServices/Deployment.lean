import BackingServices.Json.Basic

/-!
# Deployments

A deployment says everything that is needed to install one backing service: which
chart in which version and from where, the release and the namespace it becomes, and
the values that override the chart's own.
-/

namespace BackingServices

/-- What is needed to install one backing service. -/
structure Deployment where
  /-- The name of the chart. -/
  chartName : String
  /-- The version of the chart. -/
  chartVersion : String
  /-- The name of the release. -/
  releaseName : String
  /-- The namespace of the release. -/
  targetNamespace : String
  /-- Where the chart is. -/
  sourceUri : String
  /-- Whether to wait until the release is ready. -/
  blockUntilReady : Bool
  /-- The values that override those of the chart. -/
  valueOverrides : Json
deriving DecidableEq

namespace Deployment

/-- The deployment as a document. -/
def toJson (d : Deployment) : Json :=
  .object [("chartName", .string d.chartName), ("chartVersion", .string d.chartVersion),
    ("releaseName", .string d.releaseName), ("targetNamespace", .string d.targetNamespace),
    ("sourceRepositoryUri", .string d.sourceUri), ("blockUntilReady", .bool d.blockUntilReady),
    ("valueOverrides", d.valueOverrides)]

/-- The diagnostic text of a deployment. -/
def debug (d : Deployment) : DebugText :=
  .record "DeploymentSpec" [("chart_name", .quoted d.chartName),
    ("chart_version", .quoted d.chartVersion), ("release_name", .quoted d.releaseName),
    ("target_namespace", .quoted d.targetNamespace), ("source_repository_uri", .quoted d.sourceUri),
    ("block_until_ready", .leaf (if d.blockUntilReady then "true" else "false")),
    ("value_overrides", d.valueOverrides.debug)] false

end Deployment

end BackingServices
