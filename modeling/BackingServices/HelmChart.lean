import BackingServices.Cluster.Call
import BackingServices.Cluster.Resource
import BackingServices.Deployment
import BackingServices.Error
import BackingServices.Yaml.Printer

/-!
# Helm charts

A Helm chart is an object of the cluster that a controller turns into a release.  It
names the chart and the repository it is in, the version, the namespace of the
release, and the values as the text of a YAML document.

A chart whose source is an OCI reference is named by the reference as a whole and has
no repository; any other chart is named by its name, and the source is the
repository.

The same document is written in YAML for a dry run and sent in JSON to be applied.
`HelmChart.ofDocument` reads it back, and other documents of the schema: it keeps what
is known of the metadata, and drops all fields that are not known.
-/

namespace BackingServices

/-! ## Labels -/

/-- The label that says who manages an object. -/
def managedByLabel : String := "app.kubernetes.io/managed-by"

/-- The label that says which release an object is for. -/
def releaseLabel : String := "quartermaster.geeko.me/release"

/-! ## The object -/

/-- The metadata of an object. -/
structure Metadata where
  /-- The name. -/
  name? : Option String
  /-- What a generated name begins with. -/
  generateName? : Option String
  /-- The namespace. -/
  namespaceName? : Option String
  /-- The labels, in rising order. -/
  labels? : Option (List (String × String))
  /-- The annotations, in rising order. -/
  annotations? : Option (List (String × String))
  /-- The other known fields, in normal form and rising order. -/
  further : List (String × Json)
deriving DecidableEq

/-- What a Helm chart says about the release. -/
structure ChartSpec where
  /-- The name of the chart or the reference to it. -/
  chart : String
  /-- The repository of the chart. -/
  repo? : Option String
  /-- The version of the chart. -/
  version? : Option String
  /-- The namespace of the release. -/
  targetNamespace? : Option String
  /-- Whether the namespace is to be created. -/
  createNamespace? : Option Bool
  /-- The values that override the chart's own, as a document. -/
  valuesContent? : Option String
deriving DecidableEq

/-- A Helm chart. -/
structure HelmChart where
  /-- The metadata. -/
  metadata : Metadata
  /-- What it says about the release. -/
  spec : ChartSpec
deriving DecidableEq

/-! ## As a document -/

/-- A member if there is a value. -/
def optionalMember (key : String) (v? : Option Json) : List (String × Json) :=
  match v? with
  | some v => [(key, v)]
  | none => []

/-- An object of texts. -/
def textsToJson (texts : List (String × String)) : Json :=
  .object (texts.map fun (k, v) => (k, .string v))

namespace Metadata

/-- The members of the known fields that have a name here, in rising order. -/
def members (m : Metadata) : List (String × Json) :=
  optionalMember "annotations" (m.annotations?.map textsToJson) ++
    optionalMember "generateName" (m.generateName?.map .string) ++
    optionalMember "labels" (m.labels?.map textsToJson) ++
    optionalMember "name" (m.name?.map .string) ++
    optionalMember "namespace" (m.namespaceName?.map .string)

/-- The metadata as a document, its members in rising order. -/
def toJson (m : Metadata) : Json :=
  .object (m.further.foldr (fun (k, v) acc => Json.insert k v acc) m.members)

/-- The texts of an object of texts. -/
def texts : Json → List (String × String)
  | .object members => members.filterMap fun (k, v) => v.text?.map (k, ·)
  | _ => []

/-- The fields that have a name in `Metadata`. -/
def namedFields : List String := ["annotations", "generateName", "labels", "name", "namespace"]

/-- The metadata of a document in normal form. -/
def ofNormal (v : Json) : Metadata where
  name? := (v.get? "name").bind Json.text?
  generateName? := (v.get? "generateName").bind Json.text?
  namespaceName? := (v.get? "namespace").bind Json.text?
  labels? := (v.get? "labels").map texts
  annotations? := (v.get? "annotations").map texts
  further := match v with
    | .object members => members.filter fun (k, _) => k ∉ namedFields
    | _ => []

end Metadata

namespace ChartSpec

/-- The specification as a document. -/
def toJson (s : ChartSpec) : Json :=
  .object (("chart", .string s.chart) :: optionalMember "repo" (s.repo?.map .string) ++
    optionalMember "version" (s.version?.map .string) ++
    optionalMember "targetNamespace" (s.targetNamespace?.map .string) ++
    optionalMember "createNamespace" (s.createNamespace?.map .bool) ++
    optionalMember "valuesContent" (s.valuesContent?.map .string))

/-- The truth value of a value. -/
def flag? : Json → Option Bool
  | .bool b => some b
  | _ => none

/-- The specification in a document in normal form. -/
def ofNormal (v : Json) : ChartSpec where
  chart := ((v.get? "chart").bind Json.text?).getD ""
  repo? := (v.get? "repo").bind Json.text?
  version? := (v.get? "version").bind Json.text?
  targetNamespace? := (v.get? "targetNamespace").bind Json.text?
  createNamespace? := (v.get? "createNamespace").bind flag?
  valuesContent? := (v.get? "valuesContent").bind Json.text?

end ChartSpec

namespace HelmChart

/-- The version of the interface that the object belongs to. -/
def apiVersion : String := chartGroup ++ "/" ++ chartVersion

/-- The object as a document. -/
def toJson (c : HelmChart) : Json :=
  .object [("apiVersion", .string apiVersion), ("kind", .string chartKind),
    ("metadata", c.metadata.toJson), ("spec", c.spec.toJson)]

/-- The object in a document in normal form. -/
def ofNormal (v : Json) : HelmChart where
  metadata := .ofNormal ((v.get? "metadata").getD .null)
  spec := .ofNormal ((v.get? "spec").getD .null)

/-- Reads the object from a document. -/
def ofDocument (v : Json) : Except DecodeError HelmChart := do
  .ok (ofNormal (← Cluster.helmChartSchema.read v))

/-- Reads the object from a JSON text. -/
def ofText (text : String) : Except PlacedError HelmChart := do
  .ok (ofNormal (← Cluster.helmChartSchema.readText documentDepth text))

/-- The name of the object: its own, or else what a generated one begins with. -/
def name (c : HelmChart) : String := (c.metadata.name?.or c.metadata.generateName?).getD ""

/-! ## Of a deployment -/

/-- What an OCI reference begins with. -/
def ociScheme : String := "oci://"

/-- Whether a source is an OCI reference. -/
def isOci (source : String) : Bool := ociScheme.toList.isPrefixOf source.toList

/-- The Helm chart that installs a deployment. -/
def installing (d : Deployment) : HelmChart where
  metadata := {
    name? := some d.releaseName
    generateName? := none
    namespaceName? := some d.targetNamespace
    labels? := some [(managedByLabel, Cluster.fieldManager), (releaseLabel, d.releaseName)]
    annotations? := none
    further := [] }
  spec := {
    chart := if isOci d.sourceUri then d.sourceUri else d.chartName
    repo? := if isOci d.sourceUri then none else some d.sourceUri
    version? := some d.chartVersion
    targetNamespace? := some d.targetNamespace
    createNamespace? := some false
    valuesContent? := some (Yaml.render d.valueOverrides) }

/-- The Helm chart of a deployment, which must not ask to wait for the release. -/
def ofDeployment (d : Deployment) : Except ProvisionError HelmChart :=
  if d.blockUntilReady then .error (.submission (.blocking d.releaseName)) else .ok (installing d)

/-- The manifest of the object: its document in YAML. -/
def manifest (c : HelmChart) : String := Yaml.render c.toJson

/-! ## The definition of the kind -/

/-- The schema of an optional field in the definition. -/
def optionalFieldDefinition (type : String) : Json :=
  .object [("nullable", .bool true), ("type", .string type)]

/-- How the cluster addresses objects of the kind. -/
def apiResource : Json :=
  .object [("api_version", .string apiVersion), ("group", .string chartGroup),
    ("kind", .string chartKind), ("plural", .string "helmcharts"), ("version", .string chartVersion)]

/-- The schema of a specification in the definition. -/
def specDefinition : Json :=
  .object [
    ("description", .string ("HelmChart resource handled by the in-cluster Helm controller. " ++
      "The controller installs or upgrades a release named after the resource.")),
    ("properties", .object [
      ("chart", .object [("type", .string "string")]),
      ("createNamespace", optionalFieldDefinition "boolean"),
      ("repo", optionalFieldDefinition "string"),
      ("targetNamespace", optionalFieldDefinition "string"),
      ("valuesContent", optionalFieldDefinition "string"),
      ("version", optionalFieldDefinition "string")]),
    ("required", .array [.string "chart"]),
    ("type", .string "object")]

/-- The definition of the kind for the cluster. -/
def definition : Json :=
  .object [
    ("apiVersion", .string "apiextensions.k8s.io/v1"),
    ("kind", .string "CustomResourceDefinition"),
    ("metadata", .object [("name", .string ("helmcharts." ++ chartGroup))]),
    ("spec", .object [
      ("group", .string chartGroup),
      ("names", .object [("categories", .array []), ("kind", .string chartKind),
        ("plural", .string "helmcharts"), ("shortNames", .array []),
        ("singular", .string "helmchart")]),
      ("scope", .string "Namespaced"),
      ("versions", .array [.object [
        ("additionalPrinterColumns", .array []),
        ("name", .string chartVersion),
        ("schema", .object [("openAPIV3Schema", .object [
          ("description",
            .string "Auto-generated derived type for HelmChartSpec via `CustomResource`"),
          ("properties", .object [("spec", specDefinition)]),
          ("required", .array [.string "spec"]),
          ("title", .string chartKind),
          ("type", .string "object")])]),
        ("served", .bool true),
        ("storage", .bool true),
        ("subresources", .object [])]])])]

end HelmChart

end BackingServices
