import BackingServices.Json.Schema

/-!
# Objects of the cluster

The schemas of the objects that the API server sends: the metadata that all
objects have, namespaces, Helm charts, and the lists that tell which kinds of
objects a cluster serves.

The cluster's own objects are keyed records, all of whose fields may be missing.
A Helm chart is a positional record with two required fields.
-/

namespace BackingServices.Cluster

/-- A keyed record of optional fields. -/
def optionalFields : List (String × Schema) → Fields
  | [] => .nil
  | (name, schema) :: rest => .cons name (.absent .null) (.optional schema) (optionalFields rest)

/-- Fields that stand for a value when they are missing. -/
def defaultFields (fields : List (String × Schema × Json)) (rest : Fields) : Fields :=
  fields.foldr (fun (name, schema, value) acc => .cons name (.absent value) (.optional schema) acc) rest

/-- A number of 64 bits. -/
def int64 : Schema := .integer "i64" (-9223372036854775808) 9223372036854775807

/-- The fields that name the type of an object, which must be given ones if they are there. -/
def typeFields (apiVersion kind : String) (rest : Fields) : Fields :=
  .cons "apiVersion" (.absent .null) (.constant apiVersion)
    (.cons "kind" (.absent .null) (.constant kind) rest)

/-! ## Metadata -/

/-- Who owns an object. -/
def ownerReference : Schema :=
  .record .keyed "OwnerReference"
    (defaultFields [("apiVersion", .text, .string ""), ("kind", .text, .string ""),
      ("name", .text, .string ""), ("uid", .text, .string "")]
      (optionalFields [("blockOwnerDeletion", .flag), ("controller", .flag)]))

/-- Who manages which fields of an object. -/
def managedFields : Schema :=
  .record .keyed "ManagedFieldsEntry" (optionalFields [
    ("apiVersion", .text), ("fieldsType", .text), ("fieldsV1", .anything), ("manager", .text),
    ("operation", .text), ("subresource", .text), ("time", .instant)])

/-- The metadata of an object. -/
def objectMeta : Schema :=
  .record .keyed "ObjectMeta" (optionalFields [
    ("annotations", .dictionary .text), ("creationTimestamp", .instant),
    ("deletionGracePeriodSeconds", int64), ("deletionTimestamp", .instant),
    ("finalizers", .list .text), ("generateName", .text), ("generation", int64),
    ("labels", .dictionary .text), ("managedFields", .list managedFields), ("name", .text),
    ("namespace", .text), ("ownerReferences", .list ownerReference), ("resourceVersion", .text),
    ("selfLink", .text), ("uid", .text)])

/-! ## Objects that are written -/

/-- A condition that a namespace is in. -/
def namespaceCondition : Schema :=
  .record .keyed "NamespaceCondition" (optionalFields [
    ("lastTransitionTime", .instant), ("message", .text), ("reason", .text), ("status", .text),
    ("type", .text)])

/-- A namespace. -/
def namespaceSchema : Schema :=
  .record .keyed "Namespace" (typeFields "v1" "Namespace" (optionalFields [
    ("metadata", objectMeta),
    ("spec", .record .keyed "NamespaceSpec" (optionalFields [("finalizers", .list .text)])),
    ("status", .record .keyed "NamespaceStatus" (optionalFields [
      ("conditions", .list namespaceCondition), ("phase", .text)]))]))

/-- The specification of a Helm chart. -/
def helmChartSpecSchema : Schema :=
  .record .positional "HelmChartSpec"
    (.cons "chart" .required .text
      (.cons "repo" .required (.optional .text)
        (.cons "version" .required (.optional .text)
          (.cons "targetNamespace" .required (.optional .text)
            (.cons "createNamespace" .required (.optional .flag)
              (.cons "valuesContent" .required (.optional .text) .nil))))))

/-- A Helm chart. -/
def helmChartSchema : Schema :=
  .record .positional "HelmChart"
    (.cons "metadata" .required objectMeta (.cons "spec" .required helmChartSpecSchema .nil))

/-! ## What a cluster serves -/

/-- A version of a group. -/
def groupVersionSchema : Schema :=
  .record .keyed "GroupVersionForDiscovery" (optionalFields [("groupVersion", .text), ("version", .text)])

/-- A group of kinds of objects. -/
def groupSchema : Schema :=
  .record .keyed "APIGroup" (typeFields "v1" "APIGroup" (optionalFields [
    ("name", .text), ("preferredVersion", groupVersionSchema),
    ("serverAddressByClientCIDRs", .list (.record .keyed "ServerAddressByClientCIDR" (optionalFields [
      ("clientCIDR", .text), ("serverAddress", .text)]))),
    ("versions", .list groupVersionSchema)]))

/-- The list of groups. -/
def groupListSchema : Schema :=
  .record .keyed "APIGroupList" (typeFields "v1" "APIGroupList" (optionalFields [
    ("groups", .list groupSchema)]))

/-- A kind of objects. -/
def resourceSchema : Schema :=
  .record .keyed "APIResource" (optionalFields [
    ("categories", .list .text), ("group", .text), ("kind", .text), ("name", .text),
    ("namespaced", .flag), ("shortNames", .list .text), ("singularName", .text),
    ("storageVersionHash", .text), ("verbs", .list .text), ("version", .text)])

/-- The list of the kinds of objects of a version. -/
def resourceListSchema : Schema :=
  .record .keyed "APIResourceList" (typeFields "v1" "APIResourceList" (optionalFields [
    ("groupVersion", .text), ("resources", .list resourceSchema)]))

end BackingServices.Cluster
