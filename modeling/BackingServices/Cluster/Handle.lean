import BackingServices.DebugText

/-!
# Handles of clusters

A handle is what the rest of the library knows of a cluster it is connected to: its
name, and the namespace that its context has.
-/

namespace BackingServices.Cluster

/-- A cluster that is connected to. -/
structure Handle where
  /-- The name of the context, or the address of the cluster if no context is named. -/
  name : String
  /-- The namespace of the context. -/
  defaultNamespace : String
deriving DecidableEq

/-- The diagnostic text of a handle, which shows the name only. -/
def Handle.debug (h : Handle) : DebugText := .record "ClusterHandle" [("name", .quoted h.name)] true

end BackingServices.Cluster
