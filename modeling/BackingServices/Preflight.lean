import BackingServices.Cluster.Call
import BackingServices.Cluster.Resource
import BackingServices.Error

/-!
# The preflight

Before anything is submitted the cluster is asked whether it serves Helm charts.  A
cluster lists its groups; a group lists its versions, of which it may prefer one; and
each version lists the kinds of objects it has.

The group of Helm charts is read with all its versions, in the order in which they are
listed.  Of what is read, the kinds of one version count: those of the version the group
prefers, or else of the most stable and newest one.  Kinds below another one, which have
a slash in their name, do not count.  A kind may say its own version, and has that of
its list otherwise.

If the group is listed more than once, the last one decides.
-/

namespace BackingServices

open Cluster (Dialogue ApiError)

namespace Preflight

/-! ## What is listed -/

/-- A version of a group. -/
structure GroupVersion where
  /-- The path of the version's list. -/
  groupVersion : String
  /-- The name of the version. -/
  version : String
deriving DecidableEq

/-- A group. -/
structure Group where
  /-- The name of the group. -/
  name : String
  /-- The name of the version it prefers. -/
  preferred? : Option String
  /-- The versions. -/
  versions : List GroupVersion
deriving DecidableEq

/-- A kind of objects. -/
structure Resource where
  /-- The name of the kind's collection. -/
  name : String
  /-- The name of the kind. -/
  kind : String
  /-- The version, if the kind says it. -/
  version? : Option String
deriving DecidableEq

/-- The kinds of a version. -/
structure ResourceList where
  /-- The path of the list. -/
  groupVersion : String
  /-- The kinds. -/
  resources : List Resource
deriving DecidableEq

/-- The text of a field, empty if there is none. -/
def field (v : Json) (key : String) : String := ((v.get? key).bind Json.text?).getD ""

/-- The values of a field, none if there is none. -/
def values (v : Json) (key : String) : List Json :=
  match v.get? key with
  | some (.array items) => items
  | _ => []

/-- The version in a document in normal form. -/
def GroupVersion.ofNormal (v : Json) : GroupVersion := ⟨field v "groupVersion", field v "version"⟩

/-- The group in a document in normal form. -/
def Group.ofNormal (v : Json) : Group where
  name := field v "name"
  preferred? := (v.get? "preferredVersion").map fun p => field p "version"
  versions := (values v "versions").map .ofNormal

/-- The kind in a document in normal form. -/
def Resource.ofNormal (v : Json) : Resource :=
  ⟨field v "name", field v "kind", (v.get? "version").bind Json.text?⟩

/-- The list in a document in normal form. -/
def ResourceList.ofNormal (v : Json) : ResourceList :=
  ⟨field v "groupVersion", (values v "resources").map .ofNormal⟩

/-! ## The priority of versions -/

/-- How stable a version is. -/
inductive Stability where
  /-- The name of the version says nothing. -/
  | other
  /-- An early draft. -/
  | alpha
  /-- A late draft. -/
  | beta
  /-- Neither. -/
  | stable
deriving DecidableEq

/-- The rank of a stability, the more stable the higher. -/
def Stability.rank : Stability → Nat
  | .other => 0
  | .alpha => 1
  | .beta => 2
  | .stable => 3

/-- What the name of a version says. -/
structure Priority where
  /-- How stable it is. -/
  stability : Stability
  /-- The number. -/
  major : Nat
  /-- The number behind the stability, one more than it says and zero if there is none. -/
  minor : Nat
  /-- The name, if it says nothing. -/
  name : String
deriving DecidableEq

/-- The value of at least one digit, if it is of 32 bits. -/
def number32? (cs : List Char) : Option Nat :=
  if cs.isEmpty || !cs.all Char.isDigit then none
  else
    let n := cs.foldl (fun acc c => acc * 10 + (c.toNat - 48)) 0
    if n < 4294967296 then some n else none

/-- The number behind a stability, which may be missing or have a plus sign. -/
def minor? : List Char → Option Nat
  | [] => some 0
  | '+' :: cs => (number32? cs).map (· + 1)
  | cs => (number32? cs).map (· + 1)

/-- What the name of a version says, if it has the usual form. -/
def Priority.ofName? (name : String) : Option Priority :=
  match name.toList with
  | 'v' :: cs => do
    let major ← number32? (cs.takeWhile Char.isDigit)
    match cs.dropWhile Char.isDigit with
    | [] => some ⟨.stable, major, 0, ""⟩
    | 'b' :: 'e' :: 't' :: 'a' :: rest => (minor? rest).map fun minor => ⟨.beta, major, minor, ""⟩
    | 'a' :: 'l' :: 'p' :: 'h' :: 'a' :: rest =>
      (minor? rest).map fun minor => ⟨.alpha, major, minor, ""⟩
    | _ => none
  | _ => none

/-- What the name of a version says. -/
def Priority.ofName (name : String) : Priority := (ofName? name).getD ⟨.other, 0, 0, name⟩

/-- Whether a priority is at least as high as another one. -/
def Priority.atLeast (a b : Priority) : Bool :=
  if a.stability ≠ b.stability then b.stability.rank < a.stability.rank
  else if a.major ≠ b.major then b.major < a.major
  else if a.minor ≠ b.minor then b.minor < a.minor
  else a.name ≤ b.name

/-! ## What counts -/

/-- The kinds of each version of a group, by the name of the version. -/
abbrev Served := List (String × ResourceList)

/-- The name of the version whose kinds count. -/
def recommendedVersion (preferred? : Option String) (served : Served) : String :=
  match preferred? with
  | some version => version
  | none =>
    (((served.map Prod.fst).mergeSort fun a b =>
      (Priority.ofName a).atLeast (Priority.ofName b)).head?).getD ""

/-- The version that a path names: what follows its first slash, or all of it. -/
def versionOf (groupVersion : String) : String :=
  match groupVersion.toList.dropWhile (· != '/') with
  | [] => groupVersion
  | _ :: rest => String.ofList rest

/-- Whether a kind is the one of Helm charts. -/
def Resource.isChart (list : ResourceList) (r : Resource) : Bool :=
  !r.name.toList.contains '/' && r.kind = chartKind &&
    r.version?.getD (versionOf list.groupVersion) = chartVersion

/-- Whether a list has the kind of Helm charts. -/
def ResourceList.hasChart (l : ResourceList) : Bool := l.resources.any fun r => r.isChart l

/-- Whether a group serves Helm charts. -/
def serves (preferred? : Option String) (served : Served) : Bool :=
  match served.lookup (recommendedVersion preferred? served) with
  | some list => list.hasChart
  | none => false

/-! ## The dialogue -/

/-- Reads the groups. -/
def readGroups : Dialogue (Except ApiError (List Group)) :=
  (Cluster.read Cluster.groupListSchema "/apis").andThen fun v =>
    .done (.ok ((values v "groups").map .ofNormal))

/-- Reads the kinds of versions, in order. -/
def readVersions : List GroupVersion → Dialogue (Except ApiError Served)
  | [] => .done (.ok [])
  | v :: vs =>
    (Cluster.read Cluster.resourceListSchema ("/apis/" ++ v.groupVersion)).andThen fun list =>
      (readVersions vs).andThen fun served =>
        .done (.ok ((v.version, .ofNormal list) :: served))

/-- Reads a group, which must have a version, and says whether it serves Helm charts. -/
def readGroup (g : Group) : Dialogue (Except ApiError Bool) :=
  if g.versions.isEmpty then .done (.error (.emptyGroup g.name))
  else (readVersions g.versions).andThen fun served => .done (.ok (serves g.preferred? served))

/-- Reads groups in order, of which the last one decides. -/
def readLast (found : Bool) : List Group → Dialogue (Except ApiError Bool)
  | [] => .done (.ok found)
  | g :: gs => (readGroup g).andThen fun found => readLast found gs

/-- Asks whether the cluster serves Helm charts. -/
def isServed : Dialogue (Except ApiError Bool) :=
  readGroups.andThen fun groups => readLast false (groups.filter fun g => g.name = chartGroup)

/-- Where the events of the preflight come from. -/
def source : String := "quartermaster::kubernetes::crd"

/-- Makes sure that the cluster serves Helm charts. -/
def ensure : Dialogue (Except ProvisionError Unit) :=
  .within ⟨"ensure_helm_chart_crd", [], .info, source⟩
    ((isServed.mapError .api).andThen fun served =>
      if served then
        .log (.plain .info source s!"HelmChart CRD ({chartGroup}/{chartVersion}) is available")
          (.done (.ok ()))
      else .done (.error .notServed))

end Preflight

end BackingServices
