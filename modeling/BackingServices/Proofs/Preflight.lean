import BackingServices.Json.Printer
import BackingServices.Proofs.Discovery

/-!
# What the preflight finds

Of a cluster that lists its groups, its versions and their kinds, and among the groups one of Helm
charts, the preflight asks for the kinds of every version.  It then looks at one version only: the
one the group prefers, or else the one that ranks above the others (`ensure_decides`).  So a
cluster that serves Helm charts in the right version is refused if it prefers another version
(`served_not_found`).
-/

namespace BackingServices

open Cluster

namespace Preflight

/-! ## Priorities -/

theorem Stability.eq_of_rank {a b : Stability} (h : a.rank = b.rank) : a = b := by
  cases a <;> cases b <;> first | rfl | contradiction

namespace Priority

theorem atLeast_total (a b : Priority) : (a.atLeast b || b.atLeast a) = true := by
  have hrank := @Stability.eq_of_rank a.stability b.stability
  have hname := String.le_total a.name b.name
  simp only [atLeast]
  grind

theorem atLeast_trans (a b c : Priority) (hab : a.atLeast b = true) (hbc : b.atLeast c = true) :
    a.atLeast c = true := by
  have hrank := @Stability.eq_of_rank a.stability c.stability
  have hname := @String.le_trans a.name b.name c.name
  simp only [atLeast] at *
  grind

theorem atLeast_refl (a : Priority) : a.atLeast a = true := by
  simpa using atLeast_total a a

end Priority

/-- A version ranks at least as high as another one. -/
def AtLeast (version other : String) : Prop :=
  (Priority.ofName version).atLeast (Priority.ofName other) = true

/-- A version is listed, and no other version ranks as high. -/
structure Highest (version : String) (served : Served) : Prop where
  listed : version ∈ served.map Prod.fst
  above : ∀ other ∈ served.map Prod.fst, other ≠ version → ¬ AtLeast other version

/-- If no version is preferred, one counts that ranks at least as high as all others. -/
theorem recommendedVersion_atLeast {served : Served} {version : String}
    (h : version ∈ served.map Prod.fst) :
    recommendedVersion none served ∈ served.map Prod.fst ∧
      AtLeast (recommendedVersion none served) version := by
  rw [recommendedVersion]
  generalize hsorted : (served.map Prod.fst).mergeSort (fun a b =>
    (Priority.ofName a).atLeast (Priority.ofName b)) = sorted
  have hmem {v : String} : v ∈ served.map Prod.fst ↔ v ∈ sorted := by
    rw [← hsorted, List.mem_mergeSort]
  have hpairwise : sorted.Pairwise AtLeast := by
    rw [← hsorted]
    exact List.pairwise_mergeSort
      (fun a b c => Priority.atLeast_trans (.ofName a) (.ofName b) (.ofName c))
      (fun a b => Priority.atLeast_total (.ofName a) (.ofName b)) _
  rw [hmem] at h
  cases sorted with
  | nil => contradiction
  | cons first rest =>
    refine ⟨hmem.mpr (.head _), ?_⟩
    cases h with
    | head => exact Priority.atLeast_refl _
    | tail _ hrest => exact (List.pairwise_cons.mp hpairwise).1 version hrest

/-- The version that counts is the preferred one, or none is preferred and it is the highest. -/
inductive Counts (served : Served) : Option String → String → Prop where
  | preferred (version : String) : Counts served (some version) version
  | highest {version : String} (h : Highest version served) : Counts served none version

theorem Counts.recommended {served : Served} {preferred? : Option String} {version : String}
    (h : Counts served preferred? version) : recommendedVersion preferred? served = version := by
  cases h with
  | preferred => rfl
  | highest h =>
    obtain ⟨hmem, hatLeast⟩ := recommendedVersion_atLeast h.listed
    by_cases heq : recommendedVersion none served = version
    · exact heq
    · exact absurd hatLeast (h.above _ hmem heq)

theorem serves_iff {served : Served} {preferred? : Option String} {version : String}
    (h : Counts served preferred? version) :
    serves preferred? served = true ↔
      ∃ list, served.lookup version = some list ∧ ListsCharts list := by
  rw [serves, h.recommended]
  cases served.lookup version with
  | none => simp
  | some list => simp [hasChart_iff]

/-! ## Clusters that list what they serve -/

/-- A cluster lists its groups, among them one of Helm charts, and the kinds of its versions. -/
inductive Discovered (server : Server) (history : List Request) :
    Option String → Served → Prop where
  | intro {groups : Json} {g : Group} {served : Served}
      (hgroups : (server history groupsRequest).read groupListSchema = .ok groups)
      (honly : chartGroups groups = [g])
      (hlisted : Listed server (history ++ [groupsRequest]) g.versions served) :
      Discovered server history g.preferred? served

variable {server : Server} {history : List Request} {preferred? : Option String} {served : Served}
  {version : String}

theorem Listed.ne_nil {versions : List GroupVersion} (h : Listed server history versions served)
    (hversion : version ∈ served.map Prod.fst) : versions ≠ [] := by
  cases h with
  | nil => contradiction
  | cons => exact List.cons_ne_nil _ _

/-- A cluster that is discovered is one that the preflight comes to the end of. -/
theorem Discovered.completed (h : Discovered server history preferred? served)
    (hversion : version ∈ served.map Prod.fst) :
    ∃ g, g.preferred? = preferred? ∧ Completed server history [g] [served] := by
  cases h with
  | @intro groups g _ hgroups honly hlisted =>
    have hsurveyed : Surveyed server (history ++ [groupsRequest]) [g] [served] :=
      .cons (hlisted.ne_nil hversion) hlisted (.nil _)
    rw [← honly] at hsurveyed
    exact ⟨g, rfl, honly ▸ .intro hgroups hsurveyed⟩

/-- What comes of the preflight says whether the version that counts has Helm charts. -/
theorem Discovered.run (h : Discovered server history preferred? served)
    (hversion : version ∈ served.map Prod.fst) :
    (ensure.run server history).result =
      if serves preferred? served then .ok () else .error .notServed := by
  obtain ⟨g, rfl, hcompleted⟩ := h.completed hversion
  have hfound : found false [g] [served] = true ↔ Recommended [g] [served] := found_iff
  rw [show found false [g] [served] = serves g.preferred? served from rfl] at hfound
  rcases hcompleted.run.2 with ⟨hcharts, hresult, -⟩ | ⟨hnone, hresult, -⟩
  · rw [hresult, if_pos (hfound.mpr hcharts)]
  · rw [hresult, if_neg (mt hfound.mp hnone)]

/-- The preflight is passed if and only if the version that counts lists Helm charts.  Otherwise it
fails, whatever the other versions list. -/
theorem ensure_decides (h : Discovered server history preferred? served)
    (hversion : Counts served preferred? version) (hlisted : served ≠ []) :
    ((ensure.run server history).result = .ok () ↔
        ∃ list, served.lookup version = some list ∧ ListsCharts list) ∧
      ((ensure.run server history).result = .error .notServed ↔
        ¬ ∃ list, served.lookup version = some list ∧ ListsCharts list) := by
  obtain ⟨first, hfirst⟩ := List.exists_mem_of_ne_nil served hlisted
  rw [h.run (List.mem_map_of_mem hfirst), ← serves_iff hversion]
  cases serves preferred? served with
  | true => simp
  | false => simp

/-! ## Answers that are documents -/

/-- The normal form of a JSON text that is given by its characters. -/
def readChars (schema : Schema) (cs : List Char) : Except PlacedError Json :=
  match (do
    let v ← Reading.value (4 * cs.length + 16) documentDepth schema
    Reading.atEnd
    return v : Reading Json) (Cursor.start cs) with
  | .ok v _ => .ok v
  | .error e _ => .error e

theorem readText_eq (schema : Schema) (text : String) :
    schema.readText documentDepth text = readChars schema text.toList := rfl

/-- The answer that is a document. -/
def documentAnswer (v : Json) : Answer := .response 200 (v.chars.map fun c => c.val.toUInt8)

/-- What is read of the characters of a document is read of the answer. -/
theorem read_documentAnswer {α : Type} {v : Json} {schema : Schema} {f : Json → α} {a : α}
    (hbytes : Text.Utf8.scan (v.chars.map fun c => c.val.toUInt8).length 0
      (v.chars.map fun c => c.val.toUInt8) = (v.chars, none))
    (hchars : (readChars schema v.chars).toOption.map f = some a) :
    ∃ u, (documentAnswer v).read schema = .ok u ∧ f u = a := by
  have htext : Text.decode? (v.chars.map fun c => c.val.toUInt8) = .ok (String.ofList v.chars) := by
    rw [Text.decode?, hbytes]
  -- the characters themselves are read, so that nothing has to be evaluated through a text
  have hread : schema.readText documentDepth (String.ofList v.chars) = readChars schema v.chars := by
    rw [readText_eq, String.toList_ofList]
  cases hv : readChars schema v.chars with
  | error e =>
    rw [hv] at hchars
    contradiction
  | ok u =>
    rw [hv] at hchars
    refine ⟨u, ?_, Option.some.inj hchars⟩
    rw [documentAnswer, Answer.read, htext]
    simp [isFailure, hread, hv]

theorem accepts_documentAnswer {v : Json} {schema : Schema}
    (hbytes : Text.Utf8.scan (v.chars.map fun c => c.val.toUInt8).length 0
      (v.chars.map fun c => c.val.toUInt8) = (v.chars, none))
    (hchars : (readChars schema v.chars).toOption.map (fun _ => ()) = some ()) :
    (documentAnswer v).Accepts schema := by
  obtain ⟨u, hread, -⟩ := read_documentAnswer hbytes hchars
  exact Answer.accepts_iff.mpr ⟨u, hread⟩

/-! ## A cluster with two versions -/

/-- A version in the list of groups. -/
def versionEntry (version : String) : Json :=
  .object [("groupVersion", .string ("helm.cattle.io/" ++ version)), ("version", .string version)]

/-- The groups of a cluster that has Helm charts in two versions and prefers one of them. -/
def twoVersionsGroups (preferred : String) : Json :=
  .object [("groups", .array [.object [("name", .string "helm.cattle.io"),
    ("versions", .array [versionEntry "v2", versionEntry "v1"]),
    ("preferredVersion", versionEntry preferred)]])]

/-- The kinds of one of the versions. -/
def twoVersionsKinds (version : String) : Json :=
  .object [("groupVersion", .string ("helm.cattle.io/" ++ version)), ("resources", .array [
    .object [("name", .string "helmcharts"), ("kind", .string "HelmChart")]])]

/-- The cluster. -/
def twoVersions (preferred : String) : Server := fun _ request =>
  documentAnswer (
    if request.target.path = "/apis" then twoVersionsGroups preferred
    else if request.target.path = "/apis/helm.cattle.io/v2" then twoVersionsKinds "v2"
    else twoVersionsKinds "v1")

/-- What the cluster serves. -/
def twoVersionsServed : Served :=
  [("v2", ⟨"helm.cattle.io/v2", [⟨"helmcharts", "HelmChart", none⟩]⟩),
    ("v1", ⟨"helm.cattle.io/v1", [⟨"helmcharts", "HelmChart", none⟩]⟩)]

theorem read_twoVersionsGroups {preferred : String} (h : preferred = "v2" ∨ preferred = "v1") :
    ∃ v, (documentAnswer (twoVersionsGroups preferred)).read groupListSchema = .ok v ∧
      chartGroups v = [⟨"helm.cattle.io", some preferred,
        [⟨"helm.cattle.io/v2", "v2"⟩, ⟨"helm.cattle.io/v1", "v1"⟩]⟩] := by
  rcases h with rfl | rfl
  · exact read_documentAnswer (by decide +kernel) (by decide +kernel)
  · exact read_documentAnswer (by decide +kernel) (by decide +kernel)

theorem read_twoVersionsKinds {version : String} (h : version = "v2" ∨ version = "v1") :
    ∃ v, (documentAnswer (twoVersionsKinds version)).read resourceListSchema = .ok v ∧
      ResourceList.ofNormal v =
        ⟨"helm.cattle.io/" ++ version, [⟨"helmcharts", "HelmChart", none⟩]⟩ := by
  rcases h with rfl | rfl
  · exact read_documentAnswer (by decide +kernel) (by decide +kernel)
  · exact read_documentAnswer (by decide +kernel) (by decide +kernel)

theorem twoVersions_groups (preferred : String) (history : List Request) :
    twoVersions preferred history groupsRequest = documentAnswer (twoVersionsGroups preferred) :=
  congrArg documentAnswer (if_pos rfl)

theorem twoVersions_newer (preferred : String) (history : List Request) :
    twoVersions preferred history (readRequest ⟨"/apis/helm.cattle.io/v2", none⟩) =
      documentAnswer (twoVersionsKinds "v2") :=
  congrArg documentAnswer ((if_neg (by decide)).trans (if_pos rfl))

theorem twoVersions_older (preferred : String) (history : List Request) :
    twoVersions preferred history (readRequest ⟨"/apis/helm.cattle.io/v1", none⟩) =
      documentAnswer (twoVersionsKinds "v1") :=
  congrArg documentAnswer ((if_neg (by decide)).trans (if_neg (by decide)))

theorem discovered_twoVersions {preferred : String} (h : preferred = "v2" ∨ preferred = "v1") :
    Discovered (twoVersions preferred) [] (some preferred) twoVersionsServed := by
  obtain ⟨groups, hgroups, honly⟩ := read_twoVersionsGroups h
  obtain ⟨newer, hnewer, hnewerKinds⟩ := read_twoVersionsKinds (.inl rfl)
  obtain ⟨older, holder, holderKinds⟩ := read_twoVersionsKinds (.inr rfl)
  have hlisted : Listed (twoVersions preferred) [groupsRequest]
      [⟨"helm.cattle.io/v2", "v2"⟩, ⟨"helm.cattle.io/v1", "v1"⟩]
      [("v2", .ofNormal newer), ("v1", .ofNormal older)] := by
    rw [← twoVersions_newer preferred [groupsRequest]] at hnewer
    rw [← twoVersions_older preferred
      [groupsRequest, readRequest ⟨"/apis/helm.cattle.io/v2", none⟩]] at holder
    exact .cons rfl hnewer (.cons rfl holder (.nil _))
  rw [hnewerKinds, holderKinds] at hlisted
  rw [← twoVersions_groups preferred []] at hgroups
  exact .intro hgroups honly hlisted

/-- The preflight is passed if it prefers the older version. -/
theorem ensure_decides_older :
    Discovered (twoVersions "v1") [] (some "v1") twoVersionsServed ∧
      Counts twoVersionsServed (some "v1") "v1" ∧ twoVersionsServed ≠ [] ∧
        (ensure.run (twoVersions "v1") []).result = .ok () := by
  have hdiscovered := discovered_twoVersions (.inr rfl)
  have hcharts : ListsCharts ⟨"helm.cattle.io/v1", [⟨"helmcharts", "HelmChart", none⟩]⟩ :=
    hasChart_iff.mp (by decide)
  refine ⟨hdiscovered, .preferred "v1", List.cons_ne_nil _ _, ?_⟩
  have hpassed := (ensure_decides hdiscovered (.preferred "v1") (List.cons_ne_nil _ _)).1
  exact hpassed.mpr ⟨_, rfl, hcharts⟩

/-- It is not passed if it prefers the newer one, though the older one lists Helm charts. -/
theorem served_not_found :
    ¬ ∀ server preferred? served list, Discovered server [] preferred? served →
      served.lookup "v1" = some list → ListsCharts list →
        (ensure.run server []).result = .ok () := by
  intro hall
  have hcharts : ListsCharts ⟨"helm.cattle.io/v1", [⟨"helmcharts", "HelmChart", none⟩]⟩ :=
    hasChart_iff.mp (by decide)
  have hdiscovered := discovered_twoVersions (.inl rfl)
  have hok := hall _ _ _ _ hdiscovered rfl hcharts
  rw [hdiscovered.run (.head _)] at hok
  contradiction

end Preflight

end BackingServices
