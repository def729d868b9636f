import BackingServices.Proofs.Cluster.Call
import BackingServices.Proofs.Cluster.Dialogue
import BackingServices.Proofs.HelmChart
import BackingServices.Proofs.Writer
import BackingServices.Submission

/-!
# Submissions to a cluster and to a stream

A deployment is submitted to a cluster by two requests, and to a stream by one document.
Both refuse the same deployments, and the document is read as the object that is applied
(`submit_agrees`).

If the names are fit for a path, a submission to a cluster is a conversation about the
namespace and then the Helm chart (`quiet_submit`).
-/

namespace BackingServices

open Cluster (ApiError Dialogue Server Request Handle)
open Cluster.Dialogue (Application conversation)

/-! ## Streams without a limit -/

/-- The stream that deployments were submitted to, of which some may have been refused. -/
def Stream.after (ds : List Deployment) : Stream :=
  ds.foldl (fun s d => (s.submit .unlimited d).1) .empty

/-- A writer without a limit takes everything. -/
theorem Stream.write_unlimited (s : Stream) (pieces : List (List UInt8)) :
    s.write .unlimited pieces = (s.grow pieces.flatten, .ok ()) := write_fits rfl

/-- Nothing is written of a deployment that asks to wait. -/
theorem Stream.submit_blocking (w : Writer) (s : Stream) {d : Deployment}
    (hwait : d.blockUntilReady = true) :
    s.submit w d = (s, .error (.failure (.submission (.blocking d.releaseName)))) := by
  rw [submit, HelmChart.ofDeployment_blocking hwait]

/-- Of any other deployment the document is written. -/
theorem Stream.submit_ready {s : Stream} (h : s.broken = false) {d : Deployment}
    (hwait : d.blockUntilReady = false) :
    s.submit .unlimited d =
      (⟨s.held ++ Text.encode (HelmChart.installing d).document, false⟩, .ok ()) := by
  rw [submit, HelmChart.ofDeployment_ready hwait]
  simp only [h, Bool.false_eq_true, if_false]
  rw [write_unlimited, HelmChart.flatten_pieces, grow, h]

/-- A submission does not break a stream whose writer has no limit. -/
theorem Stream.submit_broken {s : Stream} (h : s.broken = false) (d : Deployment) :
    (s.submit .unlimited d).1.broken = false := by
  cases hwait : d.blockUntilReady with
  | true => rw [submit_blocking _ _ hwait, h]
  | false => rw [submit_ready h hwait]

theorem Stream.after_broken (ds : List Deployment) : (after ds).broken = false := by
  have hrun : ∀ s : Stream, s.broken = false →
      (ds.foldl (fun s d => (s.submit .unlimited d).1) s).broken = false := by
    induction ds with
    | nil => exact fun s hs => hs
    | cons d ds ih => exact fun s hs => ih _ (submit_broken hs d)
  exact hrun .empty rfl

/-! ## Agreement -/

/-- What applying a namespace asks. -/
theorem mem_requests_applyNamespace {name : String} {server : Server} {history : List Request}
    {request : Request} (h : request ∈ ((applyNamespace name).run server history).requests) :
    Cluster.applyRequest namespacesPath name (namespaceObject name) = .ok request := by
  rw [applyNamespace, (Dialogue.run_within ..).2] at h
  rcases Dialogue.mem_requests_andThen h with h | ⟨_, _, h⟩
  · exact Dialogue.mem_requests_apply (Dialogue.mem_requests_mapError h)
  · contradiction

/-- What applying a Helm chart asks. -/
theorem mem_requests_applyChart {d : Deployment} {chart : HelmChart} {server : Server}
    {history : List Request} {request : Request}
    (h : request ∈ ((applyChart d chart).run server history).requests) :
    Cluster.applyRequest (chartsPath d.targetNamespace) d.releaseName chart.toJson = .ok request := by
  rw [applyChart] at h
  rcases Dialogue.mem_requests_andThen h with h | ⟨_, _, h⟩
  · exact Dialogue.mem_requests_apply (Dialogue.mem_requests_mapError h)
  · contradiction

/-- What a submission to a cluster asks is to apply the namespace or to apply the Helm chart. -/
theorem mem_requests_submit {cluster : Handle} {d : Deployment} {server : Server}
    {history : List Request} {request : Request}
    (h : request ∈ ((submit cluster d).run server history).requests) :
    Cluster.applyRequest namespacesPath d.targetNamespace (namespaceObject d.targetNamespace) =
        .ok request ∨
      Cluster.applyRequest (chartsPath d.targetNamespace) d.releaseName
        (HelmChart.installing d).toJson = .ok request := by
  rw [submit, (Dialogue.run_within ..).2, HelmChart.ofDeployment] at h
  cases hwait : d.blockUntilReady with
  | true =>
    rw [hwait] at h
    contradiction
  | false =>
    rw [hwait] at h
    rcases Dialogue.mem_requests_andThen h with h | ⟨_, _, h⟩
    · exact .inl (mem_requests_applyNamespace h)
    · exact .inr (mem_requests_applyChart h)

/-- A deployment is either refused by a cluster and by a stream for the same reason, when nothing is
asked and nothing written; or the stream takes one document behind the line that begins one, and the
document is read as the object that the Helm chart is applied with, whatever the server answers. -/
theorem submit_agrees (earlier : List Deployment) (d : Deployment) (cluster : Handle)
    (server : Server) (history : List Request) :
    let s := Stream.after earlier
    let run := (submit cluster d).run server history
    (∃ reason, s.submit .unlimited d = (s, .error (.failure (.submission reason))) ∧
        run.result = .error (.submission reason) ∧ run.requests = []) ∨
      ∃ manifest body,
        s.submit .unlimited d = (⟨s.held ++ Text.encode ("---\n" ++ manifest), false⟩, .ok ()) ∧
          Yaml.read? manifest = some body ∧ Yaml.read? ("---\n" ++ manifest) = some body ∧
            ∀ request ∈ run.requests,
              Cluster.applyRequest namespacesPath d.targetNamespace
                  (namespaceObject d.targetNamespace) = .ok request ∨
                Cluster.applyRequest (chartsPath d.targetNamespace) d.releaseName body = .ok request ∧
                  request.body? = some body := by
  intro s run
  have hbroken : s.broken = false := Stream.after_broken earlier
  cases hwait : d.blockUntilReady with
  | true =>
    have hchart := HelmChart.ofDeployment_blocking hwait
    refine .inl ⟨.blocking d.releaseName, ?_, ?_, ?_⟩
    · exact Stream.submit_blocking _ _ hwait
    · simp only [run, submit, hchart]
      rfl
    · simp only [run, submit, hchart]
      rfl
  | false =>
    refine .inr ⟨(HelmChart.installing d).manifest, (HelmChart.installing d).toJson,
      Stream.submit_ready hbroken hwait, HelmChart.read?_manifest d, HelmChart.read?_document d,
      fun request h => ?_⟩
    exact (mem_requests_submit h).imp id fun h => ⟨h, Cluster.body?_applyRequest h⟩

/-! ## What is applied -/

/-- The request that applies a namespace. -/
def namespaceRequest (name : String) : Request :=
  ⟨.patch, ⟨"/api/v1/namespaces/" ++ name, some Cluster.applyQuery⟩, some Cluster.applyContentType,
    some (namespaceObject name)⟩

/-- The application of a namespace. -/
def namespaceApplication (name : String) : Application ProvisionError where
  request := namespaceRequest name
  schema := Cluster.namespaceSchema
  failure e := .submission (.namespaceNotApplied name e)

namespace Deployment

/-- The request that applies the Helm chart of a deployment. -/
def chartRequest (d : Deployment) : Request :=
  ⟨.patch,
    ⟨"/apis/helm.cattle.io/v1/namespaces/" ++ d.targetNamespace ++ "/helmcharts/" ++ d.releaseName,
      some Cluster.applyQuery⟩,
    some Cluster.applyContentType, some (HelmChart.installing d).toJson⟩

/-- The application of the Helm chart of a deployment. -/
def chartApplication (d : Deployment) : Application ProvisionError where
  request := d.chartRequest
  schema := Cluster.helmChartSchema
  failure e := .api e

/-- What is applied for a deployment. -/
def applications (d : Deployment) : List (Application ProvisionError) :=
  [namespaceApplication d.targetNamespace, d.chartApplication]

end Deployment

/-- A name that is fit for a path: it is not empty, has characters of a path only and is not long. -/
structure FitForPath (name : String) : Prop where
  /-- It is not empty. -/
  ne_empty : name ≠ ""
  /-- Its characters are those of a path. -/
  chars : ∀ c ∈ name.toList, Uri.isPathChar c = true
  /-- It is not long. -/
  size : name.utf8ByteSize ≤ 1024

theorem applyRequest_namespace {name : String} (h : FitForPath name) (object : Json) :
    Cluster.applyRequest namespacesPath name object =
      .ok ⟨.patch, ⟨"/api/v1/namespaces/" ++ name, some Cluster.applyQuery⟩,
        some Cluster.applyContentType, some object⟩ := by
  have hsize : namespacesPath.utf8ByteSize ≤ 1024 := by decide
  have hpath : namespacesPath ++ "/" = "/api/v1/namespaces/" := by decide
  have hchars : ∀ c ∈ namespacesPath.toList, Uri.isPathChar c = true :=
    List.all_eq_true.mp (by decide)
  have hlength := h.size
  rw [Cluster.applyRequest_eq object h.ne_empty hchars h.chars (by omega), hpath]

theorem applyRequest_chart {namespaceName release : String} (hname : FitForPath namespaceName)
    (hrelease : FitForPath release) (object : Json) :
    Cluster.applyRequest (chartsPath namespaceName) release object =
      .ok ⟨.patch,
        ⟨"/apis/helm.cattle.io/v1/namespaces/" ++ namespaceName ++ "/helmcharts/" ++ release,
          some Cluster.applyQuery⟩, some Cluster.applyContentType, some object⟩ := by
  have hfront : "/apis/" ++ HelmChart.apiVersion ++ "/namespaces/" =
      "/apis/helm.cattle.io/v1/namespaces/" := by decide
  have hback : ∀ path : String, path ++ "/helmcharts" ++ "/" = path ++ "/helmcharts/" := by
    intro path
    rw [String.append_assoc]
    rfl
  have hcharts : chartsPath namespaceName =
      "/apis/helm.cattle.io/v1/namespaces/" ++ namespaceName ++ "/helmcharts" := by
    rw [chartsPath, hfront]
  have hchars : ∀ c ∈ (chartsPath namespaceName).toList, Uri.isPathChar c = true := by
    intro c hc
    rw [hcharts] at hc
    simp only [String.toList_append, List.mem_append] at hc
    rcases hc with (hc | hc) | hc
    · exact List.all_eq_true.mp
        (by decide : "/apis/helm.cattle.io/v1/namespaces/".toList.all Uri.isPathChar = true) c hc
    · exact hname.chars c hc
    · exact List.all_eq_true.mp (by decide : "/helmcharts".toList.all Uri.isPathChar = true) c hc
  have hsize : (chartsPath namespaceName).utf8ByteSize + release.utf8ByteSize ≤ 65000 := by
    have hfixed : ("/apis/helm.cattle.io/v1/namespaces/" : String).utf8ByteSize +
        ("/helmcharts" : String).utf8ByteSize ≤ 1024 := by decide
    have hname := hname.size
    have hrelease := hrelease.size
    simp only [hcharts, String.utf8ByteSize_append]
    omega
  rw [Cluster.applyRequest_eq object hrelease.ne_empty hchars hrelease.chars hsize, hcharts,
    hback]

theorem quiet_applyNamespace {name : String} (h : FitForPath name) :
    (applyNamespace name).quiet = conversation [namespaceApplication name] := by
  rw [applyNamespace, Dialogue.quiet_within]
  exact Dialogue.quiet_apply (applyRequest_namespace h _) _ _ [] fun _ => rfl

theorem quiet_applyChart {d : Deployment} (hname : FitForPath d.targetNamespace)
    (hrelease : FitForPath d.releaseName) :
    (applyChart d (HelmChart.installing d)).quiet = conversation [d.chartApplication] :=
  Dialogue.quiet_apply (applyRequest_chart hname hrelease _) _ _ [] fun _ => rfl

/-- A submission is a conversation about the namespace and then the Helm chart. -/
theorem quiet_submit {d : Deployment} (hwait : d.blockUntilReady = false)
    (hname : FitForPath d.targetNamespace) (hrelease : FitForPath d.releaseName) (cluster : Handle) :
    (submit cluster d).quiet = conversation d.applications := by
  rw [submit, HelmChart.ofDeployment_ready hwait, Dialogue.quiet_within, Dialogue.quiet_andThen, quiet_applyNamespace hname]
  simp only [quiet_applyChart hname hrelease]
  exact (Dialogue.conversation_append [_] [_]).symm

end BackingServices
