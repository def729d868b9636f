import BackingServices.Proofs.Isolation

/-!
# The stages of a submission

A submission to a cluster has two stages, which are alike: an object is applied, and this is logged
once the server has accepted it.  A stage ends in one of three ways.  The object gives no request, its
request is sent and the answer not accepted, or the answer is accepted (`StageEnd`).  The second stage
is that of the Helm chart, and comes only after the namespace was accepted.

So there are six ways for a submission to end, and each has its requests, its result and its events
(`SubmissionEnd`).  What may be sent, when nothing is sent, when a submission succeeds, which failures
there are and what is logged can be read off from them, whatever the names and whatever the server
answers (`submit_orderly`).
-/

namespace BackingServices

open Cluster (Answer ApiError Dialogue Handle Request Server)
open Cluster.Dialogue (Run)

/-! ## Whole runs -/

namespace Cluster.Dialogue

variable {α β : Type}

/-- What one dialogue and then another one leave. -/
def Run.before (r : Run α) (r' : Run β) : Run β :=
  ⟨r'.result, r.requests ++ r'.requests, r.events ++ r'.events⟩

theorem run_bind_eq (server : Server) (history : List Request) (d : Dialogue α)
    (f : α → Dialogue β) :
    let r := d.run server history
    (d.bind f).run server history = r.before ((f r.result).run server (history ++ r.requests)) := by
  induction d generalizing history with
  | done a => simp [bind, run, Run.before]
  | log e d ih => simp [bind, run, Run.before, ih]
  | ask s r k ih => simp [bind, run, Run.before, ih]

theorem run_within_eq (server : Server) (history : List Request) (span : Span) (d : Dialogue α) :
    let r := d.run server history
    (d.within span).run server history = { r with events := r.events.map (Event.within span) } := by
  induction d generalizing history with
  | done a => rfl
  | log e d ih => simp [within, run, ih]
  | ask s r k ih => simp [within, run, ih]

end Cluster.Dialogue

/-- An answer that does not read as a document of the schema is not accepted. -/
theorem Cluster.Answer.not_accepts_of_read {schema : Schema} {a : Answer} {reason : ApiError}
    (h : a.read schema = .error reason) : ¬ a.Accepts schema := by
  rw [accepts_iff, h]
  rintro ⟨v, hv⟩
  contradiction

namespace Cluster.Dialogue

variable {ε : Type}

/-! ## One stage -/

/-- How a stage ends that applies an object and then logs an event, given the request for the object,
what its answer must read as and what it means if the answer does not. -/
inductive StageEnd (server : Server) (history : List Request) (request? : Except ApiError Request)
    (schema : Schema) (failure : ApiError → ε) (event : Event) : Run (Except ε Unit) → Prop where
  | unsent {reason : ApiError} (h : request? = .error reason) :
      StageEnd server history request? schema failure event ⟨.error (failure reason), [], []⟩
  | refused {request : Request} {reason : ApiError} (h : request? = .ok request)
      (hread : (server history request).read schema = .error reason) :
      StageEnd server history request? schema failure event ⟨.error (failure reason), [request], []⟩
  | accepted {request : Request} (h : request? = .ok request)
      (haccepts : (server history request).Accepts schema) :
      StageEnd server history request? schema failure event ⟨.ok (), [request], [event]⟩

/-- Applying an object and then logging an event is a stage. -/
theorem stageEnd_apply (server : Server) (history : List Request) (schema : Schema)
    (collection name : String) (object : Json) (failure : ApiError → ε) (event : Event) :
    StageEnd server history (applyRequest collection name object) schema failure event
      ((((apply schema collection name object).mapError failure).andThen
        fun _ => .log event (.done (.ok ()))).run server history) := by
  rw [apply]
  cases hrequest : applyRequest collection name object with
  | error reason => exact .unsent rfl
  | ok request =>
    simp only [call, send, bind, mapError, andThen, run]
    cases hread : (server history request).read schema with
    | error reason => exact .refused rfl hread
    | ok v => exact .accepted rfl (Answer.accepts_iff.mpr ⟨v, hread⟩)

/-- A stage in a span logs its event in the span. -/
theorem StageEnd.within {server : Server} {history : List Request}
    {request? : Except ApiError Request} {schema : Schema} {failure : ApiError → ε} {event : Event}
    {d : Dialogue (Except ε Unit)}
    (h : StageEnd server history request? schema failure event (d.run server history)) (span : Span) :
    StageEnd server history request? schema failure (event.within span)
      ((d.within span).run server history) := by
  rw [run_within_eq]
  generalize d.run server history = r at h
  cases h with
  | unsent h => exact .unsent h
  | refused h hread => exact .refused h hread
  | accepted h haccepts => exact .accepted h haccepts

end Cluster.Dialogue

open Cluster.Dialogue (StageEnd run_bind_eq run_within_eq stageEnd_apply)

/-! ## Two stages -/

/-- The request that applies a namespace, if its name gives one. -/
def namespaceRequest? (name : String) : Except ApiError Request :=
  Cluster.applyRequest namespacesPath name (namespaceObject name)

namespace Deployment

/-- The request that applies the Helm chart of a deployment, if its names give one. -/
def chartRequest? (d : Deployment) : Except ApiError Request :=
  Cluster.applyRequest (chartsPath d.targetNamespace) d.releaseName (HelmChart.installing d).toJson

/-- What is logged once the namespace is accepted. -/
def appliedEvent (cluster : Handle) (d : Deployment) : Event where
  level := .debug
  spans := [submissionSpan cluster d,
    ⟨"apply_namespace", [⟨"namespace", .text d.targetNamespace⟩], .info, namespaceSource⟩]
  source := namespaceSource
  message := s!"Namespace {d.targetNamespace} applied"
  fields := []

/-- What is logged once the Helm chart is accepted. -/
def submittedEvent (cluster : Handle) (d : Deployment) : Event where
  level := .info
  spans := [submissionSpan cluster d]
  source := submissionSource
  message := s!"Submitted chart {d.chartName} {d.chartVersion} " ++
    s!"as release {d.targetNamespace}/{d.releaseName}"
  fields := []

end Deployment

/-- How a submission ends. -/
inductive SubmissionEnd (cluster : Handle) (d : Deployment) (server : Server)
    (history : List Request) : Run (Except ProvisionError Unit) → Prop where
  | blocking (hwait : d.blockUntilReady = true) :
      SubmissionEnd cluster d server history
        ⟨.error (.submission (.blocking d.releaseName)), [], []⟩
  | namespaceUnsent {reason : ApiError} (hready : d.blockUntilReady = false)
      (hn : namespaceRequest? d.targetNamespace = .error reason) :
      SubmissionEnd cluster d server history
        ⟨.error (.submission (.namespaceNotApplied d.targetNamespace reason)), [], []⟩
  | namespaceRefused {n : Request} {reason : ApiError} (hready : d.blockUntilReady = false)
      (hn : namespaceRequest? d.targetNamespace = .ok n)
      (hread : (server history n).read Cluster.namespaceSchema = .error reason) :
      SubmissionEnd cluster d server history
        ⟨.error (.submission (.namespaceNotApplied d.targetNamespace reason)), [n], []⟩
  | chartUnsent {n : Request} {reason : ApiError} (hready : d.blockUntilReady = false)
      (hn : namespaceRequest? d.targetNamespace = .ok n)
      (haccepts : (server history n).Accepts Cluster.namespaceSchema)
      (hc : d.chartRequest? = .error reason) :
      SubmissionEnd cluster d server history
        ⟨.error (.api reason), [n], [d.appliedEvent cluster]⟩
  | chartRefused {n c : Request} {reason : ApiError} (hready : d.blockUntilReady = false)
      (hn : namespaceRequest? d.targetNamespace = .ok n)
      (haccepts : (server history n).Accepts Cluster.namespaceSchema)
      (hc : d.chartRequest? = .ok c)
      (hread : (server (history ++ [n]) c).read Cluster.helmChartSchema = .error reason) :
      SubmissionEnd cluster d server history
        ⟨.error (.api reason), [n, c], [d.appliedEvent cluster]⟩
  | submitted {n c : Request} (hready : d.blockUntilReady = false)
      (hn : namespaceRequest? d.targetNamespace = .ok n)
      (haccepts : (server history n).Accepts Cluster.namespaceSchema)
      (hc : d.chartRequest? = .ok c)
      (haccepts' : (server (history ++ [n]) c).Accepts Cluster.helmChartSchema) :
      SubmissionEnd cluster d server history
        ⟨.ok (), [n, c], [d.appliedEvent cluster, d.submittedEvent cluster]⟩

theorem stageEnd_applyNamespace (name : String) (server : Server) (history : List Request) :
    StageEnd server history (namespaceRequest? name) Cluster.namespaceSchema
      (fun reason => ProvisionError.submission (.namespaceNotApplied name reason))
      ((Event.plain .debug namespaceSource s!"Namespace {name} applied").within
        ⟨"apply_namespace", [⟨"namespace", .text name⟩], .info, namespaceSource⟩)
      ((applyNamespace name).run server history) :=
  (stageEnd_apply ..).within _

theorem stageEnd_applyChart (d : Deployment) (server : Server) (history : List Request) :
    StageEnd server history d.chartRequest? Cluster.helmChartSchema ProvisionError.api
      (.plain .info submissionSource (s!"Submitted chart {d.chartName} {d.chartVersion} " ++
        s!"as release {d.targetNamespace}/{d.releaseName}"))
      ((applyChart d (HelmChart.installing d)).run server history) :=
  stageEnd_apply ..

/-- Every submission ends in one of these ways. -/
theorem submissionEnd_submit (cluster : Handle) (d : Deployment) (server : Server)
    (history : List Request) :
    SubmissionEnd cluster d server history ((submit cluster d).run server history) := by
  rw [submit, HelmChart.ofDeployment]
  cases hwait : d.blockUntilReady with
  | true => exact .blocking hwait
  | false =>
    have hfirst := stageEnd_applyNamespace d.targetNamespace server history
    simp only [Bool.false_eq_true, if_false]
    rw [run_within_eq, Cluster.Dialogue.andThen_eq, run_bind_eq]
    generalize (applyNamespace d.targetNamespace).run server history = first at hfirst
    cases hfirst with
    | unsent hn => exact .namespaceUnsent hwait hn
    | refused hn hread => exact .namespaceRefused hwait hn hread
    | @accepted n hn haccepts =>
      have hsecond := stageEnd_applyChart d server (history ++ [n])
      simp only [Cluster.Dialogue.orFail]
      generalize (applyChart d (HelmChart.installing d)).run server (history ++ [n]) = second
        at hsecond
      cases hsecond with
      | unsent hc => exact .chartUnsent hwait hn haccepts hc
      | refused hc hread => exact .chartRefused hwait hn haccepts hc hread
      | accepted hc haccepts' => exact .submitted hwait hn haccepts hc haccepts'

/-! ## What can be read off -/

theorem bodyText?_congr {r r' : Request} (h : r.body? = r'.body?) (keys : List String) :
    r.bodyText? keys = r'.bodyText? keys := by
  rw [Request.bodyText?, Request.bodyText?, h]

/-- The request that applies a namespace names it. -/
theorem bodyText?_namespaceRequest? {name : String} {n : Request}
    (h : namespaceRequest? name = .ok n) : n.bodyText? ["metadata", "name"] = some name := by
  have hbody : n.body? = (namespaceRequest name).body? := Cluster.body?_applyRequest h
  exact bodyText?_congr hbody _

/-- The request that applies a Helm chart names its namespace and that of its release. -/
theorem bodyText?_chartRequest? {d : Deployment} {c : Request} (h : d.chartRequest? = .ok c) :
    c.bodyText? ["metadata", "namespace"] = some d.targetNamespace ∧
      c.bodyText? ["spec", "targetNamespace"] = some d.targetNamespace := by
  have hbody : c.body? = d.chartRequest.body? := Cluster.body?_applyRequest h
  exact ⟨bodyText?_congr hbody _, (bodyText?_congr hbody _).trans d.bodyText?_targetNamespace⟩

/-- An event tells that a namespace was applied. -/
def TellsApplied (name : String) (e : Event) : Prop :=
  e.level = .debug ∧ e.message = s!"Namespace {name} applied"

/-- An event tells that the Helm chart of a deployment was submitted. -/
def TellsSubmitted (d : Deployment) (e : Event) : Prop :=
  e.level = .info ∧ e.message = s!"Submitted chart {d.chartName} {d.chartVersion} " ++
    s!"as release {d.targetNamespace}/{d.releaseName}"

/-- What was sent first is the namespace, and the server accepted it. -/
def NamespaceAccepted (server : Server) (history : List Request)
    (run : Run (Except ProvisionError Unit)) : Prop :=
  ∃ n, run.requests.head? = some n ∧ (server history n).Accepts Cluster.namespaceSchema

namespace SubmissionEnd

variable {cluster : Handle} {d : Deployment} {server : Server} {history : List Request}
  {run : Run (Except ProvisionError Unit)}

theorem sequence (h : SubmissionEnd cluster d server history run) :
    run.requests = [] ∨ ∃ n, namespaceRequest? d.targetNamespace = .ok n ∧
      (run.requests = [n] ∨ ∃ c, d.chartRequest? = .ok c ∧ run.requests = [n, c]) := by
  cases h with
  | blocking | namespaceUnsent => exact .inl rfl
  | namespaceRefused _ hn | chartUnsent _ hn => exact .inr ⟨_, hn, .inl rfl⟩
  | chartRefused _ hn _ hc | submitted _ hn _ hc => exact .inr ⟨_, hn, .inr ⟨_, hc, rfl⟩⟩

theorem silent_iff (h : SubmissionEnd cluster d server history run) :
    run.requests = [] ↔ d.blockUntilReady = true ∨
      ∃ reason, namespaceRequest? d.targetNamespace = .error reason := by
  cases h with
  | blocking hwait => exact iff_of_true rfl (.inl hwait)
  | namespaceUnsent _ hn => exact iff_of_true rfl (.inr ⟨_, hn⟩)
  | namespaceRefused hready hn | chartUnsent hready hn | chartRefused hready hn
  | submitted hready hn => simp [hready, hn]

theorem of_silent (h : SubmissionEnd cluster d server history run) (hsilent : run.requests = []) :
    d.blockUntilReady = true ∧ run.result = .error (.submission (.blocking d.releaseName)) ∨
      d.blockUntilReady = false ∧ ∃ reason, namespaceRequest? d.targetNamespace = .error reason ∧
        run.result = .error (.submission (.namespaceNotApplied d.targetNamespace reason)) := by
  cases h with
  | blocking hwait => exact .inl ⟨hwait, rfl⟩
  | namespaceUnsent hready hn => exact .inr ⟨hready, _, hn, rfl⟩
  | namespaceRefused | chartUnsent | chartRefused | submitted => cases hsilent

theorem ok_iff (h : SubmissionEnd cluster d server history run) :
    run.result = .ok () ↔ ∃ n c, run.requests = [n, c] ∧
      (server history n).Accepts Cluster.namespaceSchema ∧
        (server (history ++ [n]) c).Accepts Cluster.helmChartSchema := by
  cases h with
  | submitted _ _ haccepts _ haccepts' => exact iff_of_true rfl ⟨_, _, rfl, haccepts, haccepts'⟩
  | chartRefused _ _ _ _ hread =>
    refine iff_of_false nofun ?_
    rintro ⟨n, c, hrequests, -, haccepts'⟩
    cases hrequests
    exact Cluster.Answer.not_accepts_of_read hread haccepts'
  | blocking | namespaceUnsent | namespaceRefused | chartUnsent =>
    refine iff_of_false nofun ?_
    rintro ⟨n, c, hrequests, -⟩
    cases hrequests

/-- Only if the namespace was accepted a submission goes on.  What fails then is the Helm chart. -/
theorem of_accepted (h : SubmissionEnd cluster d server history run)
    (haccepted : NamespaceAccepted server history run) :
    run.result = .ok () ∨ ∃ reason, run.result = .error (.api reason) := by
  obtain ⟨n, hhead, haccepts⟩ := haccepted
  cases h with
  | blocking | namespaceUnsent => cases hhead
  | namespaceRefused _ _ hread =>
    cases hhead
    exact absurd haccepts (Cluster.Answer.not_accepts_of_read hread)
  | chartUnsent | chartRefused => exact .inr ⟨_, rfl⟩
  | submitted => exact .inl rfl

theorem of_not_accepted (h : SubmissionEnd cluster d server history run)
    (haccepted : ¬ NamespaceAccepted server history run) :
    (∀ n c, run.requests ≠ [n, c]) ∧ ∃ fault, run.result = .error (.submission fault) ∧
      (d.blockUntilReady = false → ∃ reason, fault = .namespaceNotApplied d.targetNamespace reason) := by
  cases h with
  | blocking hwait => exact ⟨nofun, _, rfl, fun hready => absurd hwait (by simp [hready])⟩
  | namespaceUnsent | namespaceRefused => exact ⟨nofun, _, rfl, fun _ => ⟨_, rfl⟩⟩
  | chartUnsent _ _ haccepts | chartRefused _ _ haccepts | submitted _ _ haccepts =>
    exact absurd ⟨_, rfl, haccepts⟩ haccepted

/-- The events tell how far a submission came. -/
theorem events_cases (h : SubmissionEnd cluster d server history run) :
    run.events = [] ∧ ¬ NamespaceAccepted server history run ∧ run.result ≠ .ok () ∨
      run.events = [d.appliedEvent cluster] ∧ NamespaceAccepted server history run ∧
          run.result ≠ .ok () ∨
        run.events = [d.appliedEvent cluster, d.submittedEvent cluster] ∧
          NamespaceAccepted server history run ∧ run.result = .ok () := by
  cases h with
  | blocking | namespaceUnsent => exact .inl ⟨rfl, (fun ⟨_, hhead, _⟩ => nomatch hhead), nofun⟩
  | namespaceRefused _ _ hread =>
    refine .inl ⟨rfl, ?_, nofun⟩
    rintro ⟨n, hhead, haccepts⟩
    cases hhead
    exact Cluster.Answer.not_accepts_of_read hread haccepts
  | chartUnsent _ _ haccepts | chartRefused _ _ haccepts =>
    exact .inr (.inl ⟨rfl, ⟨_, rfl, haccepts⟩, nofun⟩)
  | submitted _ _ haccepts => exact .inr (.inr ⟨rfl, ⟨_, rfl, haccepts⟩, rfl⟩)

end SubmissionEnd

/-! ## The order of a submission -/

/-- What a single submission sends, comes to and logs. -/
structure Orderly (d : Deployment) (server : Server) (history : List Request)
    (run : Run (Except ProvisionError Unit)) : Prop where
  /-- It sends nothing, or the namespace, or the namespace and then the Helm chart. -/
  sequence : run.requests = [] ∨ ∃ n, namespaceRequest? d.targetNamespace = .ok n ∧
    (run.requests = [n] ∨ ∃ c, d.chartRequest? = .ok c ∧ run.requests = [n, c])
  /-- It sends nothing if it asks to wait or its namespace gives no request, and only then. -/
  silent_iff : run.requests = [] ↔ d.blockUntilReady = true ∨
    ∃ reason, namespaceRequest? d.targetNamespace = .error reason
  /-- The failure says which of the two it is. -/
  of_silent : run.requests = [] →
    d.blockUntilReady = true ∧ run.result = .error (.submission (.blocking d.releaseName)) ∨
      d.blockUntilReady = false ∧ ∃ reason, namespaceRequest? d.targetNamespace = .error reason ∧
        run.result = .error (.submission (.namespaceNotApplied d.targetNamespace reason))
  /-- It sends the Helm chart only after the namespace was accepted. -/
  namespace_first : ∀ n c, run.requests = [n, c] →
    (server history n).Accepts Cluster.namespaceSchema
  /-- It succeeds if both are sent and accepted, and only then. -/
  ok_iff : run.result = .ok () ↔ ∃ n c, run.requests = [n, c] ∧
    (server history n).Accepts Cluster.namespaceSchema ∧
      (server (history ++ [n]) c).Accepts Cluster.helmChartSchema
  /-- Unless the namespace is accepted, it fails as a submission, because of the namespace if it does
  not ask to wait. -/
  of_not_accepted : ¬ NamespaceAccepted server history run →
    ∃ fault, run.result = .error (.submission fault) ∧ (d.blockUntilReady = false →
      ∃ reason, fault = .namespaceNotApplied d.targetNamespace reason)
  /-- Once the namespace is accepted, it succeeds or fails because of the Helm chart. -/
  of_accepted : NamespaceAccepted server history run →
    run.result = .ok () ∨ ∃ reason, run.result = .error (.api reason)
  /-- It is logged that the namespace was applied if it was accepted, and only then. -/
  applied_iff : (∃ e ∈ run.events, TellsApplied d.targetNamespace e) ↔
    NamespaceAccepted server history run
  /-- It is logged that the Helm chart was submitted if the submission succeeds, and only then. -/
  submitted_iff : (∃ e ∈ run.events, TellsSubmitted d e) ↔ run.result = .ok ()
  /-- The namespace that is applied is that of the Helm chart and that of its release. -/
  named : ∀ n c, run.requests = [n, c] →
    n.bodyText? ["metadata", "name"] = some d.targetNamespace ∧
      c.bodyText? ["metadata", "namespace"] = some d.targetNamespace ∧
        c.bodyText? ["spec", "targetNamespace"] = some d.targetNamespace

/-- A submission sends nothing, the namespace, or the namespace and then the Helm chart.  It goes on
only after the namespace was accepted, succeeds only if all is accepted, and its failure and its events
tell how far it came, whatever the names and whatever the server answers. -/
theorem submit_orderly (cluster : Handle) (d : Deployment) (server : Server)
    (history : List Request) :
    Orderly d server history ((submit cluster d).run server history) := by
  have hend := submissionEnd_submit cluster d server history
  generalize (submit cluster d).run server history = run at hend
  have happlied : TellsApplied d.targetNamespace (d.appliedEvent cluster) := ⟨rfl, rfl⟩
  have hsubmitted : TellsSubmitted d (d.submittedEvent cluster) := ⟨rfl, rfl⟩
  have hneither : ¬ TellsSubmitted d (d.appliedEvent cluster) := fun h => nomatch h.1
  refine {
    sequence := hend.sequence
    silent_iff := hend.silent_iff
    of_silent := hend.of_silent
    namespace_first := fun n c hrequests => ?_
    ok_iff := hend.ok_iff
    of_not_accepted := fun h => (hend.of_not_accepted h).2
    of_accepted := hend.of_accepted
    applied_iff := ?_
    submitted_iff := ?_
    named := fun n c hrequests => ?_ }
  · by_contra hrefused
    refine (hend.of_not_accepted ?_).1 n c hrequests
    rintro ⟨n', hhead, haccepts⟩
    rw [hrequests] at hhead
    cases hhead
    exact hrefused haccepts
  · rcases hend.events_cases with ⟨he, hn, -⟩ | ⟨he, hn, -⟩ | ⟨he, hn, -⟩ <;>
      simp [he, hn, happlied]
  · rcases hend.events_cases with ⟨he, -, hr⟩ | ⟨he, -, hr⟩ | ⟨he, -, hr⟩ <;>
      simp [he, hr, hsubmitted, hneither]
  · rcases hend.sequence with hnone | ⟨n', hn, hone | ⟨c', hc, htwo⟩⟩
    · rw [hnone] at hrequests
      cases hrequests
    · rw [hone] at hrequests
      cases hrequests
    · rw [htwo] at hrequests
      cases hrequests
      exact ⟨bodyText?_namespaceRequest? hn, bodyText?_chartRequest? hc⟩

end BackingServices
