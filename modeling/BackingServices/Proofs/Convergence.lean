import BackingServices.Proofs.Provisioning

/-!
# Convergence

A server that keeps for each target the body that it took last is left in the same state by
every run that succeeds: whatever the order of the three submissions, and whatever earlier
runs left there, be they complete or not (`provision_converges`).

That state depends on the secret of the run only if the password of the broker is generated,
and then only in the values of the broker's Helm chart.
-/

namespace BackingServices

open Cluster (Dialogue Handle Interleaving Move Request answered jointResult? sends)
open Cluster.Dialogue (Application)

/-! ## What a server keeps -/

/-- What a server keeps: for the text of each target the body that it took last. -/
abbrev Store := String → Option Json

namespace Store

/-- A server that took nothing. -/
def empty : Store := fun _ => none

/-- A server that takes a request. -/
def put (s : Store) (request : Request) : Store := fun target =>
  if target = request.target.text then request.body? else s target

/-- A server that takes some requests, in order. -/
def after (s : Store) (requests : List Request) : Store := requests.foldl put s

/-- Requests for equal targets have equal bodies. -/
def Agree (requests : List Request) : Prop :=
  ∀ r ∈ requests, ∀ r' ∈ requests, r.target.text = r'.target.text → r.body? = r'.body?

variable {s s' : Store} {requests requests' : List Request} {target : String}

/-- Other targets are left alone. -/
theorem after_of_forall_ne (h : ∀ r ∈ requests, r.target.text ≠ target) :
    s.after requests target = s target := by
  induction requests generalizing s with
  | nil => rfl
  | cons r requests ih =>
    rw [after, List.foldl_cons]
    refine (ih fun q hq => h q (List.mem_cons_of_mem _ hq)).trans ?_
    exact if_neg (h r List.mem_cons_self).symm

/-- Where requests agree, it does not matter which of them was taken last. -/
theorem after_of_mem (hagree : Agree requests) {r : Request} (hr : r ∈ requests) :
    s.after requests r.target.text = r.body? := by
  induction requests generalizing s r with
  | nil => contradiction
  | cons q requests ih =>
    have hagree' : Agree requests := fun a ha b hb =>
      hagree a (List.mem_cons_of_mem _ ha) b (List.mem_cons_of_mem _ hb)
    rw [after, List.foldl_cons]
    by_cases hlater : ∃ r' ∈ requests, r'.target.text = r.target.text
    · obtain ⟨r', hr', htarget⟩ := hlater
      rw [hagree r hr r' (List.mem_cons_of_mem _ hr') htarget.symm, ← htarget]
      exact ih hagree' hr'
    · simp only [not_exists, not_and] at hlater
      refine (after_of_forall_ne hlater).trans ?_
      rcases List.mem_cons.mp hr with rfl | hr
      · exact if_pos rfl
      · exact absurd rfl (hlater r hr)

/-- Requests that agree leave the same, in whatever order and however often they are taken, on servers
that keep the same for all other targets. -/
theorem after_congr (hagree : Agree requests) (hmem : ∀ r, r ∈ requests ↔ r ∈ requests')
    (hother : ∀ target, (∀ r ∈ requests, r.target.text ≠ target) → s target = s' target) :
    s.after requests = s'.after requests' := by
  have hagree' : Agree requests' := fun a ha b hb =>
    hagree a ((hmem a).mpr ha) b ((hmem b).mpr hb)
  funext target
  by_cases htaken : ∃ r ∈ requests, r.target.text = target
  · obtain ⟨r, hr, rfl⟩ := htaken
    rw [after_of_mem hagree hr, after_of_mem hagree' ((hmem r).mp hr)]
  · simp only [not_exists, not_and] at htaken
    rw [after_of_forall_ne htaken, after_of_forall_ne fun r hr => htaken r ((hmem r).mpr hr)]
    exact hother target htaken

end Store

/-! ## What a plan leaves -/

theorem namespaceRequest_text (name : String) :
    (namespaceRequest name).target.text =
      "/api/v1/namespaces/" ++ name ++ "?&force=true&fieldManager=quartermaster" := by
  rw [← Cluster.mark_applyQuery]
  rfl

theorem Deployment.chartRequest_text (d : Deployment) :
    d.chartRequest.target.text = "/apis/helm.cattle.io/v1/namespaces/" ++ d.targetNamespace ++
      "/helmcharts/" ++ d.releaseName ++ "?&force=true&fieldManager=quartermaster" := by
  rw [← Cluster.mark_applyQuery]
  rfl

/-- No Helm chart is where a namespace is. -/
theorem namespaceRequest_text_ne (name : String) (d : Deployment) :
    (namespaceRequest name).target.text ≠ d.chartRequest.target.text := by
  have hnamespace : ("/api/v1/namespaces/" : String) = "/api" ++ "/v1/namespaces/" := by decide
  have hchart : ("/apis/helm.cattle.io/v1/namespaces/" : String) =
      "/api" ++ "s/helm.cattle.io/v1/namespaces/" := by decide
  intro h
  simp only [namespaceRequest_text, Deployment.chartRequest_text, hnamespace, hchart,
    String.append_assoc, String.append_right_inj] at h
  have hhead := congrArg (fun s : String => s.toList.head?) h
  simp at hhead

/-- Helm charts of one namespace are at one place only if their releases have one name. -/
theorem Deployment.releaseName_of_text {d d' : Deployment}
    (hname : d.targetNamespace = d'.targetNamespace)
    (h : d.chartRequest.target.text = d'.chartRequest.target.text) :
    d.releaseName = d'.releaseName := by
  simpa only [chartRequest_text, hname, String.append_left_inj, String.append_right_inj] using h

theorem Service.chartName_injective {s s' : Service} (h : s.chartName = s'.chartName) : s = s' := by
  cases s <;> cases s' <;> first | rfl | (revert h; decide)

namespace Plan

variable {policy : Policy} {name : String} {secret : Secret}

/-- What a run leaves that takes the requests of a plan in order, on a server that took nothing. -/
def store (p : Plan) : Store := Store.empty.after (p.applications.map Application.request)

/-- The requests of a plan are for its namespace and for a Helm chart of each service. -/
theorem mem_requests_of {r : Request} :
    r ∈ (of policy name secret).applications.map Application.request ↔
      r = namespaceRequest name ∨
        ∃ s : Service, r = (s.deployment policy name secret).chartRequest := by
  rw [applications, deployments_of]
  simp only [List.map_append, List.map_map, List.mem_append, List.mem_map, Function.comp_apply]
  constructor
  · rintro (⟨s, -, rfl⟩ | ⟨s, -, rfl⟩)
    · exact .inl rfl
    · exact .inr ⟨s, rfl⟩
  · rintro (rfl | ⟨s, rfl⟩)
    · exact .inl ⟨.cache, Service.mem_all _, rfl⟩
    · exact .inr ⟨s, s.mem_all, rfl⟩

/-- The requests of a plan agree. -/
theorem agree_of (policy : Policy) (name : String) (secret : Secret) :
    Store.Agree ((of policy name secret).applications.map Application.request) := by
  intro r hr r' hr' htext
  rcases mem_requests_of.mp hr with rfl | ⟨s, rfl⟩ <;>
    rcases mem_requests_of.mp hr' with rfl | ⟨s', rfl⟩
  · rfl
  · exact absurd htext (namespaceRequest_text_ne _ _)
  · exact absurd htext.symm (namespaceRequest_text_ne _ _)
  · have hrelease := Deployment.releaseName_of_text (by rfl) htext
    obtain rfl : s = s' := Service.chartName_injective hrelease
    rfl

/-- Plans for one namespace have the same targets, whatever their secrets. -/
theorem exists_text_of (secret' : Secret) {r : Request}
    (hr : r ∈ (of policy name secret).applications.map Application.request) :
    ∃ r' ∈ (of policy name secret').applications.map Application.request,
      r'.target.text = r.target.text := by
  rcases mem_requests_of.mp hr with rfl | ⟨s, rfl⟩
  · exact ⟨_, mem_requests_of.mpr (.inl rfl), rfl⟩
  · exact ⟨_, mem_requests_of.mpr (.inr ⟨s, rfl⟩), rfl⟩

end Plan

/-! ## Earlier runs -/

/-- What a server keeps on which an onboarding was provisioned any number of times: each time with
some secret and in some order, up to the end or not.  It may have taken any of the requests that were
sent. -/
inductive LeftBehind (policy : Policy) (o : Onboarding) : Store → Prop where
  | empty : LeftBehind policy o .empty
  | run {s : Store} {random : RandomSource} {p : Plan} {cluster : Handle}
      {moves : List (Nat × Move)} {parts : List (Cluster.Part ProvisionError)} {taken : List Request}
      (h : LeftBehind policy o s) (hmake : Plan.make policy random o = .ok (p, cluster))
      (hrun : Interleaving (p.parts cluster) moves parts)
      (htaken : ∀ r ∈ taken, r ∈ sends (moves.map Prod.snd)) : LeftBehind policy o (s.after taken)

section Runs

variable {policy : Policy} {random : RandomSource} {o : Onboarding} {p : Plan} {cluster : Handle}
  {moves : List (Nat × Move)} {parts : List (Cluster.Part ProvisionError)}

/-- A run sends requests of its plan only. -/
theorem Plan.mem_of_sent (hmake : make policy random o = .ok (p, cluster))
    (hrun : Interleaving (p.parts cluster) moves parts) {r : Request}
    (hr : r ∈ sends (moves.map Prod.snd)) : r ∈ p.applications.map Application.request := by
  obtain ⟨requests, hperm, hsublist⟩ := (soundInterleaving hmake hrun).once
  exact hsublist.subset (hperm.mem_iff.mp hr)

/-- Earlier runs leave nothing where a run takes nothing. -/
theorem LeftBehind.eq_none {s : Store} (h : LeftBehind policy o s)
    (hmake : Plan.make policy random o = .ok (p, cluster)) {target : String}
    (hother : ∀ r ∈ p.applications.map Application.request, r.target.text ≠ target) :
    s target = none := by
  induction h with
  | empty => rfl
  | run _ hmake' hrun htaken ih =>
    refine (Store.after_of_forall_ne fun r hr htext => ?_).trans ih
    have hmem := Plan.mem_of_sent hmake' hrun (htaken r hr)
    obtain ⟨-, -, secret, -, rfl⟩ := Plan.make_ok_iff.mp hmake
    obtain ⟨-, -, secret', -, rfl⟩ := Plan.make_ok_iff.mp hmake'
    obtain ⟨r', hr', htext'⟩ := Plan.exists_text_of secret hmem
    exact hother r' hr' (htext'.trans htext)

/-- A run that succeeds leaves what its plan leaves, whatever is left of earlier ones. -/
theorem LeftBehind.after_eq {s : Store} (h : LeftBehind policy o s)
    (hmake : Plan.make policy random o = .ok (p, cluster))
    (hrun : Interleaving (p.parts cluster) moves parts)
    (hok : jointResult? parts = some (.ok ())) {taken : List Request}
    (htaken : taken.Perm (answered (moves.map Prod.snd))) : s.after taken = p.store := by
  have hperm := htaken.trans ((soundInterleaving hmake hrun).of_ok hok).2.1
  have hagree : Store.Agree (p.applications.map Application.request) := by
    obtain ⟨-, -, secret, -, rfl⟩ := Plan.make_ok_iff.mp hmake
    exact Plan.agree_of policy _ secret
  refine Store.after_congr (fun r hr r' hr' => ?_) (fun r => hperm.mem_iff) fun target hother => ?_
  · exact hagree r (hperm.mem_iff.mp hr) r' (hperm.mem_iff.mp hr')
  · exact h.eq_none hmake fun r hr => hother r (hperm.mem_iff.mpr hr)

end Runs

/-! ## Secrets -/

/-- The target of the broker's Helm chart. -/
def brokerTarget (namespaceName : String) : String :=
  "/apis/helm.cattle.io/v1/namespaces/" ++ namespaceName ++ "/helmcharts/" ++ "rabbitmq" ++
    "?&force=true&fieldManager=quartermaster"

/-- A Helm chart with other values. -/
def HelmChart.withValues (chart : HelmChart) (content : String) : HelmChart :=
  { chart with spec := { chart.spec with valuesContent? := some content } }

/-- The values of a broker with a password are read back. -/
theorem read?_brokerValues (policy : Policy) (secret : Secret) :
    Yaml.read? (Yaml.render (Service.brokerValues policy secret)) =
      some (Service.brokerValues policy secret) := by
  have hkeys : (Service.brokerValues policy secret).KeysDistinct :=
    Service.keysDistinct_values policy secret .broker
  have hnesting : (Service.brokerValues policy secret).nesting ≤ Yaml.documentDepth := by
    simp [Service.brokerValues, Json.nesting, Json.nestingMembers, Yaml.documentDepth]
  rw [Yaml.read?, Yaml.readWithin?_render hkeys, if_pos hnesting]

namespace Plan

variable (policy : Policy) (name : String) (secret secret' : Secret)

/-- The requests of a plan that are not for the broker's Helm chart. -/
def otherRequests (p : Plan) : List Request :=
  p.deployments.map (fun d => namespaceRequest d.targetNamespace) ++
    [p.cache.chartRequest, p.documentStore.chartRequest]

theorem store_eq (p : Plan) :
    p.store = (Store.empty.after p.otherRequests).put p.broker.chartRequest := rfl

theorem text_broker :
    (of policy name secret).broker.chartRequest.target.text = brokerTarget name :=
  Deployment.chartRequest_text _

/-- What a run leaves at other targets does not depend on the secret. -/
theorem store_of_ne {target : String} (h : target ≠ brokerTarget name) :
    (of policy name secret).store target = (of policy name secret').store target := by
  have hother : ∀ secret, (of policy name secret).store target =
      Store.empty.after (of policy name secret).otherRequests target := by
    intro secret
    rw [store_eq]
    exact if_neg (text_broker policy name secret ▸ h)
  exact (hother secret).trans (hother secret').symm

/-- What a run leaves at the target of the broker's Helm chart. -/
theorem store_broker :
    (of policy name secret).store (brokerTarget name) =
      some (HelmChart.installing (Service.broker.deployment policy name secret)).toJson := by
  rw [store_eq]
  exact if_pos (text_broker policy name secret).symm

/-- Of the broker's Helm chart only the values depend on the secret. -/
theorem installing_broker :
    HelmChart.installing (Service.broker.deployment policy name secret) =
      (HelmChart.installing (Service.broker.deployment policy name secret')).withValues
        (Yaml.render (Service.brokerValues policy secret)) := by
  simp only [HelmChart.installing, HelmChart.withValues, Service.deployment, Service.values]
  rfl

/-- If the password is fixed, a plan is for the same deployments whatever the secret. -/
theorem deployments_of_fixed {user password : String}
    (h : policy.brokerCredentials = .fixed user password) :
    (of policy name secret).deployments = (of policy name secret').deployments := by
  have hvalues : Service.brokerValues policy secret = Service.brokerValues policy secret' := by
    simp only [Service.brokerValues, h, BrokerCredentials.password]
  simp only [deployments, of, Service.deployment, Service.values, hvalues]

end Plan

/-- Any two requests that are sent in a run for one target have one body.  A run that succeeds leaves
the same, whatever the order of its submissions and that in which the server takes its requests, and
whatever was left by earlier runs: what its plan leaves on a server that took nothing.  If the password
of the broker is fixed, this does not depend on the secret.  If it is generated, only the values in
the broker's Helm chart do, and of these only the password, which is the secret of the run. -/
theorem provision_converges (policy : Policy) (o : Onboarding) :
    (∀ random p cluster, Plan.make policy random o = .ok (p, cluster) →
      (∀ server history, let run := (provision policy random o).run server history
        run.result = .ok p → Store.empty.after run.requests = p.store) ∧
      ∀ moves parts, Interleaving (p.parts cluster) moves parts →
        Store.Agree (sends (moves.map Prod.snd)) ∧
          (jointResult? parts = some (.ok ()) → ∀ left, LeftBehind policy o left →
            ∀ taken, taken.Perm (answered (moves.map Prod.snd)) → left.after taken = p.store)) ∧
    match policy.brokerCredentials with
    | .fixed _ _ => ∀ random random' p p' cluster cluster',
      Plan.make policy random o = .ok (p, cluster) →
        Plan.make policy random' o = .ok (p', cluster') → p.store = p'.store
    | .generated user =>
      (∀ random random' p p' cluster cluster', Plan.make policy random o = .ok (p, cluster) →
        Plan.make policy random' o = .ok (p', cluster') →
          ∀ target, target ≠ brokerTarget (o.service ++ o.suffix) →
            p.store target = p'.store target) ∧
      ∃ chart : HelmChart, ∀ random p cluster, Plan.make policy random o = .ok (p, cluster) →
        ∃ content, p.store (brokerTarget (o.service ++ o.suffix)) =
            some (chart.withValues content).toJson ∧
          Yaml.read? content = some (.object [
            ("auth", .object [("password", .string p.secret.expose), ("username", .string user)]),
            ("persistence", .object [("enabled", .bool true),
              ("storageClass", .string policy.storageClass)])]) := by
  refine ⟨fun random p cluster hmake => ⟨fun server history hok => ?_, fun moves parts hrun =>
    ⟨?_, fun hok left hleft taken htaken => hleft.after_eq hmake hrun hok htaken⟩⟩, ?_⟩
  · obtain ⟨hresult, hrequests⟩ := provision_run hmake server history
    rw [hrequests]
    rcases Dialogue.conversation_run server history p.applications with
      ⟨-, -, hasked⟩ | ⟨_, _, _, _, -, herror, -⟩
    · rw [hasked]
      rfl
    · rw [hresult, herror] at hok
      contradiction
  · intro r hr r' hr' htext
    have hmem := Plan.mem_of_sent hmake hrun hr
    have hmem' := Plan.mem_of_sent hmake hrun hr'
    obtain ⟨-, -, secret, -, rfl⟩ := Plan.make_ok_iff.mp hmake
    exact Plan.agree_of policy _ secret r hmem r' hmem' htext
  · cases hcredentials : policy.brokerCredentials with
    | fixed user password =>
      intro random random' p p' cluster cluster' hmake hmake'
      obtain ⟨-, -, secret, -, rfl⟩ := Plan.make_ok_iff.mp hmake
      obtain ⟨-, -, secret', -, rfl⟩ := Plan.make_ok_iff.mp hmake'
      rw [Plan.store, Plan.store, Plan.applications, Plan.applications,
        Plan.deployments_of_fixed policy _ secret secret' hcredentials]
    | generated user =>
      constructor
      · intro random random' p p' cluster cluster' hmake hmake' target htarget
        obtain ⟨-, -, secret, -, rfl⟩ := Plan.make_ok_iff.mp hmake
        obtain ⟨-, -, secret', -, rfl⟩ := Plan.make_ok_iff.mp hmake'
        exact Plan.store_of_ne policy _ secret secret' htarget
      · refine ⟨HelmChart.installing (Service.broker.deployment policy o.namespaceName ⟨[]⟩),
          fun random p cluster hmake => ?_⟩
        obtain ⟨-, -, secret, -, rfl⟩ := Plan.make_ok_iff.mp hmake
        have hvalues : Service.brokerValues policy secret = .object [
            ("auth", .object [("password", .string secret.expose), ("username", .string user)]),
            ("persistence", .object [("enabled", .bool true),
              ("storageClass", .string policy.storageClass)])] := by
          rw [Service.brokerValues, hcredentials]
          rfl
        refine ⟨Yaml.render (Service.brokerValues policy secret), ?_, ?_⟩
        · rw [← Plan.installing_broker policy _ secret]
          exact Plan.store_broker policy _ secret
        · rw [read?_brokerValues, hvalues]
          rfl

end BackingServices
