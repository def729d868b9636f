import BackingServices.Proofs.Acceptance
import BackingServices.Proofs.Convergence
import BackingServices.Proofs.Preflight
import BackingServices.Proofs.Url.Escapes

/-!
# Isolation

The requests of an onboarding address the namespace that has the name of the service and the suffix, and
Helm charts in it.  A server that takes the path of such a request apart finds this name in it, and
finds the same name in the body (`MaySend.addresses`).  So two services with the same suffix have no
object in common, and neither is the namespace of one named for the other (`provision_isolated`).
-/

namespace BackingServices

open Cluster (Dialogue Handle Interleaving Move Request Server sends)
open Cluster.Dialogue (Accepted Application conversation)

/-! ## Segments of a path -/

/-- A text that stands for itself in a path: its characters are of one byte, and are neither percent
signs nor slashes. -/
def Plain (s : String) : Prop := ∀ c ∈ s.toList, c.utf8Size = 1 ∧ c ≠ '%' ∧ c ≠ '/'

instance : DecidablePred Plain := fun s =>
  List.decidableBAll (fun c : Char => c.utf8Size = 1 ∧ c ≠ '%' ∧ c ≠ '/') s.toList

/-- The segments of a target's path, as a server takes them: the path is split at its slashes, and then
percent signs stand for bytes. -/
def Target.segments (t : Target) : List (List UInt8) :=
  (t.path.toList.splitOn '/').map fun segment =>
    Url.percentDecode (Text.encode (String.ofList segment))

namespace Plain

variable {s : String}

theorem decode (h : Plain s) : Url.percentDecode (Text.encode s) = Text.encode s := by
  refine Url.percentDecode_of_not_mem fun hmem => ?_
  obtain ⟨c, hc, hbyte⟩ := Text.mem_encode_of_single (fun c hc => (h c hc).1) hmem
  obtain ⟨hsize, hpercent, -⟩ := h c hc
  -- a byte is the number of its character only below 128
  have hsmall : c.val.toNat ≤ 127 := UInt32.le_iff_toNat_le.mp (Char.utf8Size_eq_one_iff.mp hsize)
  have hvalue : c.val.toNat % 256 = 37 := congrArg UInt8.toNat hbyte.symm
  have hnumber : c.val.toNat = 37 := by omega
  exact hpercent (Char.ext (UInt32.toNat_inj.mp hnumber))

/-- A label is plain. -/
theorem of_label (h : NamespaceName.Label s.toList) : Plain s := by
  intro c hc
  have hchar := h.isLabelChar c hc
  refine ⟨NamespaceName.utf8Size_of_isLabelChar hchar, ?_, ?_⟩
  · rintro rfl
    exact absurd hchar (by decide)
  · rintro rfl
    exact absurd hchar (by decide)

end Plain

/-- The segments of a path that is put together from plain texts are these texts. -/
theorem Target.segments_intercalate {t : Target} {texts : List String} (hne : texts ≠ [])
    (hplain : ∀ s ∈ texts, Plain s)
    (hpath : t.path.toList = ['/'].intercalate (texts.map String.toList)) :
    t.segments = texts.map Text.encode := by
  have hsplit : t.path.toList.splitOn '/' = texts.map String.toList := by
    rw [hpath]
    refine List.splitOn_intercalate '/' (fun cs hcs hslash => ?_) (by simpa using hne)
    obtain ⟨s, hs, rfl⟩ := List.mem_map.mp hcs
    exact (hplain s hs '/' hslash).2.2 rfl
  rw [segments, hsplit, List.map_map]
  refine List.map_congr_left fun s hs => ?_
  rw [Function.comp_apply, String.ofList_toList, (hplain s hs).decode]

/-! ## Objects that are addressed -/

namespace Cluster.Request

/-- The text at a path of keys in the body of a request. -/
def bodyText? (r : Request) (keys : List String) : Option String :=
  (r.body?.bind fun body => body.at? keys).bind Json.text?

/-- The namespaces that the body of a request names: that of the object and that of the release. -/
def namedNamespaces (r : Request) : List String :=
  [["metadata", "namespace"], ["spec", "targetNamespace"]].filterMap r.bodyText?

end Cluster.Request

/-- A request applies an object to a namespace, which is the namespace itself or a Helm chart in it.  The
body has the name that the path has, and no other namespace. -/
inductive Addresses (name : String) (r : Request) : Prop where
  | ofNamespace (hmethod : r.method = .patch) (hquery : r.target.query? = some Cluster.applyQuery)
      (hpath : r.target.segments = ["", "api", "v1", "namespaces", name].map Text.encode)
      (hkind : r.bodyText? ["kind"] = some "Namespace")
      (hname : r.bodyText? ["metadata", "name"] = some name) (hnamed : r.namedNamespaces = [])
  | ofChart (release : String) (hmethod : r.method = .patch)
      (hquery : r.target.query? = some Cluster.applyQuery)
      (hpath : r.target.segments = ["", "apis", "helm.cattle.io", "v1", "namespaces", name,
        "helmcharts", release].map Text.encode)
      (hkind : r.bodyText? ["kind"] = some "HelmChart")
      (hname : r.bodyText? ["metadata", "name"] = some release)
      (hnamespace : r.bodyText? ["metadata", "namespace"] = some name)
      (htarget : r.bodyText? ["spec", "targetNamespace"] = some name)

theorem addresses_namespace {name : String} (h : Plain name) :
    Addresses name (namespaceRequest name) := by
  refine .ofNamespace rfl rfl (Target.segments_intercalate (List.cons_ne_nil _ _) ?_ ?_) rfl rfl rfl
  · have hfixed : ∀ s ∈ ["", "api", "v1", "namespaces"], Plain s := by decide
    simpa [h] using hfixed
  · simp [namespaceRequest, List.intercalate, List.intersperse]

theorem Deployment.bodyText?_targetNamespace (d : Deployment) :
    d.chartRequest.bodyText? ["spec", "targetNamespace"] = some d.targetNamespace := by
  -- a chart that is no OCI reference has its repository in front of the namespace
  simp only [Cluster.Request.bodyText?, chartRequest, HelmChart.installing]
  cases HelmChart.isOci d.sourceUri with
  | true => rfl
  | false => rfl

theorem Deployment.namedNamespaces_chartRequest (d : Deployment) :
    d.chartRequest.namedNamespaces = [d.targetNamespace, d.targetNamespace] := by
  have hmetadata : d.chartRequest.bodyText? ["metadata", "namespace"] = some d.targetNamespace := rfl
  simp only [Cluster.Request.namedNamespaces, List.filterMap_cons, List.filterMap_nil, hmetadata,
    d.bodyText?_targetNamespace]

theorem addresses_chart {d : Deployment} (hname : Plain d.targetNamespace)
    (hrelease : Plain d.releaseName) : Addresses d.targetNamespace d.chartRequest := by
  refine .ofChart d.releaseName rfl rfl
    (Target.segments_intercalate (List.cons_ne_nil _ _) ?_ ?_) rfl rfl rfl d.bodyText?_targetNamespace
  · have hfixed : ∀ s ∈ ["", "apis", "helm.cattle.io", "v1", "namespaces", "helmcharts"], Plain s := by
      decide
    simpa [hname, hrelease] using hfixed
  · simp [Deployment.chartRequest, List.intercalate, List.intersperse]

namespace Addresses

variable {name name' : String} {r r' : Request}

theorem query (h : Addresses name r) : r.target.query? = some Cluster.applyQuery := by
  cases h with
  | ofNamespace _ hquery => exact hquery
  | ofChart _ _ hquery => exact hquery

/-- Requests for one target address the same namespace. -/
theorem name_eq (h : Addresses name r) (h' : Addresses name' r')
    (htext : r.target.text = r'.target.text) : name = name' := by
  have hpath : r.target.path = r'.target.path := by
    rw [Target.text, Target.text, h.query, h'.query] at htext
    exact (String.append_left_inj _).mp htext
  have htexts {texts texts' : List String} (hsegments : r.target.segments = texts.map Text.encode)
      (hsegments' : r'.target.segments = texts'.map Text.encode) : texts = texts' := by
    rw [Target.segments, hpath] at hsegments
    exact (List.map_inj_right fun _ _ => Text.encode_inj.mp).mp (hsegments.symm.trans hsegments')
  cases h with
  | ofNamespace _ _ hsegments =>
    cases h' with
    | ofNamespace _ _ hsegments' => simpa using htexts hsegments hsegments'
    | ofChart _ _ _ hsegments' => simpa using htexts hsegments hsegments'
  | ofChart _ _ _ hsegments =>
    cases h' with
    | ofNamespace _ _ hsegments' => simpa using htexts hsegments hsegments'
    | ofChart _ _ _ hsegments' =>
      have hequal := htexts hsegments hsegments'
      simp only [List.cons.injEq] at hequal
      exact hequal.2.2.2.2.2.1

/-- No other namespace is named. -/
theorem eq_of_named (h : Addresses name r) {named : String} (hnamed : named ∈ r.namedNamespaces) :
    named = name := by
  cases h with
  | ofNamespace _ _ _ _ _ hnone =>
    rw [hnone] at hnamed
    contradiction
  | ofChart _ _ _ _ _ _ hnamespace htarget =>
    simp only [Cluster.Request.namedNamespaces, List.filterMap_cons, hnamespace, htarget] at hnamed
    simpa using hnamed

end Addresses

/-! ## A server that accepts everything -/

/-- It answers with an empty namespace or with a Helm chart that says nothing but the chart's name. -/
def obliging : Server := fun _ r =>
  Preflight.documentAnswer (
    if r.bodyText? ["kind"] = some "Namespace" then .object []
    else .object [("metadata", .object []), ("spec", .object [("chart", .string "")])])

theorem obliging_accepts_namespace (history : List Request) (name : String) :
    (obliging history (namespaceRequest name)).Accepts Cluster.namespaceSchema := by
  have hkind : (namespaceRequest name).bodyText? ["kind"] = some "Namespace" := rfl
  rw [obliging, if_pos hkind]
  exact Preflight.accepts_documentAnswer (by decide +kernel) (by decide +kernel)

theorem obliging_accepts_chart (history : List Request) (d : Deployment) :
    (obliging history d.chartRequest).Accepts Cluster.helmChartSchema := by
  have hkind : d.chartRequest.bodyText? ["kind"] ≠ some "Namespace" := by
    change some chartKind ≠ some "Namespace"
    decide
  rw [obliging, if_neg hkind]
  exact Preflight.accepts_documentAnswer (by decide +kernel) (by decide +kernel)

theorem accepted_of_forall {server : Server} {history : List Request}
    {xs : List (Application ProvisionError)}
    (h : ∀ x ∈ xs, ∀ history, (server history x.request).Accepts x.schema) :
    Accepted server history xs := by
  induction xs generalizing history with
  | nil => trivial
  | cons x xs ih => exact ⟨h x (.head _) history, ih fun y hy => h y (.tail _ hy)⟩

/-! ## Requests that may be sent -/

/-- A request may be sent where an onboarding is provisioned: in rounds with some server, or in some
interleaving of the submissions of its plan. -/
inductive MaySend (policy : Policy) (random : RandomSource) (o : Onboarding) (r : Request) : Prop where
  | rounds (server : Server) (history : List Request)
      (h : r ∈ ((provision policy random o).run server history).requests)
  | interleaved {p : Plan} {cluster : Handle} {moves : List (Nat × Move)}
      {parts : List (Cluster.Part ProvisionError)}
      (hmake : Plan.make policy random o = .ok (p, cluster))
      (hrun : Interleaving (p.parts cluster) moves parts) (h : r ∈ sends (moves.map Prod.snd))

namespace MaySend

variable {policy : Policy} {random : RandomSource} {o : Onboarding} {r : Request}

/-- What may be sent is in the plan. -/
theorem exists_plan (h : MaySend policy random o r) :
    ∃ p cluster, Plan.make policy random o = .ok (p, cluster) ∧
      r ∈ p.applications.map Application.request := by
  cases h with
  | rounds server history h =>
    cases hmake : Plan.make policy random o with
    | error e =>
      rw [(provision_run_refused hmake server history).2] at h
      contradiction
    | ok made =>
      obtain ⟨p, cluster⟩ := made
      obtain ⟨moves, parts, hrun, hsends, -⟩ := provision_interleaving hmake server history
      exact ⟨p, cluster, rfl, Plan.mem_of_sent hmake hrun (hsends ▸ h)⟩
  | interleaved hmake hrun h => exact ⟨_, _, hmake, Plan.mem_of_sent hmake hrun h⟩

/-- All that is in the plan may be sent. -/
theorem of_mem {p : Plan} {cluster : Handle} (hmake : Plan.make policy random o = .ok (p, cluster))
    (hr : r ∈ p.applications.map Application.request) : MaySend policy random o r := by
  have haccepted : Accepted obliging [] p.applications := by
    refine accepted_of_forall fun x hx history => ?_
    rcases List.mem_append.mp hx with hx | hx <;> obtain ⟨d, -, rfl⟩ := List.mem_map.mp hx
    · exact obliging_accepts_namespace history _
    · exact obliging_accepts_chart history d
  have hrequests := (provision_run hmake obliging []).2
  rcases Dialogue.conversation_run obliging [] p.applications with
    ⟨-, -, hall⟩ | ⟨_, _, _, _, -, herror, -⟩
  · exact .rounds obliging [] (by rwa [hrequests, hall])
  · rw [(Dialogue.conversation_ok_iff ..).mpr haccepted] at herror
    contradiction

/-- What may be sent addresses the namespace of the onboarding. -/
theorem addresses (h : MaySend policy random o r) : Addresses (o.service ++ o.suffix) r := by
  obtain ⟨p, cluster, hmake, hr⟩ := h.exists_plan
  obtain ⟨-, hname, secret, -, rfl⟩ := Plan.make_ok_iff.mp hmake
  have hplain : Plain (o.service ++ o.suffix) := .of_label (NamespaceName.validate_ok_iff.mp hname).1
  rcases Plan.mem_requests_of.mp hr with rfl | ⟨s, rfl⟩
  · exact addresses_namespace hplain
  · have hrelease : Plain s.chartName := by
      cases s <;> decide
    exact addresses_chart (d := s.deployment policy o.namespaceName secret) hplain hrelease

end MaySend

/-! ## No common objects -/

/-- The requests for an onboarding address its namespace.  For two services with one suffix, whatever
the policies, no request of one has the target of a request of the other, and no namespace that a body
of one names is named by a body of the other. -/
theorem provision_isolated {o o' : Onboarding} (hsuffix : o.suffix = o'.suffix)
    (hservice : o.service ≠ o'.service) (policy policy' : Policy) (random random' : RandomSource) :
    (∀ r, MaySend policy random o r → Addresses (o.service ++ o.suffix) r) ∧
      (∀ r', MaySend policy' random' o' r' → Addresses (o'.service ++ o'.suffix) r') ∧
        ∀ r r', MaySend policy random o r → MaySend policy' random' o' r' →
          r.target.text ≠ r'.target.text ∧ ∀ named ∈ r.namedNamespaces, named ∉ r'.namedNamespaces := by
  have hname : o.service ++ o.suffix ≠ o'.service ++ o'.suffix := by
    rw [hsuffix]
    exact fun hname => hservice ((String.append_left_inj _).mp hname)
  refine ⟨fun r hr => hr.addresses, fun r' hr' => hr'.addresses, fun r r' hr hr' => ⟨fun htext => ?_,
    fun named hnamed hnamed' => ?_⟩⟩
  · exact hname (hr.addresses.name_eq hr'.addresses htext)
  · exact hname ((hr.addresses.eq_of_named hnamed).symm.trans (hr'.addresses.eq_of_named hnamed'))

/-- So it is for two services with the standard policy, whose Helm charts name their namespaces. -/
theorem provision_isolated_orders :
    let onboarding (service : String) : Onboarding :=
      ⟨service, "-prod", some ⟨"test-cluster", "default"⟩⟩
    let random : RandomSource := fun count => .ok (.replicate count 0)
    (onboarding "orders").suffix = (onboarding "payments").suffix ∧
      (onboarding "orders").service ≠ (onboarding "payments").service ∧
        ∃ r r', MaySend .standard random (onboarding "orders") r ∧
          MaySend .standard random (onboarding "payments") r' ∧
            r.namedNamespaces = ["orders-prod", "orders-prod"] ∧
              r'.namedNamespaces = ["payments-prod", "payments-prod"] ∧
                r.target.text ≠ r'.target.text ∧
                  ∀ named ∈ r.namedNamespaces, named ∉ r'.namedNamespaces := by
  intro onboarding random
  have hsend (service : String) (h : ∀ c : Condition, c.Holds .standard (onboarding service)) :
      ∃ r, MaySend .standard random (onboarding service) r ∧
        r.namedNamespaces = [service ++ "-prod", service ++ "-prod"] := by
    obtain ⟨p, cluster, hmake⟩ := Plan.make_of_holds random h rfl
    obtain ⟨-, -, secret, -, rfl⟩ := Plan.make_ok_iff.mp hmake
    exact ⟨_, .of_mem hmake (Plan.mem_requests_of.mpr (.inr ⟨.cache, rfl⟩)),
      Deployment.namedNamespaces_chartRequest _⟩
  have hsuffix : (onboarding "orders").suffix = (onboarding "payments").suffix := rfl
  have hdifferent : (onboarding "orders").service ≠ (onboarding "payments").service :=
    (by decide : "orders" ≠ "payments")
  obtain ⟨r, hr, hnamed⟩ := hsend "orders" fun c => by cases c <;> decide
  obtain ⟨r', hr', hnamed'⟩ := hsend "payments" fun c => by cases c <;> decide
  obtain ⟨-, -, hisolated⟩ :=
    provision_isolated hsuffix hdifferent .standard .standard random random
  exact ⟨hsuffix, hdifferent, r, r', hr, hr', hnamed, hnamed', hisolated r r' hr hr'⟩

end BackingServices
