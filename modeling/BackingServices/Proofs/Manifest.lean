import BackingServices.Proofs.Registry
import BackingServices.Proofs.Text

/-!
# Manifests tell the settings

No two values without repeated keys have one text (`Yaml.render_injective`), and no two deployments
that differ in their version, namespace, source or values have one Helm chart
(`HelmChart.installing_eq`).  So the Helm charts of a plan tell the settings it was made with, and so
do their documents in a stream (`Plan.charts_tell_settings`).  Of the root of the registry they do not
tell the slashes at its end.
-/

namespace BackingServices

open Cluster (Handle)

/-! ## Slashes -/

/-- Two texts differ in the slashes at their ends only. -/
def SameUpToSlashes (s t : String) : Prop :=
  ∃ front m n, s.toList = front ++ List.replicate m '/' ∧ t.toList = front ++ List.replicate n '/'

theorem rdropWhile_append_replicate {α : Type} {p : α → Bool} {a : α} (h : p a = true) (s : List α)
    (n : Nat) : (s ++ List.replicate n a).rdropWhile p = s.rdropWhile p := by
  induction n with
  | zero => rw [List.replicate_zero, List.append_nil]
  | succ n ih => rw [List.replicate_succ', ← List.append_assoc, List.rdropWhile_concat_pos _ _ _ h, ih]

/-- A text is what is left of it without the slashes at its end, and these slashes. -/
theorem exists_slashes (s : String) :
    ∃ n, s.toList = (trimSlashes s).toList ++ List.replicate n '/' := by
  have hall : ∀ c ∈ s.toList.rtakeWhile (· == '/'), c = '/' := by
    intro c hc
    have hslash := List.mem_rtakeWhile_imp hc
    exact beq_iff_eq.mp hslash
  have hslashes := List.eq_replicate_iff.mpr ⟨rfl, hall⟩
  refine ⟨(s.toList.rtakeWhile (· == '/')).length, ?_⟩
  rw [← hslashes, toList_trimSlashes, List.rdropWhile_append_rtakeWhile]

theorem trimSlashes_eq_iff {s t : String} : trimSlashes s = trimSlashes t ↔ SameUpToSlashes s t := by
  constructor
  · intro h
    obtain ⟨m, hs⟩ := exists_slashes s
    obtain ⟨n, ht⟩ := exists_slashes t
    exact ⟨(trimSlashes s).toList, m, n, hs, by rw [h, ← ht]⟩
  · rintro ⟨front, m, n, hs, ht⟩
    rw [← String.toList_inj, toList_trimSlashes, toList_trimSlashes, hs, ht,
      rdropWhile_append_replicate rfl, rdropWhile_append_replicate rfl]

/-- Charts of one name are at one place if and only if the roots differ in slashes only. -/
theorem chartSource_eq_iff {root root' name : String} :
    chartSource root name = chartSource root' name ↔ SameUpToSlashes root root' := by
  rw [chartSource, chartSource, String.append_left_inj, String.append_left_inj, trimSlashes_eq_iff]

/-! ## Documents -/

/-- What is written tells the value. -/
theorem Yaml.render_injective {v w : Json} (hv : v.KeysDistinct) (hw : w.KeysDistinct)
    (h : render v = render w) : v = w := by
  have hleft := readWithin?_render hv (max v.nesting w.nesting)
  have hright := readWithin?_render hw (max v.nesting w.nesting)
  rw [if_pos (le_max_left _ _)] at hleft
  rw [if_pos (le_max_right _ _), ← h, hleft] at hright
  exact Option.some.inj hright

/-- A specification is read back from its document. -/
theorem ChartSpec.ofNormal_toJson (s : ChartSpec) : ofNormal s.toJson = s := by
  obtain ⟨chart, repo?, version?, targetNamespace?, createNamespace?, valuesContent?⟩ := s
  cases repo? <;> cases version? <;> cases targetNamespace? <;> cases createNamespace? <;>
    cases valuesContent? <;> rfl

namespace HelmChart

/-- The Helm chart of a deployment is read back from its document. -/
theorem ofNormal_toJson (d : Deployment) : ofNormal (installing d).toJson = installing d := by
  have hmetadata : (installing d).toJson.get? "metadata" = some (installing d).metadata.toJson := rfl
  have hspec : (installing d).toJson.get? "spec" = some (installing d).spec.toJson := rfl
  rw [ofNormal, hmetadata, hspec, Option.getD_some, Option.getD_some, ChartSpec.ofNormal_toJson]
  rfl

variable {d d' : Deployment}

/-- The document of a Helm chart tells the Helm chart. -/
theorem installing_of_document (h : (installing d).document = (installing d').document) :
    installing d = installing d' := by
  have hread := read?_document d
  rw [h, read?_document d', Option.some.injEq] at hread
  rw [← ofNormal_toJson d, ← ofNormal_toJson d', hread]

/-- What a Helm chart tells of its deployment.  The name of the chart is told by an OCI reference only
together with the root of the registry. -/
theorem installing_eq (h : installing d = installing d') :
    d.targetNamespace = d'.targetNamespace ∧ d.chartVersion = d'.chartVersion ∧
      d.sourceUri = d'.sourceUri ∧ Yaml.render d.valueOverrides = Yaml.render d'.valueOverrides := by
  obtain ⟨hmetadata, hspec⟩ := HelmChart.mk.inj h
  obtain ⟨hchart, hrepo, hversion, hnamespace, -, hvalues⟩ := ChartSpec.mk.inj hspec
  refine ⟨Option.some.inj hnamespace, Option.some.inj hversion, ?_, Option.some.inj hvalues⟩
  cases hoci : isOci d.sourceUri with
  | true =>
    cases hoci' : isOci d'.sourceUri with
    | true => simpa [hoci, hoci'] using hchart
    | false => simp [hoci, hoci'] at hrepo
  | false =>
    cases hoci' : isOci d'.sourceUri with
    | true => simp [hoci, hoci'] at hrepo
    | false => simpa [hoci, hoci'] using hrepo

end HelmChart

/-! ## Settings -/

/-- The values of the broker tell where it stores its data and who may use it. -/
theorem Service.brokerValues_eq {policy policy' : Policy} {secret secret' : Secret}
    (h : brokerValues policy secret = brokerValues policy' secret') :
    policy.storageClass = policy'.storageClass ∧
      policy.brokerCredentials.username = policy'.brokerCredentials.username ∧
      policy.brokerCredentials.password secret = policy'.brokerCredentials.password secret' := by
  simp only [brokerValues, Json.object.injEq, List.cons.injEq, Prod.mk.injEq, Json.string.injEq,
    true_and, and_true] at h
  exact ⟨h.2, h.1.2, h.1.1⟩

namespace Plan

/-- Two plans are made with the same settings, up to slashes at the end of the registry's root. -/
structure SameSettings (policy policy' : Policy) (p p' : Plan) : Prop where
  namespaceName : p.namespaceName = p'.namespaceName
  chartVersions : policy.chartVersions = policy'.chartVersions
  storageClass : policy.storageClass = policy'.storageClass
  username : policy.brokerCredentials.username = policy'.brokerCredentials.username
  password : policy.brokerCredentials.password p.secret = policy'.brokerCredentials.password p'.secret
  registryRoot : SameUpToSlashes policy.registryRoot policy'.registryRoot

variable {policy policy' : Policy} {name name' : String} {secret secret' : Secret}

/-- The Helm charts of all services together tell the settings. -/
theorem sameSettings_of_charts (h : ∀ s : Service,
    HelmChart.installing (s.deployment policy name secret) =
      HelmChart.installing (s.deployment policy' name' secret')) :
    SameSettings policy policy' (of policy name secret) (of policy' name' secret') := by
  have hversion (s : Service) : policy.chartVersions.of s = policy'.chartVersions.of s :=
    (HelmChart.installing_eq (h s)).2.1
  obtain ⟨hname, -, hsource, htext⟩ := HelmChart.installing_eq (h .broker)
  obtain ⟨hstorage, husername, hpassword⟩ := Service.brokerValues_eq <|
    Yaml.render_injective (Service.keysDistinct_values policy secret .broker)
      (Service.keysDistinct_values policy' secret' .broker) htext
  refine ⟨hname, ?_, hstorage, husername, hpassword, chartSource_eq_iff.mp hsource⟩
  rw [ChartVersions.mk.injEq]
  exact ⟨hversion .cache, hversion .documentStore, hversion .broker⟩

/-- Plans with the same settings have the same deployments. -/
theorem SameSettings.deployment
    (h : SameSettings policy policy' (of policy name secret) (of policy' name' secret'))
    (s : Service) : s.deployment policy name secret = s.deployment policy' name' secret' := by
  have hsource : chartSource policy.registryRoot s.chartName =
      chartSource policy'.registryRoot s.chartName := chartSource_eq_iff.mpr h.registryRoot
  have hname : name = name' := h.namespaceName
  have hpassword : policy.brokerCredentials.password secret =
      policy'.brokerCredentials.password secret' := h.password
  have hvalues : s.values policy secret = s.values policy' secret' := by
    cases s with
    | cache => simp only [Service.values, Service.cacheValues, h.storageClass]
    | documentStore => simp only [Service.values, Service.documentStoreValues, h.storageClass]
    | broker =>
      simp only [Service.values, Service.brokerValues, h.storageClass, h.username, hpassword]
  simp only [Service.deployment, hsource, hname, hvalues, h.chartVersions]

end Plan

/-! ## What is written -/

/-- What a stream without a limit holds of one deployment. -/
def Stream.written (d : Deployment) : List UInt8 := (empty.submit .unlimited d).1.held

theorem Stream.written_ready {d : Deployment} (hwait : d.blockUntilReady = false) :
    written d = Text.encode (HelmChart.installing d).document := by
  rw [written, submit_ready rfl hwait]
  rfl

/-- What is written of deployments tells their Helm charts. -/
theorem Stream.written_eq_iff {d d' : Deployment} (hwait : d.blockUntilReady = false)
    (hwait' : d'.blockUntilReady = false) :
    written d = written d' ↔ HelmChart.installing d = HelmChart.installing d' := by
  rw [written_ready hwait, written_ready hwait', Text.encode_inj]
  exact ⟨HelmChart.installing_of_document, congrArg HelmChart.document⟩

namespace Plan

variable {policy policy' : Policy} {random random' : RandomSource} {o o' : Onboarding} {p p' : Plan}
  {cluster cluster' : Handle}

/-- Every deployment of a plan has a Helm chart.  The Helm charts of two plans are equal one by one if
and only if the plans are made with the same settings, and so are the texts that are written of them. -/
theorem charts_tell_settings (h : make policy random o = .ok (p, cluster))
    (h' : make policy' random' o' = .ok (p', cluster')) :
    ∃ charts charts' : List HelmChart,
      p.deployments.map HelmChart.ofDeployment = charts.map .ok ∧
        p'.deployments.map HelmChart.ofDeployment = charts'.map .ok ∧
          (charts = charts' ↔ SameSettings policy policy' p p') ∧
            (p.deployments.map Stream.written = p'.deployments.map Stream.written ↔
              SameSettings policy policy' p p') := by
  obtain ⟨-, -, secret, -, rfl⟩ := make_ok_iff.mp h
  obtain ⟨-, -, secret', -, rfl⟩ := make_ok_iff.mp h'
  let d (s : Service) := s.deployment policy o.namespaceName secret
  let d' (s : Service) := s.deployment policy' o'.namespaceName secret'
  have hsettings : (∀ s, HelmChart.installing (d s) = HelmChart.installing (d' s)) ↔
      SameSettings policy policy' (of policy o.namespaceName secret)
        (of policy' o'.namespaceName secret') :=
    ⟨sameSettings_of_charts, fun hsame s => congrArg HelmChart.installing (hsame.deployment s)⟩
  have hwritten (s : Service) : Stream.written (d s) = Stream.written (d' s) ↔
      HelmChart.installing (d s) = HelmChart.installing (d' s) := Stream.written_eq_iff rfl rfl
  refine ⟨Service.all.map fun s => .installing (d s), Service.all.map fun s => .installing (d' s),
    rfl, rfl, ?_, ?_⟩
  · rw [List.map_inj_left, ← hsettings]
    exact ⟨fun hcharts s => hcharts s s.mem_all, fun hcharts s _ => hcharts s⟩
  · rw [deployments_of, deployments_of, List.map_map, List.map_map, List.map_inj_left, ← hsettings]
    exact ⟨fun hbytes s => (hwritten s).mp (hbytes s s.mem_all),
      fun hcharts s _ => (hwritten s).mpr (hcharts s)⟩

/-- The same is written for two roots that differ in slashes, and other texts for another password. -/
theorem charts_tell_settings_slashes :
    let policy (root password : String) : Policy :=
      { Policy.standard with registryRoot := root, brokerCredentials := .fixed "beckn" password }
    let onboarding : Onboarding := ⟨"orders", "-prod", some ⟨"test-cluster", "default"⟩⟩
    let random : RandomSource := fun count => .ok (.replicate count 0)
    let plan (root password : String) : Plan :=
      of (policy root password) "orders-prod" ⟨.replicate 12 '0'⟩
    let written (p : Plan) : List (List UInt8) := p.deployments.map Stream.written
    (∀ root password, make (policy root password) random onboarding =
        .ok (plan root password, ⟨"test-cluster", "default"⟩)) ∧
      written (plan "oci://h/c" "1e3") = written (plan "oci://h/c//" "1e3") ∧
        written (plan "oci://h/c" "1e3") ≠ written (plan "oci://h/c" "1000.0") := by
  intro policy onboarding random plan written
  have hvalid : onboarding.validate = .ok ⟨"test-cluster", "default"⟩ := by
    have hnamed : Condition.Holds Policy.standard onboarding .named := ⟨'o', by decide, by decide⟩
    have hsuffixed : Condition.Holds Policy.standard onboarding .suffixed := (by decide : "-prod" ≠ "")
    exact Onboarding.validate_complete hnamed hsuffixed rfl
  have hname : NamespaceName.validate "orders-prod" = .ok () :=
    NamespaceName.validate_ok_iff.mpr ⟨NamespaceName.isLabel_iff.mp (by decide), by decide⟩
  have hsecret : Secret.generate 12 random = .ok ⟨.replicate 12 '0'⟩ := by
    exact Secret.generate_ok_iff.mpr ⟨by decide, _, rfl, by decide⟩
  have hmake (root password : String) : make (policy root password) random onboarding =
      .ok (plan root password, ⟨"test-cluster", "default"⟩) :=
    make_ok_iff.mpr ⟨hvalid, hname, _, hsecret, rfl⟩
  refine ⟨hmake, ?_, fun hequal => ?_⟩
  · obtain ⟨_, _, -, -, -, hwritten⟩ :=
      charts_tell_settings (hmake "oci://h/c" "1e3") (hmake "oci://h/c//" "1e3")
    exact hwritten.mpr ⟨rfl, rfl, rfl, rfl, rfl, "oci://h/c".toList, 0, 2, by decide, by decide⟩
  · obtain ⟨_, _, -, -, -, hwritten⟩ :=
      charts_tell_settings (hmake "oci://h/c" "1e3") (hmake "oci://h/c" "1000.0")
    have hpassword : "1e3" = "1000.0" := (hwritten.mp hequal).password
    contradiction

end Plan

end BackingServices
