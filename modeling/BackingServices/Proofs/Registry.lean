import BackingServices.HelmChart
import BackingServices.Proofs.Acceptance
import BackingServices.Proofs.Config
import Mathlib.Data.List.DropRight

/-!
# Registries and the charts in them

The root of a registry is read twice: as a URL when the configuration is read, and as a text
when a chart is looked for below it.  The two readings agree on every root of another scheme
than `oci`, and on every root that begins with `oci://` and goes on with more than slashes
(`chart_of_registry`).  They need not agree on other spellings of the scheme
(`registry_without_authority`).
-/

namespace BackingServices

open Cluster (Handle)

/-! ## Cutting at the end -/

/-- What is cut off at the end of a text is cut off at the end of its second part, if the first part
does not end in such characters. -/
theorem rdropWhile_append {α : Type} {p : α → Bool} {front : List α}
    (h : front.rdropWhile p = front) (back : List α) :
    (front ++ back).rdropWhile p = front ++ back.rdropWhile p := by
  have hfront : front.reverse.dropWhile p = front.reverse := by
    rw [← List.reverse_eq_iff]
    exact h
  rw [List.rdropWhile, List.reverse_append, List.dropWhile_append]
  split
  · next hempty =>
    rw [hfront, List.reverse_reverse, List.rdropWhile, List.isEmpty_iff.mp hempty,
      List.reverse_nil, List.append_nil]
  · rw [List.reverse_append, List.reverse_reverse]
    rfl

/-! ## Sources -/

theorem toList_ociScheme : HelmChart.ociScheme.toList = ['o', 'c', 'i', ':', '/', '/'] := by decide

theorem isOci_iff {source : String} :
    HelmChart.isOci source = true ↔ HelmChart.ociScheme.toList <+: source.toList :=
  List.isPrefixOf_iff_prefix

theorem toList_trimSlashes (s : String) : (trimSlashes s).toList = s.toList.rdropWhile (· == '/') :=
  String.toList_ofList

theorem toList_chartSource (root name : String) :
    (chartSource root name).toList = root.toList.rdropWhile (· == '/') ++ '/' :: name.toList := by
  rw [chartSource, String.toList_append, String.toList_append, toList_trimSlashes, List.append_assoc]
  rfl

/-- The slash behind a root does not complete the beginning of an OCI reference: the root has lost
its own slashes, and no name of a chart begins with one. -/
theorem prefix_of_append_slash {front name : List Char} (hfront : front.getLast? ≠ some '/')
    (hname : name.head? ≠ some '/')
    (h : ['o', 'c', 'i', ':', '/', '/'] <+: front ++ '/' :: name) :
    ['o', 'c', 'i', ':', '/', '/'] <+: front := by
  rcases List.prefix_or_prefix_of_prefix h (List.prefix_append front _) with hdone | hshort
  · exact hdone
  · rw [List.prefix_iff_eq_take] at hshort
    generalize front.length = k at hshort
    subst hshort
    rcases k with _ | _ | _ | _ | _ | _ | k
    · simp at h
    · simp at h
    · simp at h
    · simp at h
    · obtain ⟨rest, h⟩ := h
      simp at h
      simp [← h] at hname
    · simp at hfront
    · simp

/-- A source is an OCI reference only if the root begins as one. -/
theorem prefix_of_isOci {root name : String} (hname : name.toList.head? ≠ some '/')
    (h : HelmChart.isOci (chartSource root name) = true) :
    HelmChart.ociScheme.toList <+: root.toList := by
  rw [isOci_iff, toList_chartSource, toList_ociScheme] at h
  rw [toList_ociScheme]
  refine (prefix_of_append_slash ?_ hname h).trans (List.rdropWhile_prefix _ _)
  intro hlast
  have hne : root.toList.rdropWhile (· == '/') ≠ [] := by
    intro hempty
    rw [hempty] at hlast
    contradiction
  rw [List.getLast?_eq_some_getLast hne] at hlast
  exact List.rdropWhile_last_not _ _ hne (by simp [Option.some.inj hlast])

/-! ## OCI roots -/

/-- The roots that begin with `oci://` and go on with more than slashes. -/
def IsOciRoot (root : String) : Prop :=
  ∃ rest, root.toList = HelmChart.ociScheme.toList ++ rest ∧ ∃ c ∈ rest, c ≠ '/'

theorem IsOciRoot.prefix {root : String} (h : IsOciRoot root) :
    HelmChart.ociScheme.toList <+: root.toList := by
  obtain ⟨rest, hroot, -⟩ := h
  exact ⟨rest, hroot.symm⟩

/-- An OCI root gives OCI references. -/
theorem IsOciRoot.isOci {root : String} (h : IsOciRoot root) (name : String) :
    HelmChart.isOci (chartSource root name) = true := by
  obtain ⟨rest, hroot, c, hc, hslash⟩ := h
  obtain ⟨before, after, rfl⟩ := List.append_of_mem hc
  have hends : (HelmChart.ociScheme.toList ++ before ++ [c]).rdropWhile (· == '/') =
      HelmChart.ociScheme.toList ++ before ++ [c] :=
    List.rdropWhile_concat_neg (fun c => c == '/') _ c (by simpa using hslash)
  have hsplit : root.toList = HelmChart.ociScheme.toList ++ before ++ [c] ++ after := by
    simp [hroot]
  rw [isOci_iff, toList_chartSource, hsplit, rdropWhile_append hends]
  simp only [List.append_assoc]
  exact List.prefix_append _ _

/-! ## URLs -/

/-- What is read of a text that begins with `oci://` begins with it. -/
theorem Url.significant_oci {s : String} (h : HelmChart.ociScheme.toList <+: s.toList) :
    ∃ rest, significant s = ['o', 'c', 'i', ':', '/', '/'] ++ rest := by
  obtain ⟨back, hs⟩ := h
  rw [toList_ociScheme] at hs
  have htrimmed : (['o', 'c', 'i', ':', '/', '/'] ++ back).dropWhile isTrimmed =
      ['o', 'c', 'i', ':', '/', '/'] ++ back := List.dropWhile_cons_of_neg (by decide)
  refine ⟨(back.rdropWhile isTrimmed).filter fun c => !isIgnored c, ?_⟩
  rw [significant, ← hs, htrimmed]
  change ((['o', 'c', 'i', ':', '/', '/'] ++ back).rdropWhile isTrimmed).filter _ = _
  rw [rdropWhile_append (by decide), List.filter_append]
  rfl

/-- A text that begins with `oci://` has no other scheme. -/
theorem Url.scheme_of_oci {s : String} (h : HelmChart.ociScheme.toList <+: s.toList) {url : Url}
    (hurl : Url.parse s = .ok url) : url.scheme = "oci" := by
  obtain ⟨rest, hrest⟩ := significant_oci h
  have hscheme : scheme? (['o', 'c', 'i', ':', '/', '/'] ++ rest) =
      some ("oci", '/' :: '/' :: rest) := rfl
  have hclass : SchemeClass.of "oci" = .other := by decide
  rw [Url.parse, hrest, hscheme] at hurl
  simp only [hclass] at hurl
  cases hhost : authority .other rest with
  | error fault =>
    rw [hhost] at hurl
    contradiction
  | ok host? =>
    rw [hhost] at hurl
    obtain rfl := Except.ok.inj hurl
    rfl

/-! ## Charts -/

section

variable {d : Deployment}

theorem HelmChart.installing_reference (h : isOci d.sourceUri = true) :
    (installing d).spec.chart = d.sourceUri ∧ (installing d).spec.repo? = none := by
  simp [installing, h]

theorem HelmChart.installing_named (h : ¬ isOci d.sourceUri = true) :
    (installing d).spec.chart = d.chartName ∧ (installing d).spec.repo? = some d.sourceUri := by
  simp [installing, h]

end

theorem Service.head_chartName (s : Service) : s.chartName.toList.head? ≠ some '/' := by
  cases s <;> decide

/-- The Helm charts of a configuration are OCI references if the root of its registry is an OCI root,
which is then a URL of this scheme.  If it is a URL of another scheme, they are named by the names of
the charts, and the sources are their repositories. -/
theorem Config.chart_of_registry {lookup : Lookup} {c : Config} (h : ofLookup lookup = .ok c) :
    ∃ url, Url.parse c.policy.registryRoot = .ok url ∧
      c.policy.registryRoot = valueOr lookup "CHART_REGISTRY" Policy.standard.registryRoot ∧
      (IsOciRoot c.policy.registryRoot → url.scheme = "oci") ∧
      ∀ random o p cluster, Plan.make c.policy random o = .ok (p, cluster) →
        ∀ d ∈ p.deployments, ∃ chart, HelmChart.ofDeployment d = .ok chart ∧
          d.sourceUri = chartSource c.policy.registryRoot d.chartName ∧
          (IsOciRoot c.policy.registryRoot →
            "oci://".toList <+: d.sourceUri.toList ∧ chart.spec.chart = d.sourceUri ∧
              chart.spec.repo? = none) ∧
          (url.scheme ≠ "oci" →
            chart.spec.chart = d.chartName ∧ chart.spec.repo? = some d.sourceUri) := by
  obtain ⟨-, -, hregistry, -⟩ := ofLookup_ok_iff.mp h
  obtain ⟨hroot, url, hurl⟩ := readRegistry_ok_iff.mp hregistry
  refine ⟨url, hurl, hroot, fun hoci => Url.scheme_of_oci hoci.prefix hurl, ?_⟩
  intro random o p cluster hmake d hd
  obtain ⟨-, -, secret, -, rfl⟩ := Plan.make_ok_iff.mp hmake
  rw [Plan.deployments_of] at hd
  obtain ⟨s, -, hs⟩ := List.mem_map.mp hd
  have hquiet : d.blockUntilReady = false := by rw [← hs]; rfl
  have hname : d.chartName = s.chartName := by rw [← hs]; rfl
  have hsource : d.sourceUri = chartSource c.policy.registryRoot d.chartName := by rw [← hs]; rfl
  refine ⟨.installing d, HelmChart.ofDeployment_ready hquiet, hsource, fun hoci => ?_, fun hother => ?_⟩
  · have hreference : HelmChart.isOci d.sourceUri = true := by
      rw [hsource]
      exact hoci.isOci d.chartName
    exact ⟨isOci_iff.mp hreference, HelmChart.installing_reference hreference⟩
  · have hnamed : ¬ HelmChart.isOci d.sourceUri = true := by
      intro hreference
      rw [hsource, hname] at hreference
      exact hother (Url.scheme_of_oci (prefix_of_isOci s.head_chartName hreference) hurl)
    exact HelmChart.installing_named hnamed

/-- The standard registry. -/
theorem Config.chart_of_registry_standard :
    ofLookup (fun name => [("NAMESPACE_SUFFIX", "-prod")].lookup name) =
        .ok ⟨"-prod", none, Policy.standard⟩ ∧
      IsOciRoot Policy.standard.registryRoot ∧
      ∀ random o p cluster, Plan.make Policy.standard random o = .ok (p, cluster) →
        ∀ d ∈ p.deployments, ∃ chart, HelmChart.ofDeployment d = .ok chart ∧
          chart.spec.chart = d.sourceUri ∧ chart.spec.repo? = none := by
  have hlookup : ofLookup (fun name => [("NAMESPACE_SUFFIX", "-prod")].lookup name) =
      .ok ⟨"-prod", none, Policy.standard⟩ := by decide +kernel
  have hoci : IsOciRoot Policy.standard.registryRoot :=
    ⟨"registry-1.docker.io/bitnamicharts".toList, by decide, 'r', by decide, by decide⟩
  obtain ⟨url, -, -, -, hcharts⟩ := chart_of_registry hlookup
  refine ⟨hlookup, hoci, fun random o p cluster hmake d hd => ?_⟩
  obtain ⟨chart, hchart, -, hreference, -⟩ := hcharts random o p cluster hmake d hd
  exact ⟨chart, hchart, (hreference hoci).2⟩

/-- A root of the scheme that has no `//` behind it is accepted, and its charts are no OCI
references. -/
theorem Config.registry_without_authority :
    ¬ ∀ lookup c url, ofLookup lookup = .ok c → Url.parse c.policy.registryRoot = .ok url →
      url.scheme = "oci" → ∀ random o p cluster, Plan.make c.policy random o = .ok (p, cluster) →
        ∀ d ∈ p.deployments, ∃ chart, HelmChart.ofDeployment d = .ok chart ∧
          "oci://".toList <+: d.sourceUri.toList ∧ chart.spec.chart = d.sourceUri ∧
            chart.spec.repo? = none := by
  intro hall
  let policy : Policy := { Policy.standard with registryRoot := "oci:charts" }
  let o : Onboarding := ⟨"orders", "-prod", some ⟨"test-cluster", "default"⟩⟩
  have hlookup : ofLookup (fun name =>
        [("NAMESPACE_SUFFIX", "-prod"), ("CHART_REGISTRY", "oci:charts")].lookup name) =
      .ok ⟨"-prod", none, { Policy.standard with registryRoot := "oci:charts" }⟩ := by decide +kernel
  have hurl : Url.parse "oci:charts" = .ok ⟨"oci", none⟩ := by decide +kernel
  have hholds : ∀ c, Condition.Holds policy o c := by
    intro c
    cases c with
    | named => exact ⟨'o', by decide, by decide⟩
    | suffixed => exact (by decide : "-prod" ≠ "")
    | placed => exact Option.some_ne_none _
    | labelled => exact ⟨NamespaceName.isLabel_iff.mp (by decide), by decide⟩
    | measured => exact (by decide : 1 ≤ 12 ∧ 12 ≤ 1024)
  obtain ⟨p, cluster, hmake⟩ := Plan.make_of_holds (fun _ => .ok (.replicate _ 0)) hholds rfl
  obtain ⟨chart, -, hsource, -⟩ := hall _ _ _ hlookup hurl rfl _ _ _ _ hmake p.cache (.head _)
  have hcache : p.cache.sourceUri = chartSource "oci:charts" "redis" := by
    obtain ⟨-, -, secret, -, rfl⟩ := Plan.make_ok_iff.mp hmake
    rfl
  rw [hcache] at hsource
  have hroot : HelmChart.ociScheme.toList <+: "oci:charts".toList :=
    prefix_of_isOci Service.cache.head_chartName (isOci_iff.mpr hsource)
  rw [toList_ociScheme] at hroot
  revert hroot
  decide

end BackingServices
