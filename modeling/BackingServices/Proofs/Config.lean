import BackingServices.Config

/-!
# Configurations

What the parts of a configuration are read from (`ofLookup_ok_iff`), and what is known of
a root of a registry that is accepted (`readRegistry_ok_iff`).
-/

namespace BackingServices.Config

variable {lookup : Lookup}

/-- The root of the registry is the text of its variable, and it is a URL. -/
theorem readRegistry_ok_iff {root : String} :
    readRegistry lookup = .ok root ↔
      root = valueOr lookup "CHART_REGISTRY" Policy.standard.registryRoot ∧
        ∃ url, Url.parse root = .ok url := by
  rw [readRegistry]
  constructor
  · intro h
    cases hurl : Url.parse (valueOr lookup "CHART_REGISTRY" Policy.standard.registryRoot) with
    | error fault => simp [hurl] at h
    | ok url =>
      simp only [hurl, Except.ok.injEq] at h
      subst h
      exact ⟨rfl, url, hurl⟩
  · rintro ⟨rfl, url, hurl⟩
    simp only [hurl]

/-- A configuration is read part by part. -/
theorem ofLookup_ok_iff {c : Config} :
    ofLookup lookup = .ok c ↔
      readSuffix lookup = .ok c.namespaceSuffix ∧
        c.context? = nonEmpty (lookup "KUBE_CONTEXT") ∧
        readRegistry lookup = .ok c.policy.registryRoot ∧
        c.policy.storageClass = valueOr lookup "STORAGE_CLASS" Policy.standard.storageClass ∧
        c.policy.chartVersions =
          ⟨valueOr lookup "REDIS_CHART_VERSION" Policy.standard.chartVersions.cache,
            valueOr lookup "MONGODB_CHART_VERSION" Policy.standard.chartVersions.documentStore,
            valueOr lookup "RABBITMQ_CHART_VERSION" Policy.standard.chartVersions.broker⟩ ∧
        readCredentials lookup = .ok c.policy.brokerCredentials ∧
        readLength lookup = .ok c.policy.secretLength := by
  obtain ⟨suffix, context?, root, storageClass, versions, credentials, length⟩ := c
  rw [ofLookup]
  cases readSuffix lookup with
  | error e => simp [bind, Except.bind]
  | ok suffix' =>
    cases readRegistry lookup with
    | error e => simp [bind, Except.bind]
    | ok root' =>
      cases readCredentials lookup with
      | error e => simp [bind, Except.bind]
      | ok credentials' =>
        cases readLength lookup with
        | error e => simp [bind, Except.bind]
        | ok length' =>
          simp only [bind, Except.bind, Except.ok.injEq, Config.mk.injEq, Policy.mk.injEq]
          grind

end BackingServices.Config
