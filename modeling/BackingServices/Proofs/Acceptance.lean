import BackingServices.Proofs.NamespaceName
import BackingServices.Proofs.Plan
import BackingServices.Proofs.Secret
import Mathlib.Order.WellFounded
import Mathlib.Tactic.ByContra

/-!
# Which onboardings are accepted

Five conditions are looked at in a fixed order: the service has a name, there is a suffix,
there is a cluster, the two texts together are a label, and the secret has a length that
there is.  There is a plan if and only if all of them hold and there are bytes for the
secret, and else the first that does not hold is reported (`make_decides`).  A plan is
consistent: everything in it is about one namespace and comes from the policy and the
secret.
-/

namespace BackingServices

open Cluster (Handle)

/-! ## Conditions -/

/-- Of ranked conditions that do not all hold, there is a first that does not. -/
theorem exists_first_failing {ι : Type} (rank : ι → Nat) {Holds : ι → Prop} (h : ∃ c, ¬ Holds c) :
    ∃ c, (∀ c', rank c' < rank c → Holds c') ∧ ¬ Holds c := by
  obtain ⟨c, hfails, hleast⟩ := (measure rank).wf.has_min {c | ¬ Holds c} h
  exact ⟨c, fun c' hbefore => by_contra fun hfails' => hleast c' hfails' hbefore, hfails⟩

/-- What an onboarding under a policy must fulfil. -/
inductive Condition where
  /-- The service has a name that is not blank. -/
  | named
  /-- The suffix is not empty. -/
  | suffixed
  /-- There is a cluster. -/
  | placed
  /-- The name of the namespace is a label of at most 63 characters. -/
  | labelled
  /-- There are secrets of the length that the policy asks for. -/
  | measured

namespace Condition

/-- The place of a condition in the order. -/
def rank : Condition → Nat
  | .named => 0
  | .suffixed => 1
  | .placed => 2
  | .labelled => 3
  | .measured => 4

/-- Whether a condition holds. -/
def Holds (policy : Policy) (o : Onboarding) : Condition → Prop
  | .named => ∃ c ∈ o.service.toList, Text.isBlank c = false
  | .suffixed => o.suffix ≠ ""
  | .placed => o.cluster? ≠ none
  | .labelled => NamespaceName.Label (o.service ++ o.suffix).toList ∧
      (o.service ++ o.suffix).length ≤ 63
  | .measured => 1 ≤ policy.secretLength ∧ policy.secretLength ≤ 1024

instance (policy : Policy) (o : Onboarding) : DecidablePred (Holds policy o)
  | .named => List.decidableBEx (fun c => Text.isBlank c = false) o.service.toList
  | .suffixed => inferInstanceAs (Decidable (o.suffix ≠ ""))
  | .placed => inferInstanceAs (Decidable (o.cluster? ≠ none))
  | .labelled =>
    have : Decidable (NamespaceName.Label (o.service ++ o.suffix).toList) :=
      decidable_of_iff _ NamespaceName.isLabel_iff
    inferInstanceAs (Decidable (NamespaceName.Label (o.service ++ o.suffix).toList ∧
      (o.service ++ o.suffix).length ≤ 63))
  | .measured => inferInstanceAs (Decidable (1 ≤ policy.secretLength ∧ policy.secretLength ≤ 1024))

/-- What is reported of a condition that does not hold. -/
def fault (policy : Policy) (o : Onboarding) : Condition → RequestFault
  | .named => .noService
  | .suffixed => .noSuffix
  | .placed => .noCluster
  | .labelled =>
    let name := o.service ++ o.suffix
    if name = "" ∨ 63 < name.utf8ByteSize then .badLength name else .notLabel name
  | .measured => .badSecretLength policy.secretLength

/-- A condition is the first that does not hold. -/
structure First (policy : Policy) (o : Onboarding) (c : Condition) : Prop where
  before : ∀ c' : Condition, c'.rank < c.rank → c'.Holds policy o
  fails : ¬ c.Holds policy o

end Condition

open Condition (First Holds)

variable {policy : Policy} {random : RandomSource} {o : Onboarding}

/-- If a condition does not hold, there is a first that does not. -/
theorem Condition.exists_first (h : ∃ c, ¬ Holds policy o c) : ∃ c, First policy o c := by
  obtain ⟨c, hbefore, hfails⟩ := exists_first_failing rank h
  exact ⟨c, hbefore, hfails⟩

/-! ## Checks -/

theorem Text.allBlank_iff {s : String} :
    Text.allBlank s = true ↔ ¬ ∃ c ∈ s.toList, Text.isBlank c = false := by
  simp [Text.allBlank]

namespace Onboarding

theorem validate_blank (h : ¬ Holds policy o .named) :
    o.validate = .error (.request .noService) := by
  rw [validate, if_pos (Text.allBlank_iff.mpr h)]

theorem validate_named (h : Holds policy o .named) :
    o.validate = if o.suffix = "" then .error (.request .noSuffix)
      else match o.cluster? with
        | none => .error (.request .noCluster)
        | some cluster => .ok cluster := by
  have hnamed : ¬ Text.allBlank o.service = true := fun hblank => Text.allBlank_iff.mp hblank h
  rw [validate]
  exact if_neg hnamed

theorem validate_complete {cluster : Handle} (hnamed : Holds policy o .named)
    (hsuffix : Holds policy o .suffixed) (hcluster : o.cluster? = some cluster) :
    o.validate = .ok cluster := by
  rw [validate_named hnamed, if_neg hsuffix, hcluster]

theorem complete_of_validate (policy : Policy) {cluster : Handle} (h : o.validate = .ok cluster) :
    Holds policy o .named ∧ Holds policy o .suffixed ∧ o.cluster? = some cluster := by
  by_cases hnamed : Holds policy o .named
  · rw [validate_named hnamed] at h
    by_cases hsuffix : o.suffix = ""
    · rw [if_pos hsuffix] at h
      contradiction
    · rw [if_neg hsuffix] at h
      cases hcluster : o.cluster? with
      | none =>
        rw [hcluster] at h
        contradiction
      | some c =>
        rw [hcluster] at h
        exact ⟨hnamed, hsuffix, congrArg some (Except.ok.inj h)⟩
  · rw [validate_blank hnamed] at h
    contradiction

end Onboarding

theorem Secret.length_accepted (h : Holds policy o .measured) :
    ¬ (policy.secretLength = 0 ∨ maxSecretLength < policy.secretLength) := by
  have := h.1
  have := h.2
  rw [maxSecretLength]
  omega

theorem Secret.length_refused (h : ¬ Holds policy o .measured) :
    policy.secretLength = 0 ∨ maxSecretLength < policy.secretLength := by
  rw [Holds] at h
  rw [maxSecretLength]
  omega

theorem Secret.generate_unmeasured (h : ¬ Holds policy o .measured) :
    generate policy.secretLength random = .error (.request (.badSecretLength policy.secretLength)) :=
  generate_error_iff.mpr (.inl ⟨length_refused h, rfl⟩)

/-! ## Plans -/

namespace Plan

/-- If all conditions hold, only the secret decides about a plan. -/
theorem make_measured (random : RandomSource) (h : ∀ c, Holds policy o c) :
    ∃ cluster, make policy random o = (Secret.generate policy.secretLength random).map fun secret =>
      (of policy o.namespaceName secret, cluster) := by
  obtain ⟨cluster, hcluster⟩ := Option.ne_none_iff_exists'.mp (h .placed)
  have hname := NamespaceName.validate_ok_iff.mpr (h .labelled)
  refine ⟨cluster, ?_⟩
  rw [make, Onboarding.validate_complete (h .named) (h .suffixed) hcluster, Onboarding.namespaceName,
    NamespaceName.derive, hname]
  rfl

/-- There is a plan if all conditions hold and there are bytes. -/
theorem make_of_holds (random : RandomSource) (h : ∀ c, Holds policy o c)
    {bytes : Vector UInt8 (Secret.bytesFor policy.secretLength)}
    (hbytes : random (Secret.bytesFor policy.secretLength) = .ok bytes) :
    ∃ p cluster, make policy random o = .ok (p, cluster) := by
  obtain ⟨cluster, hmake⟩ := make_measured random h
  have hsecret := Secret.generate_ok_iff.mpr ⟨Secret.length_accepted (h .measured), bytes, hbytes, rfl⟩
  rw [hsecret] at hmake
  exact ⟨_, cluster, hmake⟩

/-- There is none if there are no bytes. -/
theorem make_of_no_bytes (h : ∀ c, Holds policy o c) {reason : String}
    (hbytes : random (Secret.bytesFor policy.secretLength) = .error reason) :
    make policy random o = .error (.randomness reason) := by
  obtain ⟨cluster, hmake⟩ := make_measured random h
  have hsecret := Secret.generate_error_iff.mpr
    (.inr ⟨Secret.length_accepted (h .measured), reason, hbytes, rfl⟩)
  rw [hsecret] at hmake
  exact hmake

/-- All conditions hold if there is a plan. -/
theorem holds_of_make {p : Plan} {cluster : Handle} (h : make policy random o = .ok (p, cluster))
    (c : Condition) : Holds policy o c := by
  obtain ⟨hvalid, hname, secret, hsecret, -⟩ := make_ok_iff.mp h
  obtain ⟨hnamed, hsuffix, hcluster⟩ := Onboarding.complete_of_validate policy hvalid
  cases c with
  | named => exact hnamed
  | suffixed => exact hsuffix
  | placed => exact fun hnone => Option.some_ne_none cluster (hcluster.symm.trans hnone)
  | labelled => exact NamespaceName.validate_ok_iff.mp hname
  | measured =>
    by_contra hlength
    rw [Secret.generate_unmeasured hlength] at hsecret
    contradiction

theorem make_of_invalid {e : ProvisionError} (h : o.validate = .error e) :
    make policy random o = .error e := by
  rw [make, h]
  rfl

/-- There are bytes if there is a plan. -/
theorem bytes_of_make {p : Plan} {cluster : Handle} (h : make policy random o = .ok (p, cluster)) :
    ∃ bytes, random (Secret.bytesFor policy.secretLength) = .ok bytes := by
  cases hbytes : random (Secret.bytesFor policy.secretLength) with
  | error reason =>
    rw [make_of_no_bytes (holds_of_make h) hbytes] at h
    contradiction
  | ok bytes => exact ⟨bytes, rfl⟩

/-- The first condition that does not hold is reported. -/
theorem make_of_first {c : Condition} (h : First policy o c) :
    make policy random o = .error (.request (c.fault policy o)) := by
  -- a cluster is there as soon as the first three conditions are known to hold
  have hvalid (hrank : 2 < c.rank) : ∃ cluster, o.validate = .ok cluster := by
    have hbefore (c' : Condition) (hc' : c'.rank ≤ 2) := h.before c' (by omega)
    obtain ⟨cluster, hcluster⟩ := Option.ne_none_iff_exists'.mp (hbefore .placed (by decide))
    exact ⟨cluster, Onboarding.validate_complete (hbefore .named (by decide))
      (hbefore .suffixed (by decide)) hcluster⟩
  cases c with
  | named => exact make_of_invalid (Onboarding.validate_blank h.fails)
  | suffixed =>
    have hnamed := h.before .named (by decide)
    have hsuffix : o.suffix = "" := Decidable.not_not.mp h.fails
    refine make_of_invalid ?_
    rw [Onboarding.validate_named hnamed, if_pos hsuffix]
    rfl
  | placed =>
    have hnamed := h.before .named (by decide)
    have hsuffix := h.before .suffixed (by decide)
    have hcluster : o.cluster? = none := Decidable.not_not.mp h.fails
    refine make_of_invalid ?_
    rw [Onboarding.validate_named hnamed, if_neg hsuffix, hcluster]
    rfl
  | labelled =>
    obtain ⟨cluster, hvalid⟩ := hvalid (by decide)
    rw [make, hvalid, Onboarding.namespaceName, NamespaceName.derive,
      NamespaceName.validate_eq_error h.fails]
    rfl
  | measured =>
    obtain ⟨cluster, hvalid⟩ := hvalid (by decide)
    have hname := NamespaceName.validate_ok_iff.mpr (h.before .labelled (by decide))
    rw [make, hvalid, Onboarding.namespaceName, NamespaceName.derive, hname,
      Secret.generate_unmeasured h.fails]
    rfl

/-- What is refused is refused for the first condition that does not hold, or for want of bytes. -/
theorem cases_of_error {e : ProvisionError} (h : make policy random o = .error e) :
    (∃ c : Condition, First policy o c ∧ e = .request (c.fault policy o)) ∨
      (∀ c, Holds policy o c) ∧
        ∃ reason, random (Secret.bytesFor policy.secretLength) = .error reason ∧
          e = .randomness reason := by
  by_cases hfails : ∃ c, ¬ Condition.Holds policy o c
  · obtain ⟨c, hfirst⟩ := Condition.exists_first hfails
    exact .inl ⟨c, hfirst, Except.error.inj (h.symm.trans (make_of_first hfirst))⟩
  · have hall (c : Condition) : Holds policy o c := by
      by_contra hc
      exact hfails ⟨c, hc⟩
    refine .inr ⟨hall, ?_⟩
    cases hbytes : random (Secret.bytesFor policy.secretLength) with
    | error reason =>
      exact ⟨reason, rfl, Except.error.inj (h.symm.trans (make_of_no_bytes hall hbytes))⟩
    | ok bytes =>
      obtain ⟨p, cluster, hok⟩ := make_of_holds random hall hbytes
      rw [h] at hok
      contradiction

end Plan

/-! ## Consistency -/

/-- The value at the end of a path of keys. -/
def Json.at? (v : Json) (path : List String) : Option Json := path.foldlM (fun v key => v.get? key) v

/-- What is the same throughout a plan, and where its parts come from. -/
structure Plan.Consistent (policy : Policy) (random : RandomSource) (o : Onboarding) (p : Plan)
    (cluster : Handle) : Prop where
  cluster : o.cluster? = some cluster
  name : p.namespaceName = o.service ++ o.suffix
  target : ∀ d ∈ p.deployments, d.targetNamespace = o.service ++ o.suffix
  charts : p.deployments.map Deployment.chartName = ["redis", "mongodb", "rabbitmq"]
  release : ∀ d ∈ p.deployments, d.releaseName = d.chartName
  distinct : p.releaseNames.Nodup
  wait : ∀ d ∈ p.deployments, d.blockUntilReady = false
  source : ∀ d ∈ p.deployments, d.sourceUri = chartSource policy.registryRoot d.chartName
  versions : p.deployments.map Deployment.chartVersion =
    [policy.chartVersions.cache, policy.chartVersions.documentStore, policy.chartVersions.broker]
  cacheStorage : p.cache.valueOverrides.at? ["master", "persistence", "storageClass"] =
    some (.string policy.storageClass)
  documentStoreStorage : p.documentStore.valueOverrides.at? ["persistence", "storageClass"] =
    some (.string policy.storageClass)
  brokerStorage : p.broker.valueOverrides.at? ["persistence", "storageClass"] =
    some (.string policy.storageClass)
  password : p.broker.valueOverrides.at? ["auth", "password"] = some (.string
    (match policy.brokerCredentials with
    | .fixed _ password => password
    | .generated _ => p.secret.expose))
  secret : Secret.generate policy.secretLength random = .ok p.secret

theorem Plan.consistent {p : Plan} {cluster : Handle} (h : make policy random o = .ok (p, cluster)) :
    Consistent policy random o p cluster := by
  obtain ⟨hvalid, -, secret, hsecret, rfl⟩ := make_ok_iff.mp h
  obtain ⟨-, -, hcluster⟩ := Onboarding.complete_of_validate policy hvalid
  have hservice {d : Deployment} (hd : d ∈ (of policy o.namespaceName secret).deployments) :
      ∃ s : Service, d = s.deployment policy o.namespaceName secret := by
    rw [deployments_of] at hd
    obtain ⟨s, -, rfl⟩ := List.mem_map.mp hd
    exact ⟨s, rfl⟩
  refine {
    cluster := hcluster
    name := rfl
    target := fun d hd => ?_
    charts := rfl
    release := fun d hd => ?_
    distinct := by simp [releaseNames, deployments_of, Service.all, Service.deployment, Service.chartName]
    wait := fun d hd => ?_
    source := fun d hd => ?_
    versions := rfl
    cacheStorage := rfl
    documentStoreStorage := rfl
    brokerStorage := rfl
    password := ?_
    secret := hsecret }
  · obtain ⟨s, rfl⟩ := hservice hd
    rfl
  · obtain ⟨s, rfl⟩ := hservice hd
    rfl
  · obtain ⟨s, rfl⟩ := hservice hd
    rfl
  · obtain ⟨s, rfl⟩ := hservice hd
    rfl
  · cases hcredentials : policy.brokerCredentials with
    | fixed user password =>
      simp only [of, Service.deployment, Service.values, Service.brokerValues, hcredentials]
      rfl
    | generated user =>
      simp only [of, Service.deployment, Service.values, Service.brokerValues, hcredentials]
      rfl

/-- There is a plan if and only if all conditions hold and the source of random bytes gives those that
are drawn.  Else the first condition that does not hold is reported, or, if all hold, why there are no
bytes, and nothing else ever is.  Every plan is consistent. -/
theorem Plan.make_decides (policy : Policy) (random : RandomSource) (o : Onboarding) :
    ((∃ p cluster, make policy random o = .ok (p, cluster)) ↔
        (∀ c, Condition.Holds policy o c) ∧
          ∃ bytes, random (Secret.bytesFor policy.secretLength) = .ok bytes) ∧
      (∀ e, make policy random o = .error e ↔
        (∃ c : Condition, (∀ c' : Condition, c'.rank < c.rank → c'.Holds policy o) ∧
          ¬ c.Holds policy o ∧ e = .request (c.fault policy o)) ∨
        (∀ c, Condition.Holds policy o c) ∧
          ∃ reason, random (Secret.bytesFor policy.secretLength) = .error reason ∧
            e = .randomness reason) ∧
      ∀ p cluster, make policy random o = .ok (p, cluster) →
        Consistent policy random o p cluster := by
  refine ⟨⟨?_, ?_⟩, fun e => ⟨fun h => ?_, ?_⟩, fun p cluster => consistent⟩
  · rintro ⟨p, cluster, h⟩
    exact ⟨holds_of_make h, bytes_of_make h⟩
  · rintro ⟨hall, bytes, hbytes⟩
    exact make_of_holds random hall hbytes
  · refine (cases_of_error h).imp_left ?_
    rintro ⟨c, hfirst, he⟩
    exact ⟨c, hfirst.before, hfirst.fails, he⟩
  · rintro (⟨c, hbefore, hfails, rfl⟩ | ⟨hall, reason, hbytes, rfl⟩)
    · exact make_of_first ⟨hbefore, hfails⟩
    · exact make_of_no_bytes hall hbytes

end BackingServices
