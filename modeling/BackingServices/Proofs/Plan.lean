import BackingServices.Plan
import BackingServices.Proofs.NamespaceName
import BackingServices.Proofs.Submission

/-!
# Plans

What is in a plan (`make_ok_iff`), and that its deployments can be submitted: none asks to
wait, and the names in it are fit for a path (`quiet_submit_of_mem`).
-/

namespace BackingServices

open Cluster (Handle)
open Cluster.Dialogue (conversation)

/-! ## Names of namespaces -/

namespace NamespaceName

theorem isPathChar_of_isLabelChar {c : Char} (h : isLabelChar c = true) :
    Uri.isPathChar c = true := by
  rcases isLabelChar_iff.mp h with rfl | hend
  · decide
  · have hrange := isEnd_iff.mp hend
    simp only [Uri.isPathChar, Bool.or_eq_true, Bool.and_eq_true, beq_iff_eq, decide_eq_true_eq]
    omega

/-- A name of a namespace is fit for a path. -/
theorem fitForPath {name : String} (h : validate name = .ok ()) : FitForPath name := by
  obtain ⟨hlabel, hlength⟩ := validate_ok_iff.mp h
  refine ⟨hlabel.ne_empty, fun c hc => isPathChar_of_isLabelChar (hlabel.isLabelChar c hc), ?_⟩
  rw [hlabel.utf8ByteSize_eq]
  omega

end NamespaceName

/-! ## Plans -/

theorem Service.mem_all (s : Service) : s ∈ all := by
  cases s <;> simp [all]

theorem Service.keysDistinct_values (policy : Policy) (secret : Secret) (s : Service) :
    (s.values policy secret).KeysDistinct := by
  cases s <;>
    simp [values, cacheValues, documentStoreValues, brokerValues, Json.KeysDistinct,
      Json.KeysDistinctMembers]

theorem Service.fitForPath_chartName (s : Service) : FitForPath s.chartName := by
  cases s <;> exact ⟨by decide, List.all_eq_true.mp (by decide), by decide⟩

namespace Plan

variable {policy : Policy} {random : RandomSource} {o : Onboarding} {p : Plan} {cluster : Handle}

/-- There is a plan if the onboarding is complete, the namespace has a name that is a label, and there
is a secret of the length that the policy asks for. -/
theorem make_ok_iff :
    make policy random o = .ok (p, cluster) ↔
      o.validate = .ok cluster ∧ NamespaceName.validate o.namespaceName = .ok () ∧
        ∃ secret, Secret.generate policy.secretLength random = .ok secret ∧
          p = of policy o.namespaceName secret := by
  rw [make]
  cases o.validate with
  | error e => simp [bind, Except.bind]
  | ok c =>
    cases NamespaceName.validate o.namespaceName with
    | error e => simp [bind, Except.bind]
    | ok _ =>
      cases Secret.generate policy.secretLength random with
      | error e => simp [bind, Except.bind]
      | ok secret => simp [bind, Except.bind, eq_comm, and_comm]

/-- The deployments of a plan are those of the services in its namespace. -/
theorem deployments_of (policy : Policy) (namespaceName : String) (secret : Secret) :
    (of policy namespaceName secret).deployments =
      Service.all.map fun s => s.deployment policy namespaceName secret := rfl

/-- The deployments of a plan go to the namespace of the onboarding. -/
theorem targetNamespace_of_mem (h : make policy random o = .ok (p, cluster)) {d : Deployment}
    (hd : d ∈ p.deployments) : d.targetNamespace = o.namespaceName := by
  obtain ⟨-, -, secret, -, rfl⟩ := make_ok_iff.mp h
  rw [deployments_of] at hd
  obtain ⟨s, -, rfl⟩ := List.mem_map.mp hd
  rfl

/-- The deployments of a plan can be submitted. -/
theorem quiet_submit_of_mem (h : make policy random o = .ok (p, cluster)) {d : Deployment}
    (hd : d ∈ p.deployments) : (submit cluster d).quiet = conversation d.applications := by
  obtain ⟨-, hname, secret, -, rfl⟩ := make_ok_iff.mp h
  rw [deployments_of] at hd
  obtain ⟨s, -, rfl⟩ := List.mem_map.mp hd
  exact quiet_submit rfl (NamespaceName.fitForPath hname) s.fitForPath_chartName cluster

end Plan

end BackingServices
