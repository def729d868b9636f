import BackingServices.Proofs.Acceptance
import BackingServices.Proofs.Cluster.Outcome
import BackingServices.Recorder

/-!
# What is attempted

An installer that fails for certain releases is given steps, some of which only plan and some of which
are refused.  A step that provisions attempts the deployments of its plan in their order, up to the
first whose release fails, and every other step attempts nothing.  What was attempted before does not
matter for a step, nor do earlier failures (`steps_attempt`).
-/

namespace BackingServices

open Cluster (Dialogue Handle Request Server)

/-! ## Installers that keep a record -/

/-- An installer records every attempt, and fails for the releases for which there is a failure. -/
structure Recording {σ : Type} (installer : Installer σ) (record : σ → List Attempt)
    (failure? : String → Option ProvisionError) : Prop where
  recorded : ∀ s cluster d, record (installer s cluster d).1 = record s ++ [⟨cluster.name, d⟩]
  result : ∀ s cluster d, (installer s cluster d).2 =
    match failure? d.releaseName with
    | some e => .error (.failure e)
    | none => .ok ()

/-- A recorder is one. -/
theorem recording_recorder (rejected : List String) :
    Recording (recorder rejected) id fun release =>
      if release ∈ rejected then some (.submission (.rejected release)) else none := by
  refine ⟨fun s cluster d => rfl, fun s cluster d => ?_⟩
  rw [recorder]
  by_cases hrejected : d.releaseName ∈ rejected
  · rw [if_pos hrejected, if_pos hrejected]
  · rw [if_neg hrejected, if_neg hrejected]

/-! ## What is to be attempted -/

section Expected

variable (policy : Policy) (failure? : String → Option ProvisionError)

/-- The deployments up to the first whose release fails, with this one. -/
def upToFailure (ds : List Deployment) : List Deployment :=
  ds.takeWhile (fun d => (failure? d.releaseName).isNone) ++
    (ds.dropWhile fun d => (failure? d.releaseName).isNone).take 1

/-- What a step attempts. -/
def Step.attempts (step : Step) : List Attempt :=
  match step.action, Plan.make policy step.random step.onboarding with
  | .provision, .ok (p, cluster) =>
    (upToFailure failure? [p.cache, p.documentStore, p.broker]).map (⟨cluster.name, ·⟩)
  | .provision, .error _ => []
  | .plan, _ => []

/-- What comes of a step. -/
def Step.outcome (step : Step) : Except Stop Plan :=
  match step.action, Plan.make policy step.random step.onboarding with
  | _, .error e => .error (.failure e)
  | .plan, .ok (p, _) => .ok p
  | .provision, .ok (p, _) =>
    match [p.cache, p.documentStore, p.broker].findSome? fun d => failure? d.releaseName with
    | some e => .error (.failure e)
    | none => .ok p

end Expected

/-! ## What is attempted -/

namespace Recording

variable {σ : Type} {installer : Installer σ} {record : σ → List Attempt}
  {failure? : String → Option ProvisionError}

/-- Deployments are attempted up to the first that fails, and its failure is that of all. -/
theorem submitAll (h : Recording installer record failure?) (s : σ) (cluster : Handle)
    (ds : List Deployment) :
    ∃ s', record s' = record s ++ (upToFailure failure? ds).map (⟨cluster.name, ·⟩) ∧
      installer.submitAll s cluster ds =
        (s', match ds.findSome? fun d => failure? d.releaseName with
          | some e => .error (.failure e)
          | none => .ok ()) := by
  -- the deployments behind the first are submitted in the state that this one leaves
  induction ds generalizing s with
  | nil => exact ⟨s, (List.append_nil _).symm, rfl⟩
  | cons d ds ih =>
    have hrecorded := h.recorded s cluster d
    have hresult := h.result s cluster d
    rw [Installer.submitAll, upToFailure, List.takeWhile_cons, List.dropWhile_cons,
      List.findSome?_cons]
    generalize installer s cluster d = submitted at hrecorded hresult
    obtain ⟨next, result⟩ := submitted
    simp only at hrecorded hresult
    cases hfailure : failure? d.releaseName with
    | some e =>
      rw [hfailure] at hresult
      subst hresult
      exact ⟨next, hrecorded, rfl⟩
    | none =>
      rw [hfailure] at hresult
      subst hresult
      obtain ⟨last, hrest, hlast⟩ := ih next
      refine ⟨last, ?_, hlast⟩
      rw [hrest, hrecorded, List.append_assoc]
      rfl

variable (policy : Policy) (server : Server) (history : List Request)

/-- A step adds its attempts to the record, and what comes of it does not depend on the state. -/
theorem step (h : Recording installer record failure?) (s : σ) (step : Step) :
    ∃ s', record s' = record s ++ step.attempts policy failure? ∧
      (installer.step policy s step).outcome server history =
        ((s', step.outcome policy failure?), []) := by
  obtain ⟨action, o, random⟩ := step
  rw [Installer.step, Step.attempts, Step.outcome]
  cases hmake : Plan.make policy random o with
  | error e =>
    cases action with
    | plan =>
      refine ⟨s, (List.append_nil _).symm, ?_⟩
      simp only [Installer.plan, BackingServices.plan, hmake]
      rfl
    | provision =>
      refine ⟨s, (List.append_nil _).symm, ?_⟩
      simp only [Installer.provision, BackingServices.plan, hmake]
      rfl
  | ok made =>
    obtain ⟨p, cluster⟩ := made
    cases action with
    | plan =>
      refine ⟨s, (List.append_nil _).symm, ?_⟩
      simp only [Installer.plan, BackingServices.plan, hmake]
      rfl
    | provision =>
      obtain ⟨s', hrecord, hsubmitted⟩ :=
        h.submitAll s cluster [p.cache, p.documentStore, p.broker]
      refine ⟨s', hrecord, ?_⟩
      simp only [Installer.provision, BackingServices.plan, hmake, Dialogue.outcome_within,
        Dialogue.bind, Dialogue.outcome_log, Plan.deployments, hsubmitted]
      cases [p.cache, p.documentStore, p.broker].findSome? fun d => failure? d.releaseName with
      | some e => rfl
      | none => rfl

/-- Steps add their attempts to the record one after the other, and each comes to what it comes to by
itself. -/
theorem steps (h : Recording installer record failure?) (s : σ) (steps : List Step) :
    ∃ s', record s' = record s ++ steps.flatMap (·.attempts policy failure?) ∧
      (installer.steps policy s steps).outcome server history =
        ((s', steps.map (·.outcome policy failure?)), []) := by
  induction steps generalizing s with
  | nil => exact ⟨s, (List.append_nil _).symm, rfl⟩
  | cons step rest ih =>
    obtain ⟨next, hnext, hstep⟩ := h.step policy server history s step
    obtain ⟨last, hlast, hrest⟩ := ih next
    refine ⟨last, ?_, ?_⟩
    · rw [hlast, hnext, List.append_assoc, List.flatMap_cons]
    · rw [Installer.steps, Dialogue.outcome_bind_silent hstep, Dialogue.outcome_bind_silent hrest]
      rfl

end Recording

/-- The steps of a run add to the record the attempts of each step, one after the other.  A step that
plans and one that is refused attempt nothing, and one that provisions attempts the cache, the document
store and the broker up to the first whose release fails.  What comes of a step is the plan, or the
failure of that release, or why it is refused, and it is the same whatever was done before. -/
theorem Installer.steps_attempt {σ : Type} {installer : Installer σ} {record : σ → List Attempt}
    {failure? : String → Option ProvisionError} (h : Recording installer record failure?)
    (policy : Policy) (s : σ) (steps : List Step) (server : Server) (history : List Request) :
    let run := (installer.steps policy s steps).run server history
    record run.result.1 = record s ++ steps.flatMap (·.attempts policy failure?) ∧
      run.result.2 = steps.map (·.outcome policy failure?) ∧ run.requests = [] := by
  intro run
  obtain ⟨s', hrecord, hsteps⟩ := h.steps policy server history s steps
  obtain ⟨hresult, hrequests⟩ := Prod.mk.inj hsteps
  refine ⟨?_, ?_, hrequests⟩
  · rw [← hrecord]
    exact congrArg (fun r => record r.1) hresult
  · exact congrArg Prod.snd hresult

/-- Where the document store fails, the broker is not attempted. -/
theorem Installer.steps_attempt_mongodb :
    let orders : Onboarding := ⟨"orders", "-prod", some ⟨"test-cluster", "default"⟩⟩
    let nameless : Onboarding := ⟨" ", "-prod", some ⟨"test-cluster", "default"⟩⟩
    let random : RandomSource := fun count => .ok (.replicate count 0)
    let steps := [⟨.plan, orders, random⟩, ⟨.provision, nameless, random⟩, ⟨.provision, orders, random⟩]
    let failure? release :=
      if release ∈ ["mongodb"] then some (.submission (.rejected release)) else none
    let run := ((recorder ["mongodb"]).steps .standard [] steps).run (fun _ _ => .broken "" []) []
    Recording (recorder ["mongodb"]) id failure? ∧
      ∃ p cluster, Plan.make .standard random orders = .ok (p, cluster) ∧
        run.result.1 = [⟨cluster.name, p.cache⟩, ⟨cluster.name, p.documentStore⟩] ∧
          run.result.2 = [.ok p, .error (.failure (.request .noService)),
            .error (.failure (.submission (.rejected "mongodb")))] ∧ run.requests = [] := by
  intro orders nameless random steps failure? run
  have hrecording : Recording (recorder ["mongodb"]) id failure? := recording_recorder ["mongodb"]
  have hholds (c : Condition) : c.Holds .standard orders := by
    cases c <;> decide
  obtain ⟨p, cluster, hmake⟩ := Plan.make_of_holds random hholds rfl
  have hrefused : Plan.make .standard random nameless = .error (.request .noService) :=
    Plan.make_of_invalid (if_pos (by decide))
  obtain ⟨hrecord, hresults, hrequests⟩ :=
    Installer.steps_attempt hrecording .standard [] steps (fun _ _ => .broken "" []) []
  refine ⟨hrecording, p, cluster, hmake, hrecord.trans ?_, hresults.trans ?_, hrequests⟩
  · obtain ⟨-, -, secret, -, rfl⟩ := Plan.make_ok_iff.mp hmake
    simp only [steps, List.flatMap_cons, List.flatMap_nil, Step.attempts, hmake, hrefused]
    rfl
  · obtain ⟨-, -, secret, -, rfl⟩ := Plan.make_ok_iff.mp hmake
    simp only [steps, List.map_cons, List.map_nil, Step.outcome, hmake, hrefused]
    rfl

end BackingServices
