import BackingServices.DryRun
import BackingServices.Plan
import BackingServices.Submission

/-!
# Provisioning

To provision an onboarding is to plan it and then to submit the deployments of the
plan.  Nothing is submitted for an onboarding that is refused.

The deployments may be submitted to the API server, side by side.  Or they may be
submitted to an installer that keeps a state, such as a stream of manifests: then one
after the other, and none after the first that fails.
-/

namespace BackingServices

open Cluster (Dialogue Handle)

/-! ## What is logged -/

/-- Where the events about provisioning come from. -/
def provisionSource : String := "quartermaster::provisioner"

/-- The span in which an onboarding is provisioned. -/
def provisionSpan (o : Onboarding) : Span :=
  ⟨"provision", [⟨"service", .shown o.service⟩], .info, provisionSource⟩

/-- An event about provisioning. -/
def provisionEvent (level : Level) (message : String) : Event := .plain level provisionSource message

namespace Plan

/-- What is logged when a plan is made. -/
def made (p : Plan) : Event := provisionEvent .debug s!"Generated secret of {p.secret.length} characters"

/-- What is logged before a plan is submitted. -/
def announcement (p : Plan) (cluster : Handle) : Event :=
  provisionEvent .info (s!"Submitting {p.deployments.length} backing services to namespace " ++
    s!"{p.namespaceName} on cluster {cluster.name}")

/-- What is logged after a plan was submitted. -/
def confirmation (p : Plan) : Event :=
  provisionEvent .info
    ("Submitted releases " ++ ", ".intercalate p.releaseNames ++ " to namespace " ++ p.namespaceName)

end Plan

/-! ## Provisioning through the API server -/

/-- Plans an onboarding. -/
def plan (policy : Policy) (random : RandomSource) (o : Onboarding) :
    Dialogue (Except ProvisionError (Plan × Handle)) :=
  match Plan.make policy random o with
  | .error e => .done (.error e)
  | .ok (p, cluster) => .log p.made (.done (.ok (p, cluster)))

/-- Provisions an onboarding through the API server. -/
def provision (policy : Policy) (random : RandomSource) (o : Onboarding) :
    Dialogue (Except ProvisionError Plan) :=
  .within (provisionSpan o)
    ((plan policy random o).andThen fun (p, cluster) =>
      .log (p.announcement cluster)
        ((submitAll cluster p.deployments).andThen fun () => .log p.confirmation (.done (.ok p))))

/-! ## Installers with a state -/

/-- An installer that keeps a state: what submitting a deployment to a cluster makes of it, and whether
it succeeds. -/
abbrev Installer (σ : Type) := σ → Handle → Deployment → σ × Except Stop Unit

namespace Installer

variable {σ : Type}

/-- Submits deployments one after the other, up to the first that fails. -/
def submitAll (installer : Installer σ) (s : σ) (cluster : Handle) : List Deployment → σ × Except Stop Unit
  | [] => (s, .ok ())
  | d :: ds =>
    match installer s cluster d with
    | (s, .error stop) => (s, .error stop)
    | (s, .ok ()) => submitAll installer s cluster ds

/-- Plans an onboarding, which leaves the state as it is. -/
def plan (policy : Policy) (random : RandomSource) (o : Onboarding) (s : σ) :
    Dialogue (σ × Except Stop Plan) :=
  (BackingServices.plan policy random o).bind fun
    | .error e => .done (s, .error (.failure e))
    | .ok (p, _) => .done (s, .ok p)

/-- Provisions an onboarding. -/
def provision (installer : Installer σ) (policy : Policy) (random : RandomSource) (o : Onboarding)
    (s : σ) : Dialogue (σ × Except Stop Plan) :=
  .within (provisionSpan o)
    ((BackingServices.plan policy random o).bind fun
      | .error e => .done (s, .error (.failure e))
      | .ok (p, cluster) =>
        .log (p.announcement cluster)
          (match installer.submitAll s cluster p.deployments with
          | (s, .error stop) => .done (s, .error stop)
          | (s, .ok ()) => .log p.confirmation (.done (s, .ok p))))

end Installer

/-! ## Steps -/

/-- What is done with an onboarding. -/
inductive Action where
  /-- It is planned. -/
  | plan
  /-- It is provisioned. -/
  | provision
deriving DecidableEq

/-- A step in the life of an installer. -/
structure Step where
  /-- What is done. -/
  action : Action
  /-- The onboarding it is done with. -/
  onboarding : Onboarding
  /-- The random bytes there are for it. -/
  random : RandomSource

namespace Installer

variable {σ : Type}

/-- Takes one step. -/
def step (installer : Installer σ) (policy : Policy) (s : σ) (step : Step) :
    Dialogue (σ × Except Stop Plan) :=
  match step.action with
  | .plan => plan policy step.random step.onboarding s
  | .provision => installer.provision policy step.random step.onboarding s

/-- Takes steps one after the other, whether they fail or not. -/
def steps (installer : Installer σ) (policy : Policy) (s : σ) :
    List Step → Dialogue (σ × List (Except Stop Plan))
  | [] => .done (s, [])
  | step :: rest =>
    (installer.step policy s step).bind fun (s, result) =>
      (steps installer policy s rest).bind fun (s, results) => .done (s, result :: results)

end Installer

/-- Submitting to a stream of manifests. -/
def Stream.installer (w : Writer) : Installer Stream := fun s _ d => s.submit w d

end BackingServices
