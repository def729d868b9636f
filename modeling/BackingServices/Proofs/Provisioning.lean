import BackingServices.Proofs.Cluster.Rounds
import BackingServices.Proofs.Plan
import BackingServices.Provisioning

/-!
# Provisioning

A plan is submitted by six requests, of which three apply the namespace and one applies
each Helm chart.  Provisioning succeeds only if all six are sent and accepted, and no Helm
chart is applied before its submission has seen the namespace accepted.  That is so in
the rounds in which `provision` goes on, and in every other interleaving of the three
submissions (`provision_sound`).
-/

namespace BackingServices

open Cluster (ApiError Dialogue Handle Interleaving Move Request Server answered jointResult?
  sends)
open Cluster.Dialogue (Accepted Application conversation inRounds)

namespace Plan

variable {policy : Policy} {random : RandomSource} {o : Onboarding} {p : Plan} {cluster : Handle}

/-! ## What a plan applies -/

/-- What the submissions of a plan apply, each for itself. -/
def conversations (p : Plan) : List (List (Application ProvisionError)) :=
  p.deployments.map Deployment.applications

/-- What a plan applies, in the order of the rounds. -/
def applications (p : Plan) : List (Application ProvisionError) :=
  p.deployments.map (fun d => namespaceApplication d.targetNamespace) ++
    p.deployments.map Deployment.chartApplication

/-- The submissions of a plan, side by side. -/
def parts (cluster : Handle) (p : Plan) : List (Cluster.Part ProvisionError) :=
  (p.deployments.map (submit cluster)).map .of

/-- In the first round the namespaces are applied, and in the second the Helm charts. -/
theorem inRounds_conversations (p : Plan) : inRounds 2 p.conversations = p.applications := rfl

theorem flatten_conversations_perm (p : Plan) : p.conversations.flatten.Perm p.applications := by
  rw [conversations, applications]
  induction p.deployments with
  | nil => exact .nil
  | cons d ds ih => exact .cons _ ((ih.cons _).trans List.perm_middle.symm)

/-- What fails in the first round is a namespace, and behind it a Helm chart. -/
theorem failure_of_applications (h : make policy random o = .ok (p, cluster)) {k : Nat}
    {x : Application ProvisionError} (hx : p.applications[k]? = some x) (reason : ApiError) :
    x.failure reason =
      if k < 3 then .submission (.namespaceNotApplied o.namespaceName reason) else .api reason := by
  rw [applications, List.getElem?_append, List.length_map] at hx
  by_cases hk : k < 3
  · rw [if_pos hk]
    rw [if_pos (show k < p.deployments.length from hk)] at hx
    obtain ⟨d, hd, rfl⟩ := List.mem_map.mp (List.mem_of_getElem? hx)
    rw [targetNamespace_of_mem h hd]
    rfl
  · rw [if_neg hk]
    rw [if_neg (show ¬ k < p.deployments.length from hk)] at hx
    obtain ⟨d, -, rfl⟩ := List.mem_map.mp (List.mem_of_getElem? hx)
    rfl

theorem hold (h : make policy random o = .ok (p, cluster)) :
    Dialogue.Hold (p.deployments.map (submit cluster)) p.conversations :=
  .cons (quiet_submit_of_mem h (by simp [deployments]))
    (.cons (quiet_submit_of_mem h (by simp [deployments]))
      (.cons (quiet_submit_of_mem h (by simp [deployments])) .nil))

end Plan

/-! ## In rounds -/

section Rounds

variable {policy : Policy} {random : RandomSource} {o : Onboarding}

/-- An onboarding that is refused is not submitted. -/
theorem provision_refused {e : ProvisionError} (h : Plan.make policy random o = .error e) :
    provision policy random o = .done (.error e) := by
  rw [provision, plan, h]
  rfl

/-- What is done with a plan once it is made. -/
def carryOut (p : Plan) (cluster : Handle) : Dialogue (Except ProvisionError Plan) :=
  .log p.made (.log (p.announcement cluster)
    ((submitAll cluster p.deployments).andThen fun () => .log p.confirmation (.done (.ok p))))

theorem provision_made {p : Plan} {cluster : Handle}
    (h : Plan.make policy random o = .ok (p, cluster)) :
    provision policy random o = .within (provisionSpan o) (carryOut p cluster) := by
  rw [provision, plan, h]
  rfl

theorem quiet_provision {p : Plan} {cluster : Handle}
    (h : Plan.make policy random o = .ok (p, cluster)) :
    (provision policy random o).quiet =
      (submitAll cluster p.deployments).quiet.andThen fun () => .done (.ok p) := by
  rw [provision_made h, Dialogue.quiet_within]
  exact Dialogue.quiet_andThen (submitAll cluster p.deployments) fun () =>
    .log p.confirmation (.done (.ok p))

/-- An onboarding that is refused asks nothing. -/
theorem provision_run_refused {e : ProvisionError} (h : Plan.make policy random o = .error e)
    (server : Server) (history : List Request) :
    let run := (provision policy random o).run server history
    run.result = .error e ∧ run.requests = [] := by
  intro run
  simp only [run, provision_refused h]
  exact ⟨rfl, rfl⟩

/-- To provision an onboarding is a conversation about what its plan applies. -/
theorem provision_run {p : Plan} {cluster : Handle}
    (h : Plan.make policy random o = .ok (p, cluster)) (server : Server) (history : List Request) :
    let run := (provision policy random o).run server history
    let r := (conversation p.applications).run server history
    run.result = r.result.map (fun () => p) ∧ run.requests = r.requests := by
  intro run r
  obtain ⟨hresult, hrequests⟩ := Dialogue.run_quiet server history (provision policy random o)
  rw [quiet_provision h] at hresult hrequests
  rw [← hresult, ← hrequests]
  obtain ⟨hresult', hrequests'⟩ := Dialogue.run_quiet server history (submitAll cluster p.deployments)
  obtain ⟨hrounds, hall⟩ := Dialogue.rounds_run 2 (Plan.hold h) server history
  have hboth : r.result = ((submitAll cluster p.deployments).quiet.run server history).result :=
    (hresult'.trans hrounds).symm
  have hboth' : ((submitAll cluster p.deployments).quiet.run server history).requests = r.requests :=
    hrequests'.trans hall
  cases hr : r.result with
  | ok _ =>
    obtain ⟨hok, hasked⟩ := Dialogue.run_andThen_ok (fun () => Dialogue.done (.ok p))
      (hboth.symm.trans hr) hboth'
    exact ⟨hok, hasked.trans (List.append_nil _)⟩
  | error e =>
    exact Dialogue.run_andThen_error (fun () => Dialogue.done (.ok p)) (hboth.symm.trans hr) hboth'

/-- The rounds are one of the interleavings of the submissions. -/
theorem provision_interleaving {p : Plan} {cluster : Handle}
    (h : Plan.make policy random o = .ok (p, cluster)) (server : Server) (history : List Request) :
    let run := (provision policy random o).run server history
    ∃ moves parts, Interleaving (p.parts cluster) moves parts ∧
      sends (moves.map Prod.snd) = run.requests ∧
        jointResult? parts = some (run.result.map fun _ => ()) := by
  intro run
  obtain ⟨hresult, hrequests⟩ := provision_run h server history
  obtain ⟨hrounds, hall⟩ := Dialogue.rounds_run 2 (Plan.hold h) server history
  obtain ⟨moves, parts, hrun, hsends, hjoint⟩ :=
    Interleaving.of_rounds (Plan.hold h) 2 server history
  refine ⟨moves, parts, hrun, (hsends.trans hall).trans hrequests.symm, ?_⟩
  rw [hjoint, hrounds, hresult, p.inRounds_conversations]
  cases ((conversation p.applications).run server history).result <;> rfl

end Rounds

/-! ## In every interleaving -/

/-- What is so in an interleaving of the submissions of a plan. -/
structure SoundInterleaving (cluster : Handle) (p : Plan) (moves : List (Nat × Move))
    (parts : List (Cluster.Part ProvisionError)) : Prop where
  /-- It succeeds only if all requests of the plan are sent, and all are answered and accepted. -/
  of_ok : jointResult? parts = some (.ok ()) →
    (sends (moves.map Prod.snd)).Perm (p.applications.map Application.request) ∧
      (answered (moves.map Prod.snd)).Perm (p.applications.map Application.request) ∧
        ∀ i request a, (i, .receive request a) ∈ moves →
          ∃ x ∈ p.applications, x.request = request ∧ a.Accepts x.schema
  /-- An answer that is received is accepted, or else its failure is what comes of all. -/
  of_received : ∀ i request a, (i, .receive request a) ∈ moves →
    ∃ d x, p.deployments[i]? = some d ∧ x ∈ d.applications ∧ x.request = request ∧
      (a.Accepts x.schema ∨ ∃ reason, a.read x.schema = .error reason ∧
        jointResult? parts = some (.error (x.failure reason)))
  /-- It fails only for the answer that is received last, which is not accepted. -/
  of_error : ∀ e, jointResult? parts = some (.error e) →
    ∃ before i d x a reason, moves = before ++ [(i, .receive x.request a)] ∧
      p.deployments[i]? = some d ∧ x ∈ d.applications ∧ a.read x.schema = .error reason ∧
        e = x.failure reason
  /-- A submission sends its Helm chart only after it has received that the namespace is accepted. -/
  namespace_first : ∀ before i request after, moves = before ++ (i, .send request) :: after →
    ∃ d, p.deployments[i]? = some d ∧
      (request = namespaceRequest d.targetNamespace ∨
        request = d.chartRequest ∧ ∃ a, (i, .receive (namespaceRequest d.targetNamespace) a) ∈ before ∧
          a.Accepts Cluster.namespaceSchema)
  /-- No request of the plan is sent twice, and there are no others. -/
  once : ∃ requests, (sends (moves.map Prod.snd)).Perm requests ∧
    requests.Sublist (p.applications.map Application.request)
  /-- It ends. -/
  length_le : moves.length ≤ 12
  /-- It does not get stuck. -/
  goes_on : jointResult? parts = none →
    ∃ m parts', Interleaving (p.parts cluster) (moves ++ [m]) parts'

/-- So are all interleavings of the submissions of a plan. -/
theorem soundInterleaving {policy : Policy} {random : RandomSource} {o : Onboarding} {p : Plan}
    {cluster : Handle} (hmake : Plan.make policy random o = .ok (p, cluster))
    {moves : List (Nat × Move)} {parts : List (Cluster.Part ProvisionError)}
    (h : Interleaving (p.parts cluster) moves parts) : SoundInterleaving cluster p moves parts := by
  have hhold := Plan.hold hmake
  have hall : (p.conversations.flatten.map Application.request).Perm
      (p.applications.map Application.request) := p.flatten_conversations_perm.map _
  have hdeployment : ∀ (i : Nat) xs, p.conversations[i]? = some xs →
      ∃ d : Deployment, p.deployments[i]? = some d ∧ xs = d.applications := by
    intro i xs hi
    rw [Plan.conversations, List.getElem?_map, Option.map_eq_some_iff] at hi
    obtain ⟨d, hd, rfl⟩ := hi
    exact ⟨d, hd, rfl⟩
  refine ⟨fun hok => ?_, fun i request a hmem => ?_, fun e he => ?_,
    fun before i request after hmoves => ?_, ?_, h.length_le hhold, h.exists_move⟩
  · obtain ⟨hsends, hanswered⟩ := h.perm_of_ok hhold hok
    refine ⟨hsends.trans hall, hanswered.trans hall, fun i request a hmem => ?_⟩
    obtain ⟨x, hx, hrest⟩ := h.accepts_of_ok hhold hok hmem
    exact ⟨x, p.flatten_conversations_perm.mem_iff.mp hx, hrest⟩
  · obtain ⟨xs, x, hi, hx, hrest⟩ := h.of_received hhold hmem
    obtain ⟨d, hd, rfl⟩ := hdeployment i xs hi
    exact ⟨d, x, hd, hx, hrest⟩
  · obtain ⟨before, i, xs, x, a, reason, hmoves, hi, hx, hrest⟩ := h.of_error hhold he
    obtain ⟨d, hd, rfl⟩ := hdeployment i xs hi
    exact ⟨before, i, d, x, a, reason, hmoves, hd, hx, hrest⟩
  · obtain ⟨xs, done, x, left, hi, hsplit, rfl, hdone⟩ := h.of_sent hhold hmoves
    obtain ⟨d, hd, rfl⟩ := hdeployment i xs hi
    refine ⟨d, hd, ?_⟩
    rcases done with _ | ⟨y, _ | ⟨z, done⟩⟩
    · obtain ⟨rfl, -⟩ := List.cons.inj hsplit
      exact .inl rfl
    · obtain ⟨rfl, htail⟩ := List.cons.inj hsplit
      obtain ⟨rfl, -⟩ := List.cons.inj htail
      exact .inr ⟨rfl, hdone _ List.mem_cons_self⟩
    · simp [Deployment.applications] at hsplit
  · obtain ⟨requests, hsends, hsublist⟩ := h.sends_perm hhold
    obtain ⟨requests', hperm, hsublist'⟩ := List.exists_perm_sublist hsublist hall
    exact ⟨requests', hsends.trans hperm.symm, hsublist'⟩

/-! ## No false success -/

/-- An onboarding that is refused asks nothing.  Any other is provisioned by six requests, which apply
the namespace, its name that of the service and the suffix, three times and three Helm charts in it.
In rounds it succeeds if these are all sent and accepted, and else fails for the first that is not,
behind which none is sent.  The rounds are an interleaving of the submissions, and all of these are
sound. -/
theorem provision_sound (policy : Policy) (random : RandomSource) (o : Onboarding) :
    match Plan.make policy random o with
    | .error e => ∀ server history,
      let run := (provision policy random o).run server history
      run.result = .error e ∧ run.requests = []
    | .ok (p, cluster) =>
      let namespaceName := o.service ++ o.suffix
      let namespaceTarget := "/api/v1/namespaces/" ++ namespaceName ++
        "?&force=true&fieldManager=quartermaster"
      let chartTarget release := "/apis/helm.cattle.io/v1/namespaces/" ++ namespaceName ++
        "/helmcharts/" ++ release ++ "?&force=true&fieldManager=quartermaster"
      (p.applications.map fun x => (x.request.method, x.request.target.text, x.schema)) =
          [(.patch, namespaceTarget, Cluster.namespaceSchema),
            (.patch, namespaceTarget, Cluster.namespaceSchema),
            (.patch, namespaceTarget, Cluster.namespaceSchema),
            (.patch, chartTarget "redis", Cluster.helmChartSchema),
            (.patch, chartTarget "mongodb", Cluster.helmChartSchema),
            (.patch, chartTarget "rabbitmq", Cluster.helmChartSchema)] ∧
        (∀ x ∈ p.applications, x.request.contentType? = some "application/apply-patch+yaml") ∧
        (∀ server history,
          let run := (provision policy random o).run server history
          run.result = .ok p ∧ run.requests = p.applications.map Application.request ∧
              Accepted server history p.applications ∨
            ∃ before x after reason, p.applications = before ++ x :: after ∧
              Accepted server history before ∧
              (server (history ++ before.map Application.request) x.request).read x.schema =
                .error reason ∧
              run.requests = before.map Application.request ++ [x.request] ∧
              run.result = .error (if before.length < 3
                then .submission (.namespaceNotApplied namespaceName reason) else .api reason)) ∧
        (∀ server history,
          let run := (provision policy random o).run server history
          ∃ moves parts, Interleaving (p.parts cluster) moves parts ∧
            sends (moves.map Prod.snd) = run.requests ∧
              jointResult? parts = some (run.result.map fun _ => ())) ∧
        ∀ moves parts, Interleaving (p.parts cluster) moves parts →
          SoundInterleaving cluster p moves parts := by
  cases hmake : Plan.make policy random o with
  | error e => exact provision_run_refused hmake
  | ok made =>
    obtain ⟨p, cluster⟩ := made
    dsimp only
    refine ⟨?_, fun x hx => ?_, fun server history => ?_, provision_interleaving hmake,
      fun moves parts => soundInterleaving hmake⟩
    · obtain ⟨-, -, secret, -, rfl⟩ := Plan.make_ok_iff.mp hmake
      rw [← Cluster.mark_applyQuery]
      rfl
    · rcases List.mem_append.mp hx with hx | hx <;> obtain ⟨d, -, rfl⟩ := List.mem_map.mp hx <;> rfl
    · obtain ⟨hresult, hrequests⟩ := provision_run hmake server history
      rw [hresult, hrequests]
      rcases Dialogue.conversation_run server history p.applications with
        ⟨hok, hall, hasked⟩ | ⟨before, x, after, reason, hsplit, herror, hall, hread, hasked⟩
      · rw [hok]
        exact .inl ⟨rfl, hasked, hall⟩
      · have hx : p.applications[before.length]? = some x := by simp [hsplit]
        refine .inr ⟨before, x, after, reason, hsplit, hall, hread, hasked, ?_⟩
        rw [herror, Plan.failure_of_applications hmake hx]
        rfl

end BackingServices
