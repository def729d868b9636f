import BackingServices.CommandLine.Run
import BackingServices.Proofs.Acceptance
import BackingServices.Proofs.Preflight
import BackingServices.Proofs.Provisioning

/-!
# Runs of the program

The stages of a run follow each other, and the first that fails ends it.  What a run needs before it
submits anything is `Admitted`: a configuration, a cluster, the preflight unless it is not asked for,
and a plan.

So the program reads before it writes, and writes only what is planned and only if it is admitted
(`program_in_order`).  A dry run asks nothing, and prints manifests where any other run prints nothing.
-/

namespace BackingServices.CommandLine

open Cluster (Dialogue Environment Handle Interleaving Server sends)
open Cluster.Dialogue (Accepted Application AsksOnly conversation conversation_ok_iff outcome_bind
  outcome_bind_silent outcome_log outcome_within)

variable {a : Arguments} {env : Environment} {random : RandomSource} {server : Server}
  {history : List Cluster.Request} {c : Config} {cluster : Handle} {p : Plan}

/-! ## The preflight -/

/-- What the preflight of a run asks, at the beginning of the run. -/
def preflightRequests (a : Arguments) (server : Server) : List Cluster.Request :=
  ((preflight a).run server []).requests

theorem preflight_skipped (h : a.dryRun = true ∨ a.skipPreflight = true) :
    preflight a = .done (.ok ()) := by
  rw [preflight, if_pos]
  rcases h with h | h <;> simp [h]

theorem preflightRequests_skipped (h : a.dryRun = true ∨ a.skipPreflight = true) (server : Server) :
    preflightRequests a server = [] := by
  rw [preflightRequests, preflight_skipped h]
  rfl

theorem preflightRequests_get (a : Arguments) (server : Server) :
    ∀ r ∈ preflightRequests a server, r.method = .get := by
  have hget : AsksOnly (·.method = .get) (preflight a) := by
    rw [preflight]
    split
    · exact .done _
    · exact Preflight.asksOnly_ensure.imp fun _ hr => hr.1
  exact hget.mem_requests server []

/-- What a run needs of the preflight. -/
def Checked (a : Arguments) (server : Server) : Prop :=
  a.dryRun = true ∨ a.skipPreflight = true ∨ (Preflight.ensure.run server []).result = .ok ()

theorem preflight_ok_iff :
    ((preflight a).run server []).result = .ok () ↔ Checked a server := by
  by_cases hskip : a.dryRun = true ∨ a.skipPreflight = true
  · rw [preflight_skipped hskip, Checked, ← or_assoc]
    exact ⟨fun _ => .inl hskip, fun _ => rfl⟩
  · have hensure : preflight a = Preflight.ensure := by
      rw [preflight, if_neg]
      simpa using hskip
    rw [hensure, Checked, ← or_assoc, or_iff_right hskip]

/-! ## Dry runs -/

/-- A stream without a limit takes all deployments that do not ask to wait. -/
theorem submitAll_unlimited {s : Stream} (hbroken : s.broken = false) {ds : List Deployment}
    (hwait : ∀ d ∈ ds, d.blockUntilReady = false) :
    (Stream.installer .unlimited).submitAll s cluster ds =
      (ds.foldl (fun s d => (s.submit .unlimited d).1) s, .ok ()) := by
  induction ds generalizing s with
  | nil => rfl
  | cons d ds ih =>
    obtain ⟨hd, hds⟩ := List.forall_mem_cons.mp hwait
    have hsubmit := Stream.submit_ready hbroken hd
    have hrest := ih (Stream.submit_broken hbroken d) hds
    rw [Installer.submitAll, List.foldl_cons, ← hrest, Stream.installer, hsubmit]

/-- To plan asks nothing. -/
theorem outcome_plan {policy : Policy} {o : Onboarding} {made : Except ProvisionError (Plan × Handle)}
    (h : Plan.make policy random o = made) :
    (plan policy random o).outcome server history = (made, []) := by
  rw [plan, h]
  cases made with
  | error e => rfl
  | ok made => rfl

theorem outcome_dryRun_refused {e : ProvisionError}
    (h : Plan.make c.policy random (onboarding a c cluster) = .error e) :
    (dryRun a c random cluster).outcome server history =
      (.failure "" (provisionChain a.service e), []) := by
  have hprovision : ((Stream.installer .unlimited).provision c.policy random (onboarding a c cluster)
      .empty).outcome server history = ((.empty, .error (.failure e)), []) := by
    rw [Installer.provision, outcome_within, outcome_bind_silent (outcome_plan h)]
    rfl
  rw [dryRun, outcome_bind_silent hprovision]
  rfl

/-- A dry run prints what the stream holds after all deployments. -/
theorem outcome_dryRun_made (h : Plan.make c.policy random (onboarding a c cluster) = .ok (p, cluster)) :
    (dryRun a c random cluster).outcome server history =
      (.success (Text.decode (Stream.after p.deployments).held), []) := by
  have hsubmit : (Stream.installer .unlimited).submitAll .empty cluster p.deployments =
      (Stream.after p.deployments, .ok ()) := submitAll_unlimited rfl (Plan.consistent h).wait
  have hprovision : ((Stream.installer .unlimited).provision c.policy random (onboarding a c cluster)
      .empty).outcome server history = ((Stream.after p.deployments, .ok p), []) := by
    rw [Installer.provision, outcome_within, outcome_bind_silent (outcome_plan h)]
    simp only [hsubmit]
    rfl
  rw [dryRun, outcome_bind_silent hprovision]
  rfl

/-! ## Runs that apply -/

theorem outcome_apply_refused {e : ProvisionError}
    (h : Plan.make c.policy random (onboarding a c cluster) = .error e) :
    (CommandLine.apply a c random cluster).outcome server history =
      (.failure "" (provisionChain a.service e), []) := by
  rw [CommandLine.apply, provision_refused h]
  rfl

/-- What is applied is applied of the plan, and all goes well if and only if all is accepted. -/
theorem outcome_apply_made (h : Plan.make c.policy random (onboarding a c cluster) = .ok (p, cluster))
    (server : Server) (history : List Cluster.Request) :
    ∃ ending sent, (CommandLine.apply a c random cluster).outcome server history = (ending, sent) ∧
      ending.stdout = "" ∧ (∀ r ∈ sent, r ∈ p.applications.map Application.request) ∧
        (ending.exit = 0 ↔ Accepted server history p.applications) := by
  obtain ⟨hresult, hrequests⟩ := provision_run h server history
  have hsent := (AsksOnly.conversation p.applications).mem_requests server history
  have hok := conversation_ok_iff server history p.applications
  cases hr : ((conversation p.applications).run server history).result with
  | ok _ =>
    rw [hr] at hresult hok
    refine ⟨.success "", _, ?_, rfl, hsent, fun _ => hok.mp rfl, fun _ => rfl⟩
    rw [CommandLine.apply, outcome_bind (Prod.ext hresult hrequests)]
    exact congrArg _ (List.append_nil _)
  | error e =>
    rw [hr] at hresult hok
    refine ⟨.failure "" (provisionChain a.service e), _, ?_, rfl, hsent, ?_⟩
    · rw [CommandLine.apply, outcome_bind (Prod.ext hresult hrequests)]
      exact congrArg _ (List.append_nil _)
    · rw [← hok]
      exact ⟨nofun, nofun⟩

/-! ## Admitted runs -/

/-- What a run has come to when it goes on to submit a plan to a cluster. -/
structure Admitted (a : Arguments) (env : Environment) (random : RandomSource) (server : Server)
    (c : Config) (cluster : Handle) (p : Plan) : Prop where
  configured : Config.ofLookup env.lookup = .ok c
  connected : ∃ connection,
    ((Cluster.connect env c.context?).run server []).result = .ok ⟨connection, cluster⟩
  checked : Checked a server
  planned : Plan.make c.policy random (onboarding a c cluster) = .ok (p, cluster)

/-- What comes of a run with a configuration and a cluster is what is done with the cluster. -/
theorem outcome_execute {connection : Cluster.Connection} (hconfig : Config.ofLookup env.lookup = .ok c)
    (hconnect : ((Cluster.connect env c.context?).run server []).result = .ok ⟨connection, cluster⟩) :
    (execute a env random).outcome server [] = (withCluster a c random cluster).outcome server [] := by
  have houtcome := (Cluster.asksOnly_connect env c.context?).outcome_silent server []
  rw [hconnect] at houtcome
  rw [execute, hconfig]
  simp only [withConfig]
  rw [outcome_log, outcome_bind_silent houtcome]
  exact Dialogue.outcome_logTraffic _ _

theorem outcome_unchecked {e : ProvisionError}
    (h : ((preflight a).run server []).result = .error e) :
    (withCluster a c random cluster).outcome server [] =
      (.failure "" e.chain, preflightRequests a server) := by
  rw [withCluster, outcome_bind (Prod.ext h rfl)]
  exact congrArg _ (List.append_nil _)

theorem outcome_checked (h : Checked a server) :
    (withCluster a c random cluster).outcome server [] =
      ((if a.dryRun then dryRun a c random cluster
        else CommandLine.apply a c random cluster).outcome server (preflightRequests a server)).map id
          (preflightRequests a server ++ ·) := by
  rw [withCluster, outcome_bind (Prod.ext (preflight_ok_iff.mpr h) rfl)]
  rfl

/-- A run that is admitted sends what it applies behind what the preflight asks. -/
theorem Admitted.outcome (h : Admitted a env random server c cluster p) :
    ∃ ending sent,
      (execute a env random).outcome server [] = (ending, preflightRequests a server ++ sent) ∧
        (a.dryRun = true → sent = [] ∧
          ending = .success (Text.decode (Stream.after p.deployments).held)) ∧
        (a.dryRun = false → ending.stdout = "" ∧
          (∀ r ∈ sent, r ∈ p.applications.map Application.request) ∧
            (ending.exit = 0 ↔ Accepted server (preflightRequests a server) p.applications)) := by
  obtain ⟨connection, hconnect⟩ := h.connected
  rw [outcome_execute h.configured hconnect, outcome_checked h.checked]
  cases hdry : a.dryRun with
  | true =>
    rw [if_pos rfl, outcome_dryRun_made h.planned]
    exact ⟨_, [], rfl, fun _ => ⟨rfl, rfl⟩, nofun⟩
  | false =>
    obtain ⟨ending, sent, houtcome, hrest⟩ :=
      outcome_apply_made h.planned server (preflightRequests a server)
    rw [if_neg Bool.false_ne_true, houtcome]
    exact ⟨ending, sent, rfl, nofun, fun _ => hrest⟩

/-! ## Runs that are not admitted -/

theorem outcome_unconnected {e : ProvisionError} (hconfig : Config.ofLookup env.lookup = .ok c)
    (h : ((Cluster.connect env c.context?).run server []).result = .error e) :
    (execute a env random).outcome server [] =
      (.failure "" ("Failed to connect to cluster" :: e.chain), []) := by
  have hsilent := (Cluster.asksOnly_connect env c.context?).outcome_silent server []
  rw [h] at hsilent
  rw [execute, hconfig]
  simp only [withConfig]
  rw [outcome_log, outcome_bind_silent hsilent]
  rfl

theorem outcome_unplanned {e : ProvisionError} (hchecked : Checked a server)
    (h : Plan.make c.policy random (onboarding a c cluster) = .error e) :
    (withCluster a c random cluster).outcome server [] =
      (.failure "" (provisionChain a.service e), preflightRequests a server) := by
  rw [outcome_checked hchecked]
  cases a.dryRun with
  | true =>
    rw [if_pos rfl, outcome_dryRun_refused h]
    exact congrArg _ (List.append_nil _)
  | false =>
    rw [if_neg Bool.false_ne_true, outcome_apply_refused h]
    exact congrArg _ (List.append_nil _)

/-- A run that is not admitted fails, and asks at most what the preflight asks. -/
theorem outcome_of_not_admitted (h : ¬ ∃ c cluster p, Admitted a env random server c cluster p) :
    ∃ chain requests, (execute a env random).outcome server [] = (.failure "" chain, requests) ∧
      (requests = [] ∨ requests = preflightRequests a server) := by
  cases hconfig : Config.ofLookup env.lookup with
  | error e =>
    rw [execute, hconfig]
    exact ⟨e.chain, [], rfl, .inl rfl⟩
  | ok c =>
    cases hconnect : ((Cluster.connect env c.context?).run server []).result with
    | error e => exact ⟨_, [], outcome_unconnected hconfig hconnect, .inl rfl⟩
    | ok connected =>
      obtain ⟨connection, cluster⟩ := connected
      rw [outcome_execute hconfig hconnect]
      cases hpreflight : ((preflight a).run server []).result with
      | error e => exact ⟨_, _, outcome_unchecked hpreflight, .inr rfl⟩
      | ok _ =>
        have hchecked := preflight_ok_iff.mp hpreflight
        cases hmake : Plan.make c.policy random (onboarding a c cluster) with
        | error e => exact ⟨_, _, outcome_unplanned hchecked hmake, .inr rfl⟩
        | ok made =>
          obtain ⟨p, cluster'⟩ := made
          have hcluster : some cluster = some cluster' := (Plan.consistent hmake).cluster
          rw [← Option.some.inj hcluster] at hmake
          exact absurd ⟨c, cluster, p, hconfig, ⟨connection, hconnect⟩, hchecked, hmake⟩ h

/-! ## Order -/

/-- What is applied of a plan is written. -/
theorem method_of_applications (p : Plan) :
    ∀ r ∈ p.applications.map Application.request, r.method = .patch := by
  intro r hr
  obtain ⟨x, hx, rfl⟩ := List.mem_map.mp hr
  rcases List.mem_append.mp hx with hx | hx <;> obtain ⟨d, -, rfl⟩ := List.mem_map.mp hx <;> rfl

/-- A run may send a request: it is no dry run, it is admitted, and the request is of its plan. -/
structure Permitted (a : Arguments) (env : Environment) (random : RandomSource) (server : Server)
    (r : Cluster.Request) : Prop where
  applies : a.dryRun = false
  checked : a.skipPreflight = true ∨ (Preflight.ensure.run server []).result = .ok ()
  planned : ∃ c cluster p, Admitted a env random server c cluster p ∧
    r ∈ p.applications.map Application.request

theorem Admitted.permitted (h : Admitted a env random server c cluster p) (hdryRun : a.dryRun = false)
    {r : Cluster.Request} (hr : r ∈ p.applications.map Application.request) :
    Permitted a env random server r := by
  refine ⟨hdryRun, ?_, c, cluster, p, h, hr⟩
  rcases h.checked with hdry | hchecked
  · rw [hdryRun] at hdry
    contradiction
  · exact hchecked

theorem Permitted.method {r : Cluster.Request} (h : Permitted a env random server r) :
    r.method = .patch := by
  obtain ⟨c, cluster, p, -, hr⟩ := h.planned
  exact method_of_applications p r hr

/-- A run sends at most what the preflight asks, and then what it is permitted to send. -/
theorem execute_requests (a : Arguments) (env : Environment) (random : RandomSource)
    (server : Server) :
    ∃ gets patches, ((execute a env random).run server []).requests = gets ++ patches ∧
      (gets = [] ∨ gets = preflightRequests a server) ∧
        ∀ r ∈ patches, Permitted a env random server r := by
  by_cases h : ∃ c cluster p, Admitted a env random server c cluster p
  · obtain ⟨c, cluster, p, hadmitted⟩ := h
    obtain ⟨ending, sent, houtcome, hdry, hwet⟩ := hadmitted.outcome
    refine ⟨_, sent, congrArg Prod.snd houtcome, .inr rfl, fun r hr => ?_⟩
    cases hdryRun : a.dryRun with
    | true =>
      rw [(hdry hdryRun).1] at hr
      contradiction
    | false => exact hadmitted.permitted hdryRun ((hwet hdryRun).2.1 r hr)
  · obtain ⟨chain, requests, houtcome, hrequests⟩ := outcome_of_not_admitted h
    refine ⟨requests, [], ?_, hrequests, fun _ hr => nomatch hr⟩
    rw [List.append_nil]
    exact congrArg Prod.snd houtcome

/-- A run reads before it writes. -/
theorem execute_in_order (a : Arguments) (env : Environment) (random : RandomSource)
    (server : Server) :
    ∃ gets patches, ((execute a env random).run server []).requests = gets ++ patches ∧
      (∀ r ∈ gets, r.method = .get) ∧ (a.dryRun = true ∨ a.skipPreflight = true → gets = []) ∧
        ∀ r ∈ patches, Permitted a env random server r := by
  obtain ⟨gets, patches, hrequests, rfl | rfl, hpatches⟩ := execute_requests a env random server
  · exact ⟨[], patches, hrequests, fun _ hr => (nomatch hr), fun _ => rfl, hpatches⟩
  · exact ⟨_, patches, hrequests, preflightRequests_get a server,
      fun hskip => preflightRequests_skipped hskip server, hpatches⟩

section

variable {r : Cluster.Request}

theorem requests_of_dryRun (h : a.dryRun = true) :
    ((execute a env random).run server []).requests = [] := by
  obtain ⟨gets, patches, hrequests, -, hskipped, hpatches⟩ := execute_in_order a env random server
  rw [hrequests, hskipped (.inl h), List.nil_append, List.eq_nil_iff_forall_not_mem]
  intro r hr
  exact Bool.false_ne_true ((hpatches r hr).applies.symm.trans h)

theorem method_of_skipPreflight (h : a.skipPreflight = true)
    (hr : r ∈ ((execute a env random).run server []).requests) : r.method ≠ .get := by
  obtain ⟨gets, patches, hrequests, -, hskipped, hpatches⟩ := execute_in_order a env random server
  rw [hrequests, hskipped (.inr h), List.nil_append] at hr
  rw [(hpatches r hr).method]
  exact nofun

theorem permitted_of_method (hr : r ∈ ((execute a env random).run server []).requests)
    (hpatch : r.method = .patch) : Permitted a env random server r := by
  obtain ⟨gets, patches, hrequests, hget, -, hpatches⟩ := execute_in_order a env random server
  rw [hrequests] at hr
  rcases List.mem_append.mp hr with hr | hr
  · rw [hget r hr] at hpatch
    contradiction
  · exact hpatches r hr

/-- In whatever order the submissions take their turns, they only write what is of the plan. -/
theorem Admitted.mem_of_interleaving (h : Admitted a env random server c cluster p)
    {moves : List (Nat × Cluster.Move)} {parts : List (Cluster.Part ProvisionError)}
    (hmoves : Interleaving (p.parts cluster) moves parts) (hr : r ∈ sends (moves.map Prod.snd)) :
    r ∈ p.applications.map Application.request := by
  obtain ⟨sent, hperm, hsublist⟩ := (soundInterleaving h.planned hmoves).once
  exact hsublist.subset (hperm.mem_iff.mp hr)

end

/-! ## Endings -/

theorem Admitted.stdout (h : Admitted a env random server c cluster p) :
    ((execute a env random).run server []).result.stdout =
      if a.dryRun then Text.decode (Stream.after p.deployments).held else "" := by
  obtain ⟨ending, sent, houtcome, hdry, hwet⟩ := h.outcome
  have hending : ((execute a env random).run server []).result = ending := congrArg Prod.fst houtcome
  rw [hending]
  cases hdryRun : a.dryRun with
  | true =>
    rw [(hdry hdryRun).2]
    rfl
  | false => exact (hwet hdryRun).1

theorem Admitted.exit_iff (h : Admitted a env random server c cluster p) :
    ((execute a env random).run server []).result.exit = 0 ↔
      a.dryRun = true ∨ Accepted server (preflightRequests a server) p.applications := by
  obtain ⟨ending, sent, houtcome, hdry, hwet⟩ := h.outcome
  have hending : ((execute a env random).run server []).result = ending := congrArg Prod.fst houtcome
  rw [hending]
  cases hdryRun : a.dryRun with
  | true =>
    rw [(hdry hdryRun).2]
    exact ⟨fun _ => .inl rfl, fun _ => rfl⟩
  | false =>
    rw [(hwet hdryRun).2.2]
    exact ⟨.inr, fun hor => hor.resolve_left Bool.false_ne_true⟩

/-- A run succeeds if and only if it is admitted and, unless it is a dry run, all of the plan is
accepted.  It prints nothing if it is no dry run. -/
theorem execute_ending (a : Arguments) (env : Environment) (random : RandomSource) (server : Server) :
    let ending := ((execute a env random).run server []).result
    (a.dryRun = false → ending.stdout = "") ∧
      (ending.exit = 0 ↔ ∃ c cluster p, Admitted a env random server c cluster p ∧
        (a.dryRun = true ∨ Accepted server (preflightRequests a server) p.applications)) := by
  intro ending
  by_cases h : ∃ c cluster p, Admitted a env random server c cluster p
  · obtain ⟨c, cluster, p, hadmitted⟩ := h
    refine ⟨fun hdryRun => ?_, fun hexit => ?_, fun ⟨_, _, _, hadmitted', hall⟩ => ?_⟩
    · rw [hadmitted.stdout, hdryRun, if_neg Bool.false_ne_true]
    · exact ⟨c, cluster, p, hadmitted, hadmitted.exit_iff.mp hexit⟩
    · exact hadmitted'.exit_iff.mpr hall
  · obtain ⟨chain, requests, houtcome, -⟩ := outcome_of_not_admitted h
    have hending : ending = .failure "" chain := congrArg Prod.fst houtcome
    rw [hending]
    exact ⟨fun _ => rfl, nofun, fun ⟨c, cluster, p, hadmitted, _⟩ => absurd ⟨c, cluster, p, hadmitted⟩ h⟩

/-! ## The program -/

/-- What the program does is done in order and only if it is permitted.  A dry run asks nothing, and a
run that skips the preflight reads nothing.  What is read is read before anything is written.  What is
written is of the plan of an admitted run, in whatever order the submissions take their turns.  Only dry
runs print manifests.  A run succeeds if and only if all stages that it has succeed. -/
theorem program_in_order (arguments : List String) (env : Environment) (random : RandomSource)
    (server : Server) :
    let requests := ((program arguments env random).run server []).requests
    let report := run arguments env random server
    match Request.ofArguments arguments with
    | .help => requests = [] ∧ report.exit = 0 ∧ report.stdout = helpText
    | .version => requests = [] ∧ report.exit = 0 ∧ report.stdout = versionText
    | .refused _ _ => requests = [] ∧ report.exit = 2 ∧ report.stdout = ""
    | .run a =>
      (a.dryRun = true → requests = []) ∧
      (a.skipPreflight = true → ∀ r ∈ requests, r.method ≠ .get) ∧
      (∃ gets patches, requests = gets ++ patches ∧ (∀ r ∈ gets, r.method = .get) ∧
        ∀ r ∈ patches, r.method = .patch) ∧
      (∀ r ∈ requests, r.method = .patch → Permitted a env random server r) ∧
      (a.dryRun = false → report.stdout = "") ∧
      (report.exit = 0 ↔ ∃ c cluster p, Admitted a env random server c cluster p ∧
        (a.dryRun = true ∨ Accepted server (preflightRequests a server) p.applications)) ∧
      ∀ c cluster p, Admitted a env random server c cluster p →
        (a.dryRun = true → report.stdout = Text.decode (Stream.after p.deployments).held) ∧
          ∀ moves parts, Interleaving (p.parts cluster) moves parts →
            ∀ r ∈ sends (moves.map Prod.snd),
              r.method = .patch ∧ r ∈ p.applications.map Application.request := by
  intro requests report
  cases harguments : Request.ofArguments arguments with
  | help =>
    simp only [requests, report, run, program, harguments]
    exact ⟨rfl, rfl, rfl⟩
  | version =>
    simp only [requests, report, run, program, harguments]
    exact ⟨rfl, rfl, rfl⟩
  | refused e flags? =>
    simp only [requests, report, run, program, harguments]
    exact ⟨rfl, rfl, rfl⟩
  | run a =>
    have hprogram : program arguments env random = execute a env random := by
      rw [program, harguments]
    simp only [requests, report, run, Report.of, hprogram]
    obtain ⟨hstdout, hexit⟩ := execute_ending a env random server
    obtain ⟨gets, patches, hrequests, hget, -, hpatches⟩ := execute_in_order a env random server
    refine ⟨requests_of_dryRun, fun hskip r => method_of_skipPreflight hskip,
      ⟨gets, patches, hrequests, hget, fun r hr => (hpatches r hr).method⟩,
      fun r => permitted_of_method, hstdout, hexit, fun c cluster p hadmitted => ⟨fun hdryRun => ?_, ?_⟩⟩
    · rw [hadmitted.stdout, hdryRun, if_pos rfl]
    · intro moves parts hmoves r hr
      have hmem := hadmitted.mem_of_interleaving hmoves hr
      exact ⟨method_of_applications p r hmem, hmem⟩

end BackingServices.CommandLine
