import BackingServices.Config
import BackingServices.Proofs.Cluster.Likeness
import BackingServices.Proofs.Convergence
import BackingServices.Proofs.Secret

/-!
# The password of the broker does not leak

Two runs that differ in the password of the broker only, be it a fixed one or the secret of the
run, look alike from outside: the configuration is read alike, the diagnostic texts are equal, and
against a server that does not look at bodies the same is logged, the same comes of it, and the same
is asked but for the values in the broker's Helm chart (`password_does_not_leak`).  If the password
is fixed, the secret of the run is not to be seen at all, whatever the server does.
-/

namespace BackingServices

open Cluster (AlikeMoves Dialogue Handle Interleaving Move Request SameOutcome SameRun Server
  jointResult?)
open Cluster.Dialogue (Alike AlikeTask)

/-! ## What is left without the password -/

/-- The credentials without the password. -/
def BrokerCredentials.redacted : BrokerCredentials → BrokerCredentials
  | .fixed username _ => .fixed username ""
  | .generated username => .generated username

/-- The policy without the password. -/
def Policy.redacted (p : Policy) : Policy :=
  { p with brokerCredentials := p.brokerCredentials.redacted }

/-- The configuration without the password. -/
def Config.redacted (c : Config) : Config := { c with policy := c.policy.redacted }

theorem BrokerCredentials.debug_redacted (c : BrokerCredentials) : c.redacted.debug = c.debug := by
  cases c <;> rfl

theorem Policy.debug_redacted (p : Policy) : p.redacted.debug = p.debug := by
  simp only [debug, redacted, BrokerCredentials.debug_redacted]

theorem Config.debug_redacted (c : Config) : c.redacted.debug = c.debug := by
  simp only [debug, redacted, Policy.debug_redacted]

/-! ## Configurations -/

namespace Config

/-- Two settings of the variables that differ in the password only. -/
structure SameButPassword (lookup changed : Lookup) : Prop where
  others : ∀ name, name ≠ "RABBITMQ_PASSWORD" → lookup name = changed name
  isSet : (lookup "RABBITMQ_PASSWORD").isSome = (changed "RABBITMQ_PASSWORD").isSome

namespace SameButPassword

variable {lookup changed : Lookup}

theorem valueOr (h : SameButPassword lookup changed) (name default : String)
    (hname : name ≠ "RABBITMQ_PASSWORD") :
    Config.valueOr lookup name default = Config.valueOr changed name default := by
  rw [Config.valueOr, Config.valueOr, h.others name hname]

theorem readCredentials (h : SameButPassword lookup changed) :
    SameOutcome (fun c c' => c.redacted = c'.redacted) (Config.readCredentials lookup)
      (Config.readCredentials changed) := by
  have hflag : readFlag lookup = readFlag changed := by
    rw [readFlag, readFlag, h.valueOr _ _ (by decide)]
  have huser := h.valueOr "RABBITMQ_USERNAME" "beckn" (by decide)
  rw [Config.readCredentials, Config.readCredentials, hflag, huser, h.isSet]
  cases readFlag changed with
  | error e => exact .error e
  | ok generated =>
    cases generated with
    | false => exact .ok rfl
    | true =>
      cases (changed "RABBITMQ_PASSWORD").isSome with
      | true => exact .error _
      | false => exact .ok rfl

theorem ofLookup (h : SameButPassword lookup changed) :
    SameOutcome (fun c c' => c.redacted = c'.redacted) (Config.ofLookup lookup)
      (Config.ofLookup changed) := by
  have hsuffix : readSuffix lookup = readSuffix changed := by
    rw [readSuffix, readSuffix, h.others _ (by decide)]
  have hregistry : readRegistry lookup = readRegistry changed := by
    rw [readRegistry, readRegistry, h.valueOr _ _ (by decide)]
  have hlength : readLength lookup = readLength changed := by
    rw [readLength, readLength, h.others _ (by decide)]
  have hcontext := h.others "KUBE_CONTEXT" (by decide)
  have hstorage (default : String) := h.valueOr "STORAGE_CLASS" default (by decide)
  have hcache (default : String) := h.valueOr "REDIS_CHART_VERSION" default (by decide)
  have hstore (default : String) := h.valueOr "MONGODB_CHART_VERSION" default (by decide)
  have hbroker (default : String) := h.valueOr "RABBITMQ_CHART_VERSION" default (by decide)
  have hcredentials := h.readCredentials
  -- the two readings differ in the credentials only; the first part that cannot be read ends both
  rw [Config.ofLookup, Config.ofLookup, hsuffix, hregistry, hlength]
  simp only [hcontext, hstorage, hcache, hstore, hbroker]
  cases readSuffix changed with
  | error e => exact .error e
  | ok suffix =>
    cases readRegistry changed with
    | error e => exact .error e
    | ok root =>
      generalize Config.readCredentials lookup = credentials at hcredentials
      generalize Config.readCredentials changed = credentials' at hcredentials
      cases hcredentials with
      | error e => exact .error e
      | ok hredacted =>
        cases readLength changed with
        | error e => exact .error e
        | ok length =>
          refine .ok ?_
          simp only [Config.redacted, Policy.redacted, hredacted]

end SameButPassword

end Config

/-! ## Secrets and plans -/

/-- Two sources of random bytes differ in the bytes only: they fail alike. -/
def RandomSource.Alike (random random' : RandomSource) : Prop :=
  ∀ count, SameOutcome (fun _ _ => True) (random count) (random' count)

/-- Secrets of one length are generated alike, whatever the bytes. -/
theorem Secret.generate_alike (length : Nat) {random random' : RandomSource}
    (h : random.Alike random') :
    SameOutcome (fun s s' => s.length = s'.length) (generate length random)
      (generate length random') := by
  have hbytes := h (bytesFor length)
  rw [generate, generate]
  by_cases hlength : length = 0 ∨ maxSecretLength < length
  · rw [if_pos hlength, if_pos hlength]
    exact .error _
  · rw [if_neg hlength, if_neg hlength]
    generalize random (bytesFor length) = drawn at hbytes
    generalize random' (bytesFor length) = drawn' at hbytes
    cases hbytes with
    | error reason => exact .error _
    | ok _ =>
      refine .ok ?_
      simp only [ofBytes, Secret.length, List.length_take, length_hexText, Vector.length_toList]

theorem Secret.debug_eq {s s' : Secret} (h : s.length = s'.length) : s.debug = s'.debug := by
  rw [debug, debug, h]

namespace Plan

/-- Two plans differ in the values for the broker only, and in the secret, which has the same length. -/
structure SameButPassword (p p' : Plan) : Prop where
  namespaceName : p.namespaceName = p'.namespaceName
  cache : p.cache = p'.cache
  documentStore : p.documentStore = p'.documentStore
  broker : ∃ values, p'.broker = { p.broker with valueOverrides := values }
  secret : p.secret.length = p'.secret.length

variable {policy policy' : Policy}

theorem sameButPassword_of (h : policy.redacted = policy'.redacted) (name : String)
    {secret secret' : Secret} (hlength : secret.length = secret'.length) :
    SameButPassword (of policy name secret) (of policy' name secret') := by
  obtain ⟨root, storage, versions, credentials, length⟩ := policy
  obtain ⟨root', storage', versions', credentials', length'⟩ := policy'
  simp only [Policy.redacted, Policy.mk.injEq] at h
  obtain ⟨rfl, rfl, rfl, -, rfl⟩ := h
  exact ⟨rfl, rfl, rfl, ⟨_, rfl⟩, hlength⟩

theorem make_alike (h : policy.redacted = policy'.redacted) {random random' : RandomSource}
    (hrandom : random.Alike random') (o : Onboarding) :
    SameOutcome (fun x x' => SameButPassword x.1 x'.1 ∧ x.2 = x'.2) (make policy random o)
      (make policy' random' o) := by
  have hredacted : policy.redacted.secretLength = policy'.redacted.secretLength := by rw [h]
  have hsecretLength : policy.secretLength = policy'.secretLength := hredacted
  have hsecret := Secret.generate_alike policy.secretLength hrandom
  rw [make, make, ← hsecretLength]
  cases o.validate with
  | error e => exact .error e
  | ok cluster =>
    cases NamespaceName.validate o.namespaceName with
    | error e => exact .error e
    | ok _ =>
      generalize Secret.generate policy.secretLength random = generated at hsecret
      generalize Secret.generate policy.secretLength random' = generated' at hsecret
      cases hsecret with
      | error e => exact .error e
      | ok hlength => exact .ok ⟨sameButPassword_of h _ hlength, rfl⟩

end Plan

/-! ## Requests -/

/-- Two requests differ in their bodies only. -/
structure SameHead (r r' : Request) : Prop where
  method : r.method = r'.method
  target : r.target = r'.target
  contentType : r.contentType? = r'.contentType?

/-- Two requests are the same, or they apply Helm charts for one target that differ in their values
only. -/
inductive SameButValues (target : String) : Request → Request → Prop where
  | same (r : Request) : SameButValues target r r
  | values {t : Target} (ht : t.text = target) (chart : HelmChart) (content content' : String) :
      SameButValues target
        ⟨.patch, t, some Cluster.applyContentType, some (chart.withValues content).toJson⟩
        ⟨.patch, t, some Cluster.applyContentType, some (chart.withValues content').toJson⟩

/-- The requests of two runs for an onboarding: the same but for the values for its broker. -/
abbrev SameButBroker (o : Onboarding) : Request → Request → Prop :=
  SameButValues (brokerTarget (o.service ++ o.suffix))

theorem SameButValues.sameHead {target : String} {r r' : Request} (h : SameButValues target r r') :
    SameHead r r' := by
  cases h with
  | same => exact ⟨rfl, rfl, rfl⟩
  | values => exact ⟨rfl, rfl, rfl⟩

theorem Cluster.Server.Blind.mono {R R' : Request → Request → Prop} {server : Server}
    (h : server.Blind R) (hR : ∀ r r', R' r r' → R r r') : server.Blind R' :=
  fun history history' r r' hhistory hr =>
    h history history' r r' (hhistory.imp hR) (hR r r' hr)

theorem Cluster.Server.blind_eq (server : Server) : server.Blind Eq := by
  intro history history' r r' hhistory hr
  rw [List.forall₂_eq_eq_eq] at hhistory
  rw [hhistory, hr]

/-! ## Submissions -/

section Submissions

variable {d : Deployment} {target : String}

theorem applyChart_alike (hname : FitForPath d.targetNamespace) (hrelease : FitForPath d.releaseName)
    (htarget : d.chartRequest.target.text = target) (values : Json) :
    AlikeTask (SameButValues target) (applyChart d (HelmChart.installing d))
      (applyChart { d with valueOverrides := values }
        (HelmChart.installing { d with valueOverrides := values })) := by
  simp only [applyChart, Cluster.apply, applyRequest_chart hname hrelease]
  refine Alike.andThen (P := Eq) (Alike.mapError ?_ _) fun _ _ _ => .log _ (.done (.ok rfl))
  refine .ask [] ?_ fun a => .done (SameOutcome.refl _)
  exact .values htarget (HelmChart.installing d) _ _

theorem submit_alike (cluster : Handle) (hname : FitForPath d.targetNamespace)
    (hrelease : FitForPath d.releaseName) (htarget : d.chartRequest.target.text = target)
    (values : Json) :
    AlikeTask (SameButValues target) (submit cluster d)
      (submit cluster { d with valueOverrides := values }) := by
  rw [submit, submit, HelmChart.ofDeployment, HelmChart.ofDeployment]
  cases d.blockUntilReady with
  | true => exact .done (.error _)
  | false =>
    refine Alike.within (Alike.andThen (P := Eq) ?_ fun _ _ _ => ?_) (submissionSpan cluster d)
    · exact Alike.refl .same SameOutcome.refl _
    · exact applyChart_alike hname hrelease htarget values

end Submissions

/-! ## Provisioning -/

section Provisioning

variable {policy policy' : Policy} {random random' : RandomSource} {o : Onboarding}

/-- The submissions of plans that differ in the values for the broker look alike. -/
theorem submissions_alike {p p' : Plan} {cluster : Handle} (hp : p.SameButPassword p')
    (hmake : Plan.make policy random o = .ok (p, cluster)) :
    List.Forall₂ (AlikeTask (SameButBroker o)) (p.deployments.map (submit cluster))
      (p'.deployments.map (submit cluster)) := by
  obtain ⟨-, hname, secret, -, rfl⟩ := Plan.make_ok_iff.mp hmake
  obtain ⟨values, hbroker⟩ := hp.broker
  have hsame (d : Deployment) : AlikeTask (SameButBroker o) (submit cluster d) (submit cluster d) :=
    Alike.refl .same SameOutcome.refl _
  rw [Plan.deployments, Plan.deployments, ← hp.cache, ← hp.documentStore, hbroker]
  refine .cons (hsame _) (.cons (hsame _) (.cons ?_ .nil))
  exact submit_alike cluster (NamespaceName.fitForPath hname) (Service.fitForPath_chartName .broker)
    (Plan.text_broker policy _ secret) values

theorem carryOut_alike {R : Request → Request → Prop} {p p' : Plan} {cluster : Handle}
    (hp : p.SameButPassword p')
    (h : List.Forall₂ (AlikeTask R) (p.deployments.map (submit cluster))
      (p'.deployments.map (submit cluster))) {Q : Plan → Plan → Prop} (hQ : Q p p') :
    Alike R (SameOutcome Q) (carryOut p cluster) (carryOut p' cluster) := by
  obtain ⟨values, hbroker⟩ := hp.broker
  have hmade : p.made = p'.made := by rw [Plan.made, Plan.made, hp.secret]
  have hannouncement : p.announcement cluster = p'.announcement cluster := by
    rw [Plan.announcement, Plan.announcement, hp.namespaceName]
    rfl
  have hconfirmation : p.confirmation = p'.confirmation := by
    rw [Plan.confirmation, Plan.confirmation, Plan.releaseNames, Plan.releaseNames, Plan.deployments,
      Plan.deployments, hp.namespaceName, hp.cache, hp.documentStore, hbroker]
    rfl
  rw [carryOut, carryOut, hmade, hannouncement, hconfirmation]
  exact .log _ (.log _ ((Alike.rounds 2 h).andThen fun _ _ _ => .log _ (.done (.ok hQ))))

theorem provision_alike_of {R : Request → Request → Prop} {Q : Plan → Plan → Prop}
    (h : policy.redacted = policy'.redacted) (hrandom : random.Alike random') (o : Onboarding)
    (hsubmit : ∀ p p' cluster, Plan.make policy random o = .ok (p, cluster) →
      Plan.make policy' random' o = .ok (p', cluster) → p.SameButPassword p' →
        List.Forall₂ (AlikeTask R) (p.deployments.map (submit cluster))
          (p'.deployments.map (submit cluster)) ∧ Q p p') :
    Alike R (SameOutcome Q) (provision policy random o) (provision policy' random' o) := by
  have hmake := Plan.make_alike h hrandom o
  generalize hplan : Plan.make policy random o = made at hmake
  generalize hplan' : Plan.make policy' random' o = made' at hmake
  cases hmake with
  | error e =>
    rw [provision_refused hplan, provision_refused hplan']
    exact .done (.error e)
  | @ok x x' hx =>
    obtain ⟨p, cluster⟩ := x
    obtain ⟨p', cluster'⟩ := x'
    obtain ⟨hp, rfl⟩ : p.SameButPassword p' ∧ cluster = cluster' := hx
    obtain ⟨hsubmissions, hQ⟩ := hsubmit p p' cluster hplan hplan' hp
    rw [provision_made hplan, provision_made hplan']
    exact (carryOut_alike hp hsubmissions hQ).within _

/-- Provisioning under policies that differ in the password looks alike. -/
theorem provision_alike (h : policy.redacted = policy'.redacted) (hrandom : random.Alike random')
    (o : Onboarding) :
    Alike (SameButBroker o) (SameOutcome Plan.SameButPassword) (provision policy random o)
      (provision policy' random' o) :=
  provision_alike_of h hrandom o fun _ _ _ hmake _ hp => ⟨submissions_alike hp hmake, hp⟩

/-- Two plans are for the same deployments. -/
structure Plan.SameDeployments (p p' : Plan) : Prop where
  namespaceName : p.namespaceName = p'.namespaceName
  deployments : p.deployments = p'.deployments

/-- If the password is fixed, the deployments do not depend on the secret of the run. -/
theorem Plan.make_alike_fixed {user password : String}
    (h : policy.brokerCredentials = .fixed user password) (hrandom : random.Alike random')
    (o : Onboarding) :
    SameOutcome (fun x x' => x.1.SameDeployments x'.1 ∧ x.2 = x'.2) (make policy random o)
      (make policy random' o) := by
  refine (make_alike rfl hrandom o).imp fun x x' hmake hmake' hx => ⟨?_, hx.2⟩
  obtain ⟨-, -, secret, -, hp⟩ := make_ok_iff.mp hmake
  obtain ⟨-, -, secret', -, hp'⟩ := make_ok_iff.mp hmake'
  rw [hp, hp']
  exact ⟨rfl, deployments_of_fixed policy _ secret secret' h⟩

/-- Nor does anything else that is seen. -/
theorem provision_alike_fixed {user password : String}
    (h : policy.brokerCredentials = .fixed user password) (hrandom : random.Alike random')
    (o : Onboarding) :
    Alike Eq (SameOutcome Plan.SameDeployments) (provision policy random o)
      (provision policy random' o) := by
  refine provision_alike_of rfl hrandom o fun p p' cluster hmake hmake' _ => ?_
  have hplans := Plan.make_alike_fixed h hrandom o
  rw [hmake, hmake'] at hplans
  cases hplans with
  | ok hp =>
    refine ⟨?_, hp.1⟩
    rw [← hp.1.deployments]
    exact List.forall₂_same.mpr fun d _ => Alike.refl (fun _ => rfl) SameOutcome.refl d

/-- Side by side, the submissions of plans that differ in the values for the broker can make the same
moves up to these values. -/
theorem interleaving_alike {p p' : Plan} {cluster : Handle} (hp : p.SameButPassword p')
    (hmake : Plan.make policy random o = .ok (p, cluster)) {moves : List (Nat × Move)}
    {parts : List (Cluster.Part ProvisionError)} (h : Interleaving (p.parts cluster) moves parts) :
    ∃ moves' parts', Interleaving (p'.parts cluster) moves' parts' ∧
      AlikeMoves (SameButBroker o) moves moves' ∧ jointResult? parts = jointResult? parts' := by
  have hparts : List.Forall₂ (Cluster.Part.Alike (SameButBroker o)) (p.parts cluster)
      (p'.parts cluster) := by
    rw [Plan.parts, Plan.parts, List.forall₂_map_left_iff, List.forall₂_map_right_iff]
    exact (submissions_alike hp hmake).imp fun _ _ hd => hd.part
  obtain ⟨moves', parts', hrun, hmoves, hparts'⟩ := Interleaving.counterpart hparts h
  exact ⟨moves', parts', hrun, hmoves, Cluster.jointResult?_of_alike hparts'⟩

end Provisioning

/-! ## What is seen of two configurations -/

/-- Two configurations look alike when an onboarding is provisioned under them with some secrets. -/
structure Config.LookAlike (c c' : Config) (random random' : RandomSource) (o : Onboarding) : Prop where
  /-- They show themselves alike for diagnostics. -/
  debug : ∀ pretty, c.debug.render pretty = c'.debug.render pretty
  policyDebug : ∀ pretty, c.policy.debug.render pretty = c'.policy.debug.render pretty
  credentialsDebug : ∀ pretty, c.policy.brokerCredentials.debug.render pretty =
    c'.policy.brokerCredentials.debug.render pretty
  /-- So do the secrets. -/
  secretDebug : SameOutcome (fun s s' => ∀ pretty, s.debug.render pretty = s'.debug.render pretty)
    (Secret.generate c.policy.secretLength random) (Secret.generate c'.policy.secretLength random')
  /-- Against a server that does not look at bodies the same is logged, the same comes of it, and the
  same is asked but for the values in the broker's Helm chart. -/
  run : ∀ server history, Server.Blind SameHead server →
    SameRun (SameButBroker o) (SameOutcome Plan.SameButPassword)
      ((provision c.policy random o).run server history)
      ((provision c'.policy random' o).run server history)
  /-- Side by side, the submissions can make the same moves. -/
  interleaving : ∀ p p' cluster cluster', Plan.make c.policy random o = .ok (p, cluster) →
    Plan.make c'.policy random' o = .ok (p', cluster') →
      ∀ moves parts, Interleaving (p.parts cluster) moves parts →
        ∃ moves' parts', Interleaving (p'.parts cluster') moves' parts' ∧
          AlikeMoves (SameButBroker o) moves moves' ∧ jointResult? parts = jointResult? parts'

theorem Config.lookAlike {c c' : Config} (h : c.redacted = c'.redacted)
    {random random' : RandomSource} (hrandom : random.Alike random') (o : Onboarding) :
    LookAlike c c' random random' o := by
  have hpolicy : c.policy.redacted = c'.policy.redacted := congrArg Config.policy h
  have hcredentials : c.policy.brokerCredentials.redacted = c'.policy.brokerCredentials.redacted :=
    congrArg Policy.brokerCredentials hpolicy
  have hlength : c.policy.redacted.secretLength = c'.policy.redacted.secretLength := by rw [hpolicy]
  have hlength : c.policy.secretLength = c'.policy.secretLength := hlength
  refine {
    debug := fun pretty => ?_
    policyDebug := fun pretty => ?_
    credentialsDebug := fun pretty => ?_
    secretDebug := ?_
    run := fun server history hblind => ?_
    interleaving := fun p p' cluster cluster' hmake hmake' moves parts hrun => ?_ }
  · rw [← debug_redacted c, h, debug_redacted]
  · rw [← c.policy.debug_redacted, hpolicy, Policy.debug_redacted]
  · rw [← BrokerCredentials.debug_redacted, hcredentials, BrokerCredentials.debug_redacted]
  · rw [← hlength]
    refine (Secret.generate_alike _ hrandom).imp fun s s' _ _ hs pretty => ?_
    rw [Secret.debug_eq hs]
  · refine (provision_alike hpolicy hrandom o).run
      (hblind.mono fun _ _ => SameButValues.sameHead) ?_
    exact List.forall₂_same.mpr fun r _ => .same r
  · have hplans := Plan.make_alike hpolicy hrandom o
    rw [hmake, hmake'] at hplans
    cases hplans with
    | ok hp =>
      obtain ⟨hp, rfl⟩ : p.SameButPassword p' ∧ cluster = cluster' := hp
      exact interleaving_alike hp hmake hrun

/-- Two settings that differ in the password only give the same failure, or two configurations that look
alike, whatever bytes the secrets of the runs are made of.  Under a fixed password these bytes have no
influence on anything, whatever the server does. -/
theorem password_does_not_leak {lookup changed : Config.Lookup}
    (h : Config.SameButPassword lookup changed) {random random' : RandomSource}
    (hrandom : random.Alike random') (o : Onboarding) :
    SameOutcome (fun c c' => Config.LookAlike c c' random random' o) (Config.ofLookup lookup)
        (Config.ofLookup changed) ∧
      ∀ (policy : Policy) user password, policy.brokerCredentials = .fixed user password →
        SameOutcome (fun x x' => x.1.SameDeployments x'.1 ∧ x.2 = x'.2) (Plan.make policy random o)
          (Plan.make policy random' o) ∧
        ∀ server history, SameRun Eq (SameOutcome Plan.SameDeployments)
          ((provision policy random o).run server history)
          ((provision policy random' o).run server history) := by
  refine ⟨h.ofLookup.imp fun c c' _ _ hc => Config.lookAlike hc hrandom o, ?_⟩
  intro policy user password hfixed
  refine ⟨Plan.make_alike_fixed hfixed hrandom o, fun server history => ?_⟩
  refine (provision_alike_fixed hfixed hrandom o).run server.blind_eq ?_
  exact List.forall₂_same.mpr fun r _ => rfl

/-- Two passwords, and any two sources that give all bytes they are asked for, against a server that
answers each request with the path it is for. -/
theorem password_does_not_leak_two :
    let lookup (password : String) : Config.Lookup := fun name =>
      if name = "RABBITMQ_PASSWORD" then some password
      else if name = "NAMESPACE_SUFFIX" then some "-prod" else none
    let config (password : String) : Config :=
      ⟨"-prod", none, { Policy.standard with brokerCredentials := .fixed "beckn" password }⟩
    let server : Server := fun _ r => .response 200 (Text.encode r.target.path)
    Config.SameButPassword (lookup "first") (lookup "second") ∧
      Config.ofLookup (lookup "first") = .ok (config "first") ∧
        Config.ofLookup (lookup "second") = .ok (config "second") ∧
          server.Blind SameHead ∧ ∀ (bytes bytes' : (count : Nat) → Vector UInt8 count) o,
            let random : RandomSource := fun count => .ok (bytes count)
            let random' : RandomSource := fun count => .ok (bytes' count)
            random.Alike random' ∧ SameRun (SameButBroker o)
              (SameOutcome Plan.SameButPassword)
              ((provision (config "first").policy random o).run server [])
              ((provision (config "second").policy random' o).run server []) := by
  intro lookup config server
  have hlookups : Config.SameButPassword (lookup "first") (lookup "second") := by
    refine ⟨fun name hname => ?_, rfl⟩
    simp only [lookup, if_neg hname]
  have hfirst : Config.ofLookup (lookup "first") = .ok (config "first") := by
    simp only [lookup, config]
    decide +kernel
  have hsecond : Config.ofLookup (lookup "second") = .ok (config "second") := by
    simp only [lookup, config]
    decide +kernel
  have hblind : server.Blind SameHead := by
    intro history history' r r' _ hr
    simp only [server, hr.target]
  refine ⟨hlookups, hfirst, hsecond, hblind, fun bytes bytes' o => ?_⟩
  intro random random'
  have hrandom : random.Alike random' := fun _ => .ok trivial
  have halike := (password_does_not_leak hlookups hrandom o).1
  rw [hfirst, hsecond] at halike
  cases halike with
  | ok h => exact ⟨hrandom, h.run server [] hblind⟩

end BackingServices
