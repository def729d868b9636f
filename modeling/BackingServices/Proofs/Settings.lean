import BackingServices.Proofs.Acceptance
import BackingServices.Proofs.Config
import BackingServices.Proofs.Number

/-!
# Which settings are accepted

A setting gives values to variables.  Five requirements are looked at in a fixed order: there is a
suffix, the registry is a URL, it is said by `true` or `false` whether the password is generated, no
password is given if it is, and the length of the secret is a number from 1 to 1024.  There is a
configuration if and only if all of them hold, and else the first that does not is reported.  A
configuration is faithful: everything in it is the text of its variable or the default, and under it
a plan can fail only for the service, the cluster or the name of the namespace (`ofLookup_decides`).
-/

namespace BackingServices.Config

/-! ## Requirements -/

/-- What a setting must fulfil. -/
inductive Requirement where
  /-- There is a suffix. -/
  | suffix
  /-- The registry is a URL. -/
  | registry
  /-- It is said whether the password is generated. -/
  | flag
  /-- No password is given if it is generated. -/
  | password
  /-- There are secrets of the length. -/
  | length

/-- The root of the registry that a setting names. -/
def registryOf (lookup : Lookup) : String :=
  (lookup "CHART_REGISTRY").getD "oci://registry-1.docker.io/bitnamicharts"

/-- The credentials that a setting gives. -/
def credentialsOf (lookup : Lookup) : BrokerCredentials :=
  let username := (lookup "RABBITMQ_USERNAME").getD "beckn"
  if lookup "RABBITMQ_GENERATED_PASSWORD" = some "true" then .generated username
  else .fixed username ((lookup "RABBITMQ_PASSWORD").getD "beckn1234")

namespace Requirement

/-- The place of a requirement in the order. -/
def rank : Requirement → Nat
  | .suffix => 0
  | .registry => 1
  | .flag => 2
  | .password => 3
  | .length => 4

/-- Whether a requirement holds. -/
def Holds (lookup : Lookup) : Requirement → Prop
  | .suffix => ∃ suffix, lookup "NAMESPACE_SUFFIX" = some suffix ∧ suffix ≠ ""
  | .registry => ∃ url, Url.parse (registryOf lookup) = .ok url
  | .flag => ∀ text, lookup "RABBITMQ_GENERATED_PASSWORD" = some text → text = "true" ∨ text = "false"
  | .password => lookup "RABBITMQ_GENERATED_PASSWORD" = some "true" → lookup "RABBITMQ_PASSWORD" = none
  | .length => ∀ text, lookup "SECRET_LENGTH" = some text → ∃ n, IsNumber text n ∧ 1 ≤ n ∧ n ≤ 1024

/-- A requirement is the first that does not hold. -/
structure First (lookup : Lookup) (r : Requirement) : Prop where
  before : ∀ r' : Requirement, r'.rank < r.rank → r'.Holds lookup
  fails : ¬ r.Holds lookup

/-- If a requirement does not hold, there is a first that does not. -/
theorem exists_first {lookup : Lookup} (h : ¬ ∀ r, Holds lookup r) : ∃ r, First lookup r := by
  obtain ⟨r, hbefore, hfails⟩ := exists_first_failing rank (Classical.not_forall.mp h)
  exact ⟨r, hbefore, hfails⟩

end Requirement

/-- What is reported of a length that is refused. -/
inductive LengthRefused (text : String) : ConfigError → Prop where
  | noNumber {fault : NumberFault} (h : NumberRead greatestNumber text (.error fault)) :
      LengthRefused text (.badLength text fault)
  | outOfRange {n : Nat} (h : IsNumber text n) (hle : n ≤ greatestNumber) (hrange : n = 0 ∨ 1024 < n) :
      LengthRefused text (.lengthOutOfRange n)

/-- What is reported of a requirement that does not hold. -/
inductive Reported (lookup : Lookup) : Requirement → ConfigError → Prop where
  | suffix : Reported lookup .suffix .noSuffix
  | registry {fault : Url.Fault} (h : Url.parse (registryOf lookup) = .error fault) :
      Reported lookup .registry (.badRegistry (registryOf lookup) fault)
  | flag : Reported lookup .flag .badFlag
  | password : Reported lookup .password .passwordConflict
  | length {text : String} {e : ConfigError} (htext : lookup "SECRET_LENGTH" = some text)
      (h : LengthRefused text e) : Reported lookup .length e

open Requirement (First Holds)

variable {lookup : Lookup}

/-! ## The parts -/

theorem nonEmpty_eq_filter (v? : Option String) : nonEmpty v? = v?.filter (· ≠ "") := by
  fun_cases nonEmpty v? with
  | case1 => rfl
  | case2 v? hne =>
    cases v? with
    | none => rfl
    | some s =>
      have hs : s ≠ "" := fun h => hne (congrArg some h)
      rw [Option.filter_some, decide_eq_true hs, if_pos rfl]

theorem nonEmpty_eq_some_iff {v? : Option String} {s : String} :
    nonEmpty v? = some s ↔ v? = some s ∧ s ≠ "" := by
  rw [nonEmpty_eq_filter, Option.filter_eq_some_iff, decide_eq_true_iff]

theorem readSuffix_ok_iff {suffix : String} :
    readSuffix lookup = .ok suffix ↔ lookup "NAMESPACE_SUFFIX" = some suffix ∧ suffix ≠ "" := by
  rw [← nonEmpty_eq_some_iff, readSuffix]
  cases nonEmpty (lookup "NAMESPACE_SUFFIX") with
  | none => simp
  | some s => simp

theorem readSuffix_of_not (h : ¬ Holds lookup .suffix) : readSuffix lookup = .error .noSuffix := by
  rw [readSuffix]
  cases hsuffix : nonEmpty (lookup "NAMESPACE_SUFFIX") with
  | none => rfl
  | some s => exact absurd ⟨s, nonEmpty_eq_some_iff.mp hsuffix⟩ h

theorem readRegistry_eq :
    readRegistry lookup = match Url.parse (registryOf lookup) with
      | .error fault => .error (.badRegistry (registryOf lookup) fault)
      | .ok _ => .ok (registryOf lookup) := rfl

theorem readRegistry_of_holds (h : Holds lookup .registry) :
    readRegistry lookup = .ok (registryOf lookup) := by
  obtain ⟨url, hurl⟩ := h
  rw [readRegistry_eq, hurl]

theorem readRegistry_of_not (h : ¬ Holds lookup .registry) :
    ∃ fault, Url.parse (registryOf lookup) = .error fault ∧
      readRegistry lookup = .error (.badRegistry (registryOf lookup) fault) := by
  rw [readRegistry_eq]
  cases hurl : Url.parse (registryOf lookup) with
  | error fault => exact ⟨fault, rfl, rfl⟩
  | ok url => exact absurd ⟨url, hurl⟩ h

theorem readFlag_true (h : lookup "RABBITMQ_GENERATED_PASSWORD" = some "true") :
    readFlag lookup = .ok true := by
  rw [readFlag, valueOr, h]
  rfl

theorem readFlag_of_holds (h : Holds lookup .flag)
    (hfixed : lookup "RABBITMQ_GENERATED_PASSWORD" ≠ some "true") : readFlag lookup = .ok false := by
  rw [readFlag, valueOr]
  cases htext : lookup "RABBITMQ_GENERATED_PASSWORD" with
  | none => rfl
  | some text =>
    rcases h text htext with rfl | rfl
    · exact absurd htext hfixed
    · rfl

theorem readFlag_of_not (h : ¬ Holds lookup .flag) : readFlag lookup = .error .badFlag := by
  obtain ⟨text, htext, htrue, hfalse⟩ : ∃ text, lookup "RABBITMQ_GENERATED_PASSWORD" = some text ∧
      text ≠ "true" ∧ text ≠ "false" := by
    simpa [Holds] using h
  rw [readFlag, valueOr, htext]
  split
  next htext => exact absurd htext htrue
  next htext => exact absurd htext hfalse
  next => rfl

theorem readCredentials_of_holds (hflag : Holds lookup .flag) (hpassword : Holds lookup .password) :
    readCredentials lookup = .ok (credentialsOf lookup) := by
  rw [readCredentials, credentialsOf]
  by_cases hgenerated : lookup "RABBITMQ_GENERATED_PASSWORD" = some "true"
  · rw [readFlag_true hgenerated, if_pos hgenerated, hpassword hgenerated]
    rfl
  · rw [readFlag_of_holds hflag hgenerated, if_neg hgenerated]
    rfl

theorem readCredentials_of_unsaid (hflag : ¬ Holds lookup .flag) :
    readCredentials lookup = .error .badFlag := by
  rw [readCredentials, readFlag_of_not hflag]
  rfl

theorem readCredentials_of_conflict (hpassword : ¬ Holds lookup .password) :
    readCredentials lookup = .error .passwordConflict := by
  obtain ⟨hgenerated, hgiven⟩ := Classical.not_imp.mp hpassword
  obtain ⟨password, hgiven⟩ := Option.ne_none_iff_exists'.mp hgiven
  rw [readCredentials, readFlag_true hgenerated, hgiven]
  rfl

theorem credentialsOf_of_ok {credentials : BrokerCredentials}
    (h : readCredentials lookup = .ok credentials) : credentials = credentialsOf lookup := by
  by_cases hflag : Holds lookup .flag
  · by_cases hpassword : Holds lookup .password
    · rw [readCredentials_of_holds hflag hpassword] at h
      exact (Except.ok.inj h).symm
    · rw [readCredentials_of_conflict hpassword] at h
      contradiction
  · rw [readCredentials_of_unsaid hflag] at h
    contradiction

/-- A length is read if and only if it is a number from 1 to 1024; without one it is 12. -/
theorem readLength_ok_iff {length : Nat} :
    readLength lookup = .ok length ↔
      match lookup "SECRET_LENGTH" with
      | none => length = 12
      | some text => IsNumber text length ∧ 1 ≤ length ∧ length ≤ 1024 := by
  rw [readLength]
  cases lookup "SECRET_LENGTH" with
  | none => exact ⟨fun h => (Except.ok.inj h).symm, fun h => congrArg Except.ok h.symm⟩
  | some text =>
    dsimp only
    constructor
    · intro h
      cases hread : readNumber greatestNumber text with
      | error fault =>
        rw [hread] at h
        contradiction
      | ok n =>
        rw [hread] at h
        dsimp only at h
        split at h
        next => contradiction
        next hrange =>
          obtain rfl := Except.ok.inj h
          refine ⟨(readNumber_ok_iff.mp hread).1, ?_⟩
          rw [maxSecretLength] at hrange
          omega
    · rintro ⟨hnumber, hrange⟩
      have hgreatest : length ≤ greatestNumber := by
        rw [greatestNumber]
        omega
      rw [readNumber_ok_iff.mpr ⟨hnumber, hgreatest⟩]
      refine if_neg ?_
      rw [maxSecretLength]
      omega

theorem readLength_of_not (h : ¬ Holds lookup .length) :
    ∃ text e, lookup "SECRET_LENGTH" = some text ∧ LengthRefused text e ∧
      readLength lookup = .error e := by
  obtain ⟨text, htext, hnone⟩ : ∃ text, lookup "SECRET_LENGTH" = some text ∧
      ¬ ∃ n, IsNumber text n ∧ 1 ≤ n ∧ n ≤ 1024 := by
    by_contra hall
    exact h fun text htext => by_contra fun hnone => hall ⟨text, htext, hnone⟩
  refine ⟨text, ?_⟩
  rw [readLength, htext]
  dsimp only
  cases hread : readNumber greatestNumber text with
  | error fault => exact ⟨_, rfl, .noNumber (hread ▸ readNumber_of greatestNumber text), rfl⟩
  | ok n =>
    obtain ⟨hnumber, hle⟩ := readNumber_ok_iff.mp hread
    have hrange : n = 0 ∨ 1024 < n := by
      by_contra hrange
      exact hnone ⟨n, hnumber, by omega, by omega⟩
    exact ⟨_, rfl, .outOfRange hnumber hle hrange, if_pos hrange⟩

/-! ## The whole -/

/-- A configuration is read if all requirements hold. -/
theorem ofLookup_of_holds (h : ∀ r, Holds lookup r) : ∃ c, ofLookup lookup = .ok c := by
  obtain ⟨suffix, hsuffix⟩ := h .suffix
  have hlength : ∃ length, readLength lookup = .ok length := by
    cases htext : lookup "SECRET_LENGTH" with
    | none => exact ⟨12, readLength_ok_iff.mpr (by rw [htext])⟩
    | some text =>
      obtain ⟨n, hn⟩ := h .length text htext
      refine ⟨n, readLength_ok_iff.mpr ?_⟩
      rw [htext]
      exact hn
  obtain ⟨length, hlength⟩ := hlength
  rw [ofLookup, readSuffix_ok_iff.mpr hsuffix, readRegistry_of_holds (h .registry),
    readCredentials_of_holds (h .flag) (h .password), hlength]
  exact ⟨_, rfl⟩

/-- The first requirement that does not hold is reported. -/
theorem ofLookup_of_first {r : Requirement} (h : First lookup r) :
    ∃ e, ofLookup lookup = .error e ∧ Reported lookup r e := by
  have hsuffix (hrank : 0 < r.rank) : ∃ suffix, readSuffix lookup = .ok suffix := by
    obtain ⟨suffix, hsuffix⟩ := h.before .suffix hrank
    exact ⟨suffix, readSuffix_ok_iff.mpr hsuffix⟩
  have hregistry (hrank : 1 < r.rank) : readRegistry lookup = .ok (registryOf lookup) :=
    readRegistry_of_holds (h.before .registry hrank)
  cases r with
  | suffix =>
    refine ⟨_, ?_, .suffix⟩
    rw [ofLookup, readSuffix_of_not h.fails]
    rfl
  | registry =>
    obtain ⟨suffix, hsuffix⟩ := hsuffix (by decide)
    obtain ⟨fault, hurl, hread⟩ := readRegistry_of_not h.fails
    refine ⟨_, ?_, .registry hurl⟩
    rw [ofLookup, hsuffix, hread]
    rfl
  | flag =>
    obtain ⟨suffix, hsuffix⟩ := hsuffix (by decide)
    refine ⟨_, ?_, .flag⟩
    rw [ofLookup, hsuffix, hregistry (by decide), readCredentials_of_unsaid h.fails]
    rfl
  | password =>
    obtain ⟨suffix, hsuffix⟩ := hsuffix (by decide)
    refine ⟨_, ?_, .password⟩
    rw [ofLookup, hsuffix, hregistry (by decide), readCredentials_of_conflict h.fails]
    rfl
  | length =>
    obtain ⟨suffix, hsuffix⟩ := hsuffix (by decide)
    have hcredentials := readCredentials_of_holds (h.before .flag (by decide))
      (h.before .password (by decide))
    obtain ⟨text, e, htext, he, hread⟩ := readLength_of_not h.fails
    refine ⟨e, ?_, .length htext he⟩
    rw [ofLookup, hsuffix, hregistry (by decide), hcredentials, hread]
    rfl

/-- What is reported tells which requirement does not hold. -/
theorem Reported.unique {r r' : Requirement} {e : ConfigError} (h : Reported lookup r e)
    (h' : Reported lookup r' e) : r = r' := by
  cases h with
  | suffix =>
    cases h' with
    | suffix => rfl
    | length _ h => cases h
  | registry _ =>
    cases h' with
    | registry _ => rfl
    | length _ h => cases h
  | flag =>
    cases h' with
    | flag => rfl
    | length _ h => cases h
  | password =>
    cases h' with
    | password => rfl
    | length _ h => cases h
  | length _ h =>
    cases h with
    | noNumber _ =>
      cases h' with
      | length _ _ => rfl
    | outOfRange _ _ _ =>
      cases h' with
      | length _ _ => rfl

/-- A source has no bytes for the secret under a configuration, and its reason is reported. -/
def NoBytes (c : Config) (random : RandomSource) (e : ProvisionError) : Prop :=
  ∃ reason, random (Secret.bytesFor c.policy.secretLength) = .error reason ∧ e = .randomness reason

/-- What a configuration has to do with the setting it is read from. -/
structure Faithful (lookup : Lookup) (c : Config) : Prop where
  suffix : lookup "NAMESPACE_SUFFIX" = some c.namespaceSuffix
  context : c.context? = (lookup "KUBE_CONTEXT").filter (· ≠ "")
  registry : c.policy.registryRoot = registryOf lookup
  storageClass : c.policy.storageClass = (lookup "STORAGE_CLASS").getD "gp2"
  cache : c.policy.chartVersions.cache = (lookup "REDIS_CHART_VERSION").getD "21.2.3"
  documentStore :
    c.policy.chartVersions.documentStore = (lookup "MONGODB_CHART_VERSION").getD "16.5.21"
  broker : c.policy.chartVersions.broker = (lookup "RABBITMQ_CHART_VERSION").getD "16.0.7"
  credentials : c.policy.brokerCredentials = credentialsOf lookup
  length : match lookup "SECRET_LENGTH" with
    | none => c.policy.secretLength = 12
    | some text => IsNumber text c.policy.secretLength
  /-- The suffix is not empty. -/
  suffixed : c.namespaceSuffix ≠ ""
  /-- There is no secret of the length only if there are no bytes for it. -/
  secret : ∀ random e, Secret.generate c.policy.secretLength random = .error e →
    NoBytes c random e
  /-- A plan fails only for the service, the cluster or the name of the namespace, because the
  onboarding has an empty suffix of its own, or because there are no bytes for the secret. -/
  plan : ∀ random o e, Plan.make c.policy random o = .error e →
    (∃ condition ∈ [Condition.named, .placed, .labelled],
      ¬ condition.Holds c.policy o ∧ e = .request (condition.fault c.policy o)) ∨
    o.suffix = "" ∧ e = .request .noSuffix ∨ NoBytes c random e

/-- Under an accepted configuration the length of the secret is no reason to fail. -/
theorem reason_of_make {c : Config}
    (hlength : 1 ≤ c.policy.secretLength ∧ c.policy.secretLength ≤ 1024) {random : RandomSource}
    {o : Onboarding} {e : ProvisionError} (hmake : Plan.make c.policy random o = .error e) :
    (∃ condition ∈ [Condition.named, .placed, .labelled],
      ¬ condition.Holds c.policy o ∧ e = .request (condition.fault c.policy o)) ∨
    o.suffix = "" ∧ e = .request .noSuffix ∨ NoBytes c random e := by
  rcases Plan.cases_of_error hmake with ⟨condition, hfirst, he⟩ | ⟨-, hbytes⟩
  · cases condition with
    | named => exact .inl ⟨.named, .head _, hfirst.fails, he⟩
    | suffixed => exact .inr (.inl ⟨Decidable.not_not.mp hfirst.fails, he⟩)
    | placed => exact .inl ⟨.placed, .tail _ (.head _), hfirst.fails, he⟩
    | labelled => exact .inl ⟨.labelled, .tail _ (.tail _ (.head _)), hfirst.fails, he⟩
    | measured => exact absurd hlength hfirst.fails
  · exact .inr (.inr hbytes)

theorem faithful {c : Config} (h : ofLookup lookup = .ok c) : Faithful lookup c := by
  obtain ⟨hsuffix, hcontext, hregistry, hstorage, hversions, hcredentials, hlength⟩ :=
    ofLookup_ok_iff.mp h
  obtain ⟨hsuffix, hne⟩ := readSuffix_ok_iff.mp hsuffix
  have hlength := readLength_ok_iff.mp hlength
  have hmeasured : 1 ≤ c.policy.secretLength ∧ c.policy.secretLength ≤ 1024 := by
    cases htext : lookup "SECRET_LENGTH" with
    | none =>
      rw [htext] at hlength
      dsimp only at hlength
      omega
    | some text =>
      rw [htext] at hlength
      exact hlength.2
  refine {
    suffix := hsuffix
    context := ?_
    registry := (readRegistry_ok_iff.mp hregistry).1
    storageClass := hstorage
    cache := congrArg ChartVersions.cache hversions
    documentStore := congrArg ChartVersions.documentStore hversions
    broker := congrArg ChartVersions.broker hversions
    credentials := credentialsOf_of_ok hcredentials
    length := ?_
    suffixed := hne
    secret := fun random e hsecret => ?_
    plan := fun random o e => reason_of_make hmeasured }
  · rw [hcontext, nonEmpty_eq_filter]
  · cases htext : lookup "SECRET_LENGTH" with
    | none =>
      rw [htext] at hlength
      exact hlength
    | some text =>
      rw [htext] at hlength
      exact hlength.1
  · rcases Secret.generate_error_iff.mp hsecret with ⟨hrefused, -⟩ | ⟨-, hbytes⟩
    · rw [maxSecretLength] at hrefused
      omega
    · exact hbytes

/-- The variables that are looked at. -/
def variableNames : List String :=
  ["NAMESPACE_SUFFIX", "KUBE_CONTEXT", "CHART_REGISTRY", "STORAGE_CLASS", "REDIS_CHART_VERSION",
    "MONGODB_CHART_VERSION", "RABBITMQ_CHART_VERSION", "RABBITMQ_USERNAME",
    "RABBITMQ_GENERATED_PASSWORD", "RABBITMQ_PASSWORD", "SECRET_LENGTH"]

/-- Other variables do not matter. -/
theorem ofLookup_congr {changed : Lookup} (h : ∀ name ∈ variableNames, changed name = lookup name) :
    ofLookup changed = ofLookup lookup := by
  simp only [variableNames, List.forall_mem_cons] at h
  obtain ⟨hsuffix, hcontext, hregistry, hstorage, hcache, hdocuments, hbroker, huser, hflag, hpassword,
    hlength, -⟩ := h
  have hreadSuffix : readSuffix changed = readSuffix lookup := by rw [readSuffix, readSuffix, hsuffix]
  have hreadRegistry : readRegistry changed = readRegistry lookup := by
    rw [readRegistry, readRegistry, valueOr, valueOr, hregistry]
  have hreadFlag : readFlag changed = readFlag lookup := by
    rw [readFlag, readFlag, valueOr, valueOr, hflag]
  have hreadCredentials : readCredentials changed = readCredentials lookup := by
    rw [readCredentials, readCredentials, hreadFlag, hpassword]
    simp only [valueOr, huser, hpassword]
  have hreadLength : readLength changed = readLength lookup := by rw [readLength, readLength, hlength]
  rw [ofLookup, ofLookup, hreadSuffix, hreadRegistry, hreadCredentials, hreadLength]
  simp only [valueOr, hcontext, hstorage, hcache, hdocuments, hbroker]

/-- There is a configuration if and only if all requirements hold.  Else the first that does not hold is
reported, and nothing else ever is.  Every configuration is faithful to the setting, of which only the
listed variables matter. -/
theorem ofLookup_decides (lookup : Lookup) :
    ((∃ c, ofLookup lookup = .ok c) ↔ ∀ r, Requirement.Holds lookup r) ∧
      (∀ r, ((∀ r' : Requirement, r'.rank < r.rank → r'.Holds lookup) ∧ ¬ r.Holds lookup) ↔
        ∃ e, ofLookup lookup = .error e ∧ Reported lookup r e) ∧
      (∀ c, ofLookup lookup = .ok c → Faithful lookup c) ∧
      ∀ changed : Lookup, (∀ name ∈ variableNames, changed name = lookup name) →
        ofLookup changed = ofLookup lookup := by
  refine ⟨⟨?_, ofLookup_of_holds⟩, fun r => ⟨?_, ?_⟩, fun c => faithful, fun changed => ofLookup_congr⟩
  · rintro ⟨c, hok⟩
    by_contra hall
    obtain ⟨r, hfirst⟩ := Requirement.exists_first hall
    obtain ⟨e, herror, -⟩ := ofLookup_of_first hfirst
    rw [hok] at herror
    contradiction
  · rintro ⟨hbefore, hfails⟩
    exact ofLookup_of_first ⟨hbefore, hfails⟩
  · rintro ⟨e, herror, hreported⟩
    have hall : ¬ ∀ r, Requirement.Holds lookup r := by
      intro hall
      obtain ⟨c, hok⟩ := ofLookup_of_holds hall
      rw [hok] at herror
      contradiction
    obtain ⟨r', hfirst⟩ := Requirement.exists_first hall
    obtain ⟨e', herror', hreported'⟩ := ofLookup_of_first hfirst
    obtain rfl : e = e' := Except.error.inj (herror.symm.trans herror')
    obtain rfl := hreported.unique hreported'
    exact ⟨hfirst.before, hfirst.fails⟩

/-- A plan does not fail for the service, the cluster and the namespace alone: under an accepted
configuration it also fails if the source of random bytes does, and for an onboarding with an empty
suffix, though the name of its namespace is a label. -/
theorem plan_fails_otherwise :
    let lookup : Lookup := fun name => if name = "NAMESPACE_SUFFIX" then some "-prod" else none
    let config : Config := ⟨"-prod", none, Policy.standard⟩
    let onboarding (suffix : String) : Onboarding := ⟨"orders", suffix, some ⟨"local", "default"⟩⟩
    ofLookup lookup = .ok config ∧
      (∀ suffix ∈ ["-prod", ""], ∀ condition ∈ [Condition.named, .placed, .labelled],
        condition.Holds config.policy (onboarding suffix)) ∧
      Plan.make config.policy (fun _ => .error "no entropy") (onboarding "-prod") =
        .error (.randomness "no entropy") ∧
      ∀ random, Plan.make config.policy random (onboarding "") = .error (.request .noSuffix) := by
  intro lookup config onboarding
  have hlookup : ofLookup lookup = .ok config := by
    simp only [lookup, config]
    decide +kernel
  have hholds : ∀ suffix ∈ ["-prod", ""], ∀ condition ∈ [Condition.named, .placed, .labelled],
      condition.Holds config.policy (onboarding suffix) := by
    simp only [config, onboarding]
    decide +kernel
  have hprod := hholds "-prod" (.head _)
  have hempty := hholds "" (.tail _ (.head _))
  refine ⟨hlookup, hholds, Plan.make_of_no_bytes (fun condition => ?_) rfl, fun random => ?_⟩
  · cases condition with
    | named => exact hprod _ (.head _)
    | suffixed => exact show "-prod" ≠ "" by decide
    | placed => exact hprod _ (.tail _ (.head _))
    | labelled => exact hprod _ (.tail _ (.tail _ (.head _)))
    | measured => exact show 1 ≤ Policy.standard.secretLength ∧ _ by decide
  · refine Plan.make_of_invalid ?_
    rw [Onboarding.validate_named (hempty _ (.head _))]
    exact if_pos rfl

end BackingServices.Config
