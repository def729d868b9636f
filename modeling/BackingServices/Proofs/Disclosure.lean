import BackingServices.Proofs.Secrecy
import BackingServices.Proofs.Yaml.Digits

/-!
# What diagnostic texts disclose

Secrets, credentials and policies keep the password of the broker out of their diagnostic texts.  The
deployment of the broker does not, since the password is one of its values, and so neither does the
plan.  For two passwords these texts are equal only if the passwords are (`debug_discloses_password`).

A tree that is put around a leaf puts the same text around the leaf's in either layout (`Hole.around`).
So two trees that differ in a leaf have different texts.  A password stands between quotes there, and
quoting keeps different texts apart (`Text.quoted_inj`).
-/

namespace BackingServices

/-! ## Quoted texts tell what was quoted -/

namespace Text

/-- The character that a letter behind a backslash stands for. -/
def lettered (letter : Char) : Char :=
  if letter = 'n' then '\n'
  else if letter = 'r' then '\r'
  else if letter = 't' then '\t'
  else if letter = '0' then '\x00'
  else letter

/-- The three ways for a character to be written inside a quoted text. -/
inductive Quotes (c : Char) : List Char → Prop where
  | itself (hc : c ≠ '\\') (hquote : c ≠ '"') : Quotes c [c]
  | letter (letter : Char) (hletter : letter ≠ 'u') (hc : c = lettered letter) :
      Quotes c ['\\', letter]
  | code : Quotes c ('\\' :: 'u' :: '\x7b' :: hexDigits c.toNat ++ ['\x7d'])

theorem quotes_quotedChar (c : Char) : Quotes c (quotedChar c) := by
  rw [quotedChar]
  split
  · exact .letter '"' (by decide) ‹_›
  split
  · exact .letter '\\' (by decide) ‹_›
  split
  · exact .letter 'n' (by decide) ‹_›
  split
  · exact .letter 'r' (by decide) ‹_›
  split
  · exact .letter 't' (by decide) ‹_›
  split
  · exact .letter '0' (by decide) ‹_›
  split
  · exact .code
  · exact .itself ‹_› ‹_›

theorem digitsValue?_hexDigits (n : Nat) : Yaml.digitsValue? 16 (hexDigits n) = some n := by
  have := Yaml.digitsValue?_map_toDigits (by decide : 1 < 16) (f := id) (by decide) n
  rwa [List.map_id] at this

theorem brace_not_mem_hexDigits (n : Nat) : '\x7d' ∉ hexDigits n := by
  intro hmem
  have hnone : Yaml.digitsValue? 16 (hexDigits n) = none := Yaml.digitsValue?_eq_none hmem (by decide)
  rw [digitsValue?_hexDigits] at hnone
  contradiction

/-- Digits with a brace behind them tell the number, whatever follows. -/
theorem hexDigits_brace_inj {m n : Nat} {rest rest' : List Char}
    (h : hexDigits m ++ '\x7d' :: rest = hexDigits n ++ '\x7d' :: rest') : m = n ∧ rest = rest' := by
  have hlength (k : Nat) (cs : List Char) :
      (hexDigits k ++ '\x7d' :: cs).idxOf '\x7d' = (hexDigits k).length := by
    rw [List.idxOf_append_of_notMem (brace_not_mem_hexDigits k), List.idxOf_cons_self, Nat.add_zero]
  obtain ⟨hdigits, hrest⟩ := List.append_inj h (by rw [← hlength m rest, ← hlength n rest', h])
  have hvalue : some m = some n := by
    rw [← digitsValue?_hexDigits m, ← digitsValue?_hexDigits n, hdigits]
  exact ⟨Option.some.inj hvalue, (List.cons.inj hrest).2⟩

/-- What is written for a character tells it, whatever follows. -/
theorem Quotes.inj {c c' : Char} {written written' rest rest' : List Char} (h : Quotes c written)
    (h' : Quotes c' written') (hequal : written ++ rest = written' ++ rest') :
    c = c' ∧ rest = rest' := by
  cases h with
  | itself hc =>
    cases h' with
    | itself => simpa using hequal
    | letter | code => exact absurd (List.cons.inj hequal).1 hc
  | letter letter hletter hc =>
    cases h' with
    | itself hc' => exact absurd (List.cons.inj hequal).1.symm hc'
    | letter letter' _ hc' =>
      obtain ⟨rfl, hrest⟩ : letter = letter' ∧ rest = rest' := by simpa using hequal
      exact ⟨hc.trans hc'.symm, hrest⟩
    | code => exact absurd (List.cons.inj (List.cons.inj hequal).2).1 hletter
  | code =>
    cases h' with
    | itself hc' => exact absurd (List.cons.inj hequal).1.symm hc'
    | letter letter' hletter' => exact absurd (List.cons.inj (List.cons.inj hequal).2).1.symm hletter'
    | code =>
      have hdigits : hexDigits c.toNat ++ '\x7d' :: rest = hexDigits c'.toNat ++ '\x7d' :: rest' := by
        simpa using hequal
      obtain ⟨hnumber, hrest⟩ := hexDigits_brace_inj hdigits
      exact ⟨Char.toNat_inj.mp hnumber, hrest⟩

/-- Nothing in a quoted text is written with a quote in front. -/
theorem Quotes.not_quote {c : Char} {written rest rest' : List Char} (h : Quotes c written) :
    '"' :: rest ≠ written ++ rest' := by
  cases h with
  | itself _ hquote => exact fun hequal => hquote (List.cons.inj hequal).1.symm
  | letter | code => exact fun hequal => absurd (List.cons.inj hequal).1 (by decide)

/-- A quoted text tells what was quoted. -/
theorem quoted_inj {s s' : String} : quoted s = quoted s' ↔ s = s' := by
  refine ⟨fun h => ?_, congrArg quoted⟩
  have hchars (cs cs' : List Char) (h : cs.flatMap quotedChar ++ ['"'] =
      cs'.flatMap quotedChar ++ ['"']) : cs = cs' := by
    induction cs generalizing cs' with
    | nil =>
      cases cs' with
      | nil => rfl
      | cons c' cs' =>
        rw [List.flatMap_cons, List.append_assoc] at h
        exact absurd h (quotes_quotedChar c').not_quote
    | cons c cs ih =>
      cases cs' with
      | nil =>
        rw [List.flatMap_cons, List.append_assoc] at h
        exact absurd h.symm (quotes_quotedChar c).not_quote
      | cons c' cs' =>
        rw [List.flatMap_cons, List.flatMap_cons, List.append_assoc, List.append_assoc] at h
        obtain ⟨rfl, hrest⟩ := (quotes_quotedChar c).inj (quotes_quotedChar c') h
        rw [ih cs' hrest]
  have hquoted := String.ofList_injective h
  exact String.toList_inj.mp (hchars _ _ (List.cons.inj hquoted).2)

end Text

/-! ## Trees around a leaf -/

/-- A function of texts puts the same text around each of them. -/
def Around (f : String → String) : Prop := ∃ front back, ∀ s, f s = front ++ s ++ back

namespace Around

variable {f : String → String}

theorem self : Around fun s => s := ⟨"", "", fun s => by simp⟩

theorem prepend (h : Around f) (text : String) : Around fun s => text ++ f s := by
  obtain ⟨front, back, hf⟩ := h
  exact ⟨text ++ front, back, fun s => by simp only [hf, String.append_assoc]⟩

theorem append (h : Around f) (text : String) : Around fun s => f s ++ text := by
  obtain ⟨front, back, hf⟩ := h
  exact ⟨front, back ++ text, fun s => by simp only [hf, String.append_assoc]⟩

theorem intercalate (h : Around f) (separator : String) (before behind : List String) :
    Around fun s => separator.intercalate (before ++ f s :: behind) := by
  induction before with
  | nil =>
    cases behind with
    | nil => simpa only [List.nil_append, String.intercalate_singleton] using h
    | cons next behind =>
      simp only [List.nil_append, String.intercalate_cons_cons]
      exact (h.append _).append _
  | cons first before ih =>
    have hne (s : String) : before ++ f s :: behind ≠ [] := by simp
    simp only [List.cons_append, String.intercalate_cons_of_ne_nil (hne _)]
    exact ih.prepend _

theorem join (h : Around f) (before behind : List String) :
    Around fun s => String.join (before ++ f s :: behind) := by
  simp only [String.join_append, String.join_cons]
  exact (h.append _).prepend _

/-- What is put around texts does not make different ones equal. -/
theorem inj (h : Around f) {s s' : String} : f s = f s' ↔ s = s' := by
  obtain ⟨front, back, hf⟩ := h
  rw [hf, hf, String.append_left_inj, String.append_right_inj]

end Around

namespace DebugText

/-- A function of texts makes a leaf of each of them and puts the same records and maps around it. -/
inductive Hole : (String → DebugText) → Prop where
  | leaf : Hole .leaf
  | record {t : String → DebugText} (h : Hole t) (name : String) (before : List (String × DebugText))
      (field : String) (behind : List (String × DebugText)) (isOpen : Bool) :
      Hole fun s => .record name (before ++ (field, t s) :: behind) isOpen
  | map {t : String → DebugText} (h : Hole t) (name : String) (before : List (String × DebugText))
      (key : String) (behind : List (String × DebugText)) :
      Hole fun s => .map name (before ++ (key, t s) :: behind)

theorem plainFields_eq (fields : List (String × DebugText)) :
    plainFields fields = fields.map fun (name, d) => name ++ ": " ++ d.plain := by
  induction fields with
  | nil => rfl
  | cons field fields ih => simp only [plainFields, List.map_cons, ih]

theorem plainEntries_eq (entries : List (String × DebugText)) :
    plainEntries entries = entries.map fun (key, d) => Text.quoted key ++ ": " ++ d.plain := by
  induction entries with
  | nil => rfl
  | cons entry entries ih => simp only [plainEntries, List.map_cons, ih]

theorem spreadFields_eq (depth : Nat) (fields : List (String × DebugText)) :
    spreadFields depth fields = fields.map fun (name, d) => name ++ ": " ++ d.spread depth := by
  induction fields with
  | nil => rfl
  | cons field fields ih => simp only [spreadFields, List.map_cons, ih]

theorem spreadEntries_eq (depth : Nat) (entries : List (String × DebugText)) :
    spreadEntries depth entries =
      entries.map fun (key, d) => Text.quoted key ++ ": " ++ d.spread depth := by
  induction entries with
  | nil => rfl
  | cons entry entries ih => simp only [spreadEntries, List.map_cons, ih]

namespace Hole

variable {t : String → DebugText}

theorem around_plain (h : Hole t) : Around fun s => (t s).plain := by
  induction h with
  | leaf => exact .self
  | @record t h name before field behind isOpen ih =>
    have hplain (s : String) : (DebugText.record name (before ++ (field, t s) :: behind) isOpen).plain =
        name ++ " \x7b " ++ ", ".intercalate (plainFields before ++ (field ++ ": " ++ (t s).plain) ::
          (plainFields behind ++ if isOpen then [".."] else [])) ++ " \x7d" := by
      simp [plain, plainFields_eq, joinComma]
    simp only [hplain]
    exact (((ih.prepend _).intercalate _ _ _).prepend _).append _
  | @map t h name before key behind ih =>
    simp only [plain, plainEntries_eq, List.map_append, List.map_cons, joinComma]
    exact (((ih.prepend _).intercalate _ _ _).prepend _).append _

theorem around_spreadMembers {f : String → String} (h : Around f) (depth : Nat) (opening : String)
    (before behind : List String) (last closing : String) :
    Around fun s => spreadMembers depth opening (before ++ f s :: behind) last closing := by
  simp only [spreadMembers, List.map_append, List.map_cons]
  exact (((((h.prepend _).append _).join _ _).prepend _).append _ |>.append _).append _

theorem around_spread (h : Hole t) (depth : Nat) : Around fun s => (t s).spread depth := by
  induction h generalizing depth with
  | leaf => exact .self
  | @record t h name before field behind isOpen ih =>
    have hspread (s : String) :
        (DebugText.record name (before ++ (field, t s) :: behind) isOpen).spread depth =
          spreadMembers depth (name ++ " \x7b") (spreadFields (depth + 1) before ++
            (field ++ ": " ++ (t s).spread (depth + 1)) :: spreadFields (depth + 1) behind)
            (if isOpen then newLine (depth + 1) ++ ".." else "") "\x7d" := by
      simp [spread, spreadFields_eq]
    simp only [hspread]
    exact around_spreadMembers ((ih _).prepend _) ..
  | @map t h name before key behind ih =>
    have hspread (s : String) : (DebugText.map name (before ++ (key, t s) :: behind)).spread depth =
        spreadMembers depth (name ++ "\x7b") (spreadEntries (depth + 1) before ++
          (Text.quoted key ++ ": " ++ (t s).spread (depth + 1)) :: spreadEntries (depth + 1) behind)
          "" "\x7d" := by
      simp [spread, spreadEntries_eq]
    simp only [hspread]
    exact around_spreadMembers ((ih _).prepend _) ..

/-- Trees around different leaves have different texts. -/
theorem render_inj (h : Hole t) (pretty : Bool) {s s' : String} :
    (t s).render pretty = (t s').render pretty ↔ s = s' := by
  cases pretty with
  | false => exact h.around_plain.inj
  | true => exact (h.around_spread 0).inj

end Hole

end DebugText

/-! ## The password of the broker -/

open DebugText (Hole)

theorem BrokerCredentials.username_redacted (c : BrokerCredentials) :
    c.redacted.username = c.username := by
  cases c <;> rfl

/-- The diagnostic text of the broker's deployment with something in the place of the password. -/
def brokerDebug (policy : Policy) (name shown : String) : DebugText :=
  .record "DeploymentSpec" [("chart_name", .quoted Service.broker.chartName),
    ("chart_version", .quoted (policy.chartVersions.of .broker)),
    ("release_name", .quoted Service.broker.chartName), ("target_namespace", .quoted name),
    ("source_repository_uri", .quoted (chartSource policy.registryRoot Service.broker.chartName)),
    ("block_until_ready", .leaf "false"),
    ("value_overrides", .map "Object " [
      ("auth", .map "Object " [("password", .leaf shown),
        ("username", (Json.string policy.brokerCredentials.username).debug)]),
      ("persistence", .map "Object " [("enabled", (Json.bool true).debug),
        ("storageClass", (Json.string policy.storageClass).debug)])])] false

theorem debug_broker (policy : Policy) (name : String) (secret : Secret) :
    (Service.broker.deployment policy name secret).debug = brokerDebug policy name
      ("String(" ++ Text.quoted (policy.brokerCredentials.password secret) ++ ")") := rfl

theorem hole_brokerDebug (policy : Policy) (name : String) : Hole (brokerDebug policy name) :=
  .record (.map (.map .leaf _ [] _ _) _ [] _ _) _ [_, _, _, _, _, _] _ [] _

/-- The diagnostic text of a plan with something in the place of the password. -/
def planDebug (policy : Policy) (name : String) (secret : Secret) (shown : String) : DebugText :=
  .record "ProvisionPlan" [("namespace", .quoted name),
    ("cache", (Service.cache.deployment policy name secret).debug),
    ("document_store", (Service.documentStore.deployment policy name secret).debug),
    ("broker", brokerDebug policy name shown), ("secret", secret.debug)] false

theorem debug_plan (policy : Policy) (name : String) (secret : Secret) :
    (Plan.of policy name secret).debug = planDebug policy name secret
      ("String(" ++ Text.quoted (policy.brokerCredentials.password secret) ++ ")") := rfl

theorem hole_planDebug (policy : Policy) (name : String) (secret : Secret) :
    Hole (planDebug policy name secret) :=
  .record (hole_brokerDebug policy name) _ [_, _, _] _ [_] _

/-- Texts that are shown as values are equal only if they are the same text. -/
theorem shownText_inj {s s' : String} :
    "String(" ++ Text.quoted s ++ ")" = "String(" ++ Text.quoted s' ++ ")" ↔ s = s' := by
  rw [String.append_left_inj, String.append_right_inj, Text.quoted_inj]

section

variable {policy policy' : Policy} (h : policy.redacted = policy'.redacted) (name : String)
  {secret secret' : Secret} (hlength : secret.length = secret'.length)

include h

theorem brokerDebug_congr : brokerDebug policy name = brokerDebug policy' name := by
  obtain ⟨root, storage, versions, credentials, length⟩ := policy
  obtain ⟨root', storage', versions', credentials', length'⟩ := policy'
  simp only [Policy.redacted, Policy.mk.injEq] at h
  obtain ⟨rfl, rfl, rfl, hcredentials, rfl⟩ := h
  have husername : credentials.username = credentials'.username := by
    rw [← credentials.username_redacted, hcredentials, credentials'.username_redacted]
  funext shown
  simp only [brokerDebug, husername]

include hlength

theorem planDebug_congr : planDebug policy name secret = planDebug policy' name secret' := by
  have hplan := Plan.sameButPassword_of h name hlength
  have hcache : Service.cache.deployment policy name secret =
      Service.cache.deployment policy' name secret' := hplan.cache
  have hstore : Service.documentStore.deployment policy name secret =
      Service.documentStore.deployment policy' name secret' := hplan.documentStore
  funext shown
  simp only [planDebug, hcache, hstore, brokerDebug_congr h, Secret.debug_eq hlength]

end

/-- What the diagnostic texts tell of the password, for two policies and two secrets, in one of the
layouts. -/
structure Disclosure (policy policy' : Policy) (name : String) (secret secret' : Secret)
    (pretty : Bool) : Prop where
  /-- That of a secret tells nothing. -/
  ofSecret : secret.debug.render pretty = secret'.debug.render pretty
  /-- That of credentials tells nothing. -/
  ofCredentials : policy.brokerCredentials.debug.render pretty =
    policy'.brokerCredentials.debug.render pretty
  /-- That of a policy tells nothing. -/
  ofPolicy : policy.debug.render pretty = policy'.debug.render pretty
  /-- Those of the deployments of the cache and of the document store tell nothing. -/
  ofOthers : ∀ s : Service, s ≠ .broker → (s.deployment policy name secret).debug.render pretty =
    (s.deployment policy' name secret').debug.render pretty
  /-- That of the deployment of the broker tells the password. -/
  ofBroker : (Service.broker.deployment policy name secret).debug.render pretty =
      (Service.broker.deployment policy' name secret').debug.render pretty ↔
    policy.brokerCredentials.password secret = policy'.brokerCredentials.password secret'
  /-- That of a plan tells the password. -/
  ofPlan : (Plan.of policy name secret).debug.render pretty =
      (Plan.of policy' name secret').debug.render pretty ↔
    policy.brokerCredentials.password secret = policy'.brokerCredentials.password secret'

/-- For policies that differ in a fixed password only, and secrets of one length, the diagnostic texts
of secrets, credentials and policies are equal, and so are those of the deployments that have no
password.  Those of the broker's deployment and of the plan are equal only if the passwords are. -/
theorem debug_discloses_password {policy policy' : Policy} (h : policy.redacted = policy'.redacted)
    (name : String) {secret secret' : Secret} (hlength : secret.length = secret'.length)
    (pretty : Bool) : Disclosure policy policy' name secret secret' pretty := by
  have hcredentials : policy.brokerCredentials.redacted = policy'.brokerCredentials.redacted :=
    congrArg Policy.brokerCredentials h
  have hplan := Plan.sameButPassword_of h name hlength
  refine {
    ofSecret := by rw [Secret.debug_eq hlength]
    ofCredentials := ?_
    ofPolicy := by rw [← policy.debug_redacted, h, Policy.debug_redacted]
    ofOthers := fun s hs => ?_
    ofBroker := ?_
    ofPlan := ?_ }
  · rw [← BrokerCredentials.debug_redacted, hcredentials, BrokerCredentials.debug_redacted]
  · have hdeployment : s.deployment policy name secret = s.deployment policy' name secret' := by
      cases s with
      | cache => exact hplan.cache
      | documentStore => exact hplan.documentStore
      | broker => contradiction
    rw [hdeployment]
  · rw [debug_broker, debug_broker, brokerDebug_congr h, (hole_brokerDebug policy' name).render_inj,
      shownText_inj]
  · rw [debug_plan, debug_plan, planDebug_congr h name hlength,
      (hole_planDebug policy' name secret').render_inj, shownText_inj]

/-- So it is for two fixed passwords and for two secrets. -/
theorem debug_discloses_beckn1234 :
    let policy : Policy := .standard
    let policy' : Policy := { policy with brokerCredentials := .fixed "beckn" "s3cret" }
    let secret : Secret := ⟨.replicate 12 '0'⟩
    let secret' : Secret := ⟨.replicate 12 '1'⟩
    policy.redacted = policy'.redacted ∧ secret.length = secret'.length ∧
      Disclosure policy policy' "orders-prod" secret secret' true ∧
        policy.brokerCredentials.password secret ≠ policy'.brokerCredentials.password secret' := by
  intro policy policy' secret secret'
  have hredacted : policy.redacted = policy'.redacted := rfl
  have hlength : secret.length = secret'.length := rfl
  have hdifferent : "beckn1234" ≠ "s3cret" := by decide
  have hdiscloses := debug_discloses_password hredacted "orders-prod" hlength true
  exact ⟨hredacted, hlength, hdiscloses, hdifferent⟩

/-- With the standard policy and with another password, the deployment of the broker has different
diagnostic texts. -/
theorem broker_debug_differs :
    let policy' : Policy := { Policy.standard with brokerCredentials := .fixed "beckn" "s3cret" }
    Policy.standard.redacted = policy'.redacted ∧ ∀ secret : Secret, ∀ pretty,
      (Service.broker.deployment .standard "orders-prod" secret).debug.render pretty ≠
        (Service.broker.deployment policy' "orders-prod" secret).debug.render pretty := by
  intro policy'
  have hredacted : Policy.standard.redacted = policy'.redacted := rfl
  refine ⟨hredacted, fun secret pretty => ?_⟩
  rw [debug_broker, debug_broker, brokerDebug_congr hredacted, Ne,
    (hole_brokerDebug policy' "orders-prod").render_inj, shownText_inj]
  exact (by decide : "beckn1234" ≠ "s3cret")

end BackingServices
