import BackingServices.Policy
import BackingServices.Url

/-!
# Configuration

The configuration is read from variables.  Each variable has a default, except the
suffix of the namespaces, which must be there and must not be empty.

* The registry must be a URL.
* Whether the password of the broker is generated is said by exactly `true` or
  `false`.  If it is generated there must be no password, not even an empty one.
* The length of the secret is a decimal number from 1 to 1024, with a plus in front
  or not.

The variables are looked at in a fixed order, and the first that is wrong decides.
All other values are taken as they are; an empty context counts as none.
-/

namespace BackingServices

/-! ## Numbers -/

/-- Why a text is no number of a type. -/
inductive NumberFault where
  /-- It is empty. -/
  | empty
  /-- It has a character that is no digit. -/
  | badDigit
  /-- It is too large. -/
  | tooLarge
deriving DecidableEq

/-- The wording of a fault. -/
def NumberFault.message : NumberFault → String
  | .empty => "cannot parse integer from empty string"
  | .badDigit => "invalid digit found in string"
  | .tooLarge => "number too large to fit in target type"

/-- Reads digits one by one, up to a greatest number; the first fault counts. -/
def readDigits (greatest : Nat) : Nat → List Char → Except NumberFault Nat
  | n, [] => .ok n
  | n, c :: cs =>
    if c.isDigit then
      let m := n * 10 + (c.toNat - 48)
      if greatest < m then .error .tooLarge else readDigits greatest m cs
    else .error .badDigit

/-- Reads a number up to a greatest one, with a plus in front or not. -/
def readNumber (greatest : Nat) (s : String) : Except NumberFault Nat :=
  match s.toList with
  | [] => .error .empty
  | ['+'] => .error .badDigit
  | '+' :: cs => readDigits greatest 0 cs
  | cs => readDigits greatest 0 cs

/-! ## Errors -/

/-- Why there is no configuration. -/
inductive ConfigError where
  /-- The suffix is missing or empty. -/
  | noSuffix
  /-- The registry is no URL. -/
  | badRegistry (registry : String) (fault : Url.Fault)
  /-- It is not said by `true` or `false` whether the password is generated. -/
  | badFlag
  /-- There is a password, and it is to be generated. -/
  | passwordConflict
  /-- The length of the secret is no number. -/
  | badLength (length : String) (fault : NumberFault)
  /-- The length of the secret is zero or too large. -/
  | lengthOutOfRange (length : Nat)
deriving DecidableEq

/-- The wordings of an error and its deeper causes, outermost first. -/
def ConfigError.chain : ConfigError → List String
  | .noSuffix => ["NAMESPACE_SUFFIX environment variable not set"]
  | .badRegistry registry fault => [s!"CHART_REGISTRY '{registry}' is not a valid URL", fault.message]
  | .badFlag =>
    ["RABBITMQ_GENERATED_PASSWORD must be true or false", "provided string was not `true` or `false`"]
  | .passwordConflict =>
    ["RABBITMQ_PASSWORD cannot be set together with RABBITMQ_GENERATED_PASSWORD=true"]
  | .badLength length fault => [s!"SECRET_LENGTH '{length}' is not a number", fault.message]
  | .lengthOutOfRange length =>
    [s!"SECRET_LENGTH must be between 1 and {maxSecretLength}, got {length}"]

/-- The wording of an error. -/
def ConfigError.message (e : ConfigError) : String := e.chain.headD ""

/-! ## The configuration -/

/-- The configuration of the program. -/
structure Config where
  /-- What is appended to a service's name to name its namespace. -/
  namespaceSuffix : String
  /-- The context of the cluster, if one is named. -/
  context? : Option String
  /-- What is the same for all services. -/
  policy : Policy
deriving DecidableEq

namespace Config

/-- The values of variables that are set. -/
abbrev Lookup := String → Option String

/-- The value of a variable, or its default. -/
def valueOr (lookup : Lookup) (name default : String) : String := (lookup name).getD default

/-- A value that is not empty. -/
def nonEmpty : Option String → Option String
  | some "" => none
  | v => v

/-- Reads the suffix of the namespaces. -/
def readSuffix (lookup : Lookup) : Except ConfigError String :=
  match nonEmpty (lookup "NAMESPACE_SUFFIX") with
  | none => .error .noSuffix
  | some suffix => .ok suffix

/-- Reads the root of the registry. -/
def readRegistry (lookup : Lookup) : Except ConfigError String :=
  let registry := valueOr lookup "CHART_REGISTRY" Policy.standard.registryRoot
  match Url.parse registry with
  | .error fault => .error (.badRegistry registry fault)
  | .ok _ => .ok registry

/-- Reads whether the password of the broker is generated. -/
def readFlag (lookup : Lookup) : Except ConfigError Bool :=
  match valueOr lookup "RABBITMQ_GENERATED_PASSWORD" "false" with
  | "true" => .ok true
  | "false" => .ok false
  | _ => .error .badFlag

/-- Reads where the credentials of the broker come from. -/
def readCredentials (lookup : Lookup) : Except ConfigError BrokerCredentials := do
  let username := valueOr lookup "RABBITMQ_USERNAME" "beckn"
  if ← readFlag lookup then
    if (lookup "RABBITMQ_PASSWORD").isSome then .error .passwordConflict else .ok (.generated username)
  else .ok (.fixed username (valueOr lookup "RABBITMQ_PASSWORD" "beckn1234"))

/-- The greatest number of 64 bits. -/
def greatestNumber : Nat := 18446744073709551615

/-- Reads the length of the secret. -/
def readLength (lookup : Lookup) : Except ConfigError Nat :=
  match lookup "SECRET_LENGTH" with
  | none => .ok Policy.standard.secretLength
  | some text =>
    match readNumber greatestNumber text with
    | .error fault => .error (.badLength text fault)
    | .ok length =>
      if length = 0 ∨ maxSecretLength < length then .error (.lengthOutOfRange length) else .ok length

/-- Reads the configuration. -/
def ofLookup (lookup : Lookup) : Except ConfigError Config := do
  let namespaceSuffix ← readSuffix lookup
  let registryRoot ← readRegistry lookup
  let brokerCredentials ← readCredentials lookup
  let secretLength ← readLength lookup
  let versions := Policy.standard.chartVersions
  .ok {
    namespaceSuffix
    context? := nonEmpty (lookup "KUBE_CONTEXT")
    policy := {
      registryRoot
      storageClass := valueOr lookup "STORAGE_CLASS" Policy.standard.storageClass
      chartVersions := {
        cache := valueOr lookup "REDIS_CHART_VERSION" versions.cache
        documentStore := valueOr lookup "MONGODB_CHART_VERSION" versions.documentStore
        broker := valueOr lookup "RABBITMQ_CHART_VERSION" versions.broker }
      brokerCredentials
      secretLength } }

/-- The diagnostic text of a configuration. -/
def debug (c : Config) : DebugText :=
  .record "Config" [("namespace_suffix", .quoted c.namespaceSuffix),
    ("kube_context", .option (c.context?.map .quoted)), ("policy", c.policy.debug)] false

end Config

end BackingServices
