import BackingServices.Cluster.Environment

/-!
# Credentials

What a user is known by is used in a fixed order: a provider, a name with a password,
a token, a file with a token, a program.  The first of them counts, and a user with
none of them is anonymous.

Of the providers only those are of use that hold a token of their own or have a program
that gives one.

Besides, a user may have a certificate.  It is the one that the program gives which is
run once more for it, or else the user's own, which is left out if it cannot be read.

A user may take the part of another user and of groups, which are named in headers of
the requests.
-/

namespace BackingServices.Cluster

/-! ## Faults -/

/-- Why the credentials of a user are of no use. -/
inductive CredentialFault where
  /-- The provider holds no token of an identity. -/
  | noIdentity
  /-- The provider is no longer supported. -/
  | retiredProvider
  /-- The provider is not known. -/
  | unknownProvider (name : String)
  /-- The provider's token expires at no point in time. -/
  | badExpiry (fault : Timestamp.Fault)
  /-- The provider's program gives no token. -/
  | providerProgram (command : String) (fault : ProgramFault)
  /-- The provider's token would have to be fetched from a service. -/
  | noTokenService
  /-- The file with the token is not there. -/
  | noTokenFile (path : String)
  /-- The program has no command. -/
  | noCommand
  /-- The program gives no credentials. -/
  | program (fault : ProgramFault)
  /-- The program's answer has no credentials. -/
  | noCredential
deriving DecidableEq

/-- The wording of a fault. -/
def CredentialFault.message : CredentialFault → String
  | .noIdentity => "failed exec auth: No id-token for oidc Authentication provider"
  | .retiredProvider =>
    "failed exec auth: The azure auth plugin is not supported; use https://github.com/Azure/kubelogin instead"
  | .unknownProvider name => "failed exec auth: Authentication with provider " ++ name ++ " not supported"
  | .badExpiry fault => "malformed token expiration date: " ++ fault.message
  | .providerProgram command (.notStarted report) =>
    "failed exec auth: Executing " ++ command ++ " failed: " ++ report
  | .providerProgram _ (.failed report) => report
  | .noTokenService =>
    "failed exec auth: Enable oauth feature to use Google Application Credentials-based token source"
  | .noTokenFile path =>
    "failed to read token file '" ++ Text.quoted path ++ "': " ++ Kubeconfig.notFound
  | .noCommand => "command must be specified to use exec authentication plugin"
  | .program (.notStarted report) => "unable to run auth exec: " ++ report
  | .program (.failed report) => report
  | .noCredential => "exec-plugin response did not contain a status"

/-! ## The order -/

/-- How many seconds before its end a token is no longer used. -/
def expiryMargin : Int := 60

/-- Whether a written time is so late that its token is still used. -/
def isFresh (now : Int) (expiry : String) : Except CredentialFault Bool := do
  let instant ← (Timestamp.Instant.ofText expiry).mapError .badExpiry
  .ok (now + expiryMargin < instant.seconds - Timestamp.unixStart)

namespace Provider

/-- The value of a setting. -/
def setting? (p : Provider) (name : String) : Option String := p.settings.lookup name

/-- Checks that a provider holds the token of an identity. -/
def checkIdentity (p : Provider) : Except CredentialFault Unit :=
  if (p.setting? "id-token").isSome then .ok () else .error .noIdentity

/-- Whether a provider holds a token that has not expired. -/
def hasFreshToken (now : Int) (p : Provider) : Except CredentialFault Bool :=
  match p.setting? "access-token", p.setting? "expiry" with
  | some _, some expiry => isFresh now expiry
  | _, _ => .ok false

/-- Checks that a provider holds a token of one kind or another. -/
def checkToken (env : Environment) (p : Provider) : Except CredentialFault Unit := do
  if (p.setting? "id-token").isSome then .ok ()
  else if ← p.hasFreshToken env.now then .ok ()
  else
    match p.setting? "cmd-path" with
    | some command => (env.programs.provider p).mapError (.providerProgram command)
    | none => .error .noTokenService

/-- Checks that a provider gives a token. -/
def check (env : Environment) (p : Provider) : Except CredentialFault Unit :=
  if p.name = "oidc" then p.checkIdentity
  else if p.name = "gcp" then p.checkToken env
  else if p.name = "azure" then .error .retiredProvider
  else .error (.unknownProvider p.name)

end Provider

/-- What the program gives when it was run so many times before. -/
def Helper.run (env : Environment) (info? : Option ClusterInfo) (before : Nat) (h : Helper) :
    Except CredentialFault Credential := do
  if h.command?.isNone then .error .noCommand
  match ← (env.programs.helper before h info?).mapError .program with
  | some credential => .ok credential
  | none => .error .noCredential

/-- What counts of all that a user is known by. -/
inductive Source where
  /-- The provider. -/
  | provider (provider : Provider)
  /-- The name and the password, or the token. -/
  | inline
  /-- The file with the token. -/
  | tokenFile (path : String)
  /-- The program. -/
  | helper (helper : Helper)
  /-- There is nothing. -/
  | nothing

namespace User

/-- What counts of all that a user is known by. -/
def source (u : User) : Source :=
  match u.provider?, u.username?, u.password?, u.token?, u.tokenFile?, u.helper? with
  | some provider, _, _, _, _, _ => .provider provider
  | none, some _, some _, _, _, _ => .inline
  | none, _, _, some _, _, _ => .inline
  | none, _, _, none, some path, _ => .tokenFile path
  | none, _, _, none, none, some helper => .helper helper
  | none, _, _, none, none, none => .nothing

/-- Checks that what a user is known by is of use. -/
def checkCredentials (env : Environment) (info? : Option ClusterInfo) (u : User) :
    Except CredentialFault Unit :=
  match u.source with
  | .provider provider => provider.check env
  | .inline => .ok ()
  | .tokenFile path => if (env.textAt path).isSome then .ok () else .error (.noTokenFile path)
  | .helper helper => (helper.run env info? 0).map fun _ => ()
  | .nothing => .ok ()

/-! ## Certificates -/

/-- The certificate and the key that the program gives which counts for a user. -/
def givenIdentity? (env : Environment) (info? : Option ClusterInfo) (u : User) : Option (List UInt8) :=
  match u.source with
  | .helper helper =>
    ((helper.run env info? 1).toOption.bind Credential.identity?).map Text.encode
  | _ => none

/-- The certificate and the key of the user's own, where both can be read. -/
def ownIdentity? (env : Environment) (u : User) : Option (List UInt8) := do
  let certificate ← (← (env.bytesOf? u.certificateData? u.certificateFile?).toOption)
  let key ← (← (env.bytesOf? u.keyData? u.keyFile?).toOption)
  return key ++ certificate

/-- The certificate and the key of a user. -/
def identity? (env : Environment) (info? : Option ClusterInfo) (u : User) : Option (List UInt8) :=
  (u.givenIdentity? env info?).or (u.ownIdentity? env)

/-! ## Headers -/

/-- Whether a character may stand in a header. -/
def mayStandInHeader (c : Char) : Bool := (' ' ≤ c && c != '\x7f') || c == '\t'

/-- The users and groups whose part a user takes. -/
def parts (u : User) : List String := u.actsAs?.toList ++ u.actsAsGroups

/-- Whether the users and groups whose part a user takes can be named in headers. -/
def hasPlainParts (u : User) : Bool := u.parts.all fun part => part.toList.all mayStandInHeader

end User

end BackingServices.Cluster
