import BackingServices.Cluster.Credentials
import BackingServices.Cluster.Dialogue
import BackingServices.Cluster.Handle
import BackingServices.Error
import BackingServices.Url.Address

/-!
# Connections

How a cluster is found.  With a name of a context, it is that context of the
kubeconfig and nothing else.  Without one it is the current context of the kubeconfig,
or, if that leads nowhere, the cluster whose service this program runs in.  Only in the
second case variables may put another address, another user or other groups in place
of those that were found.

What is found is checked before it is used, in this order: the proxy, which is refused
because none of the protocols is supported, the credentials of the user, the
certificates of the authority, the user's own certificate, the name that the server's
certificate is for, and the names that are put into headers.
-/

namespace BackingServices.Cluster

/-! ## Connections -/

/-- How a cluster is reached. -/
structure Connection where
  /-- The address of its API server. -/
  server : Uri
  /-- The namespace that is meant if none is named. -/
  defaultNamespace : String
  /-- The address of the proxy. -/
  proxy? : Option Uri
  /-- The user. -/
  user : User
  /-- The certificates of the authority, unless those of the system count. -/
  certificates? : Option (List (List UInt8))
  /-- The name that the server's certificate is for, if that is not the name in its address. -/
  serverName? : Option String
  /-- Whether the server's certificate is not verified. -/
  skipsVerification : Bool
  /-- What the program is told of the cluster that gives the user's credentials. -/
  info? : Option ClusterInfo
deriving DecidableEq

namespace Connection

/-- The bytes of the authority's certificates, if there are any. -/
def authorityBytes? (env : Environment) (e : Endpoint) : Except Kubeconfig.Fault (Option (List UInt8)) :=
  (env.bytesOf? e.authorityData? e.authorityFile?).mapError .noAuthority

/-- The certificates among the blocks in some bytes. -/
def certificatesIn (bytes : List UInt8) : Except Text.Pem.Fault (List (List UInt8)) := do
  let blocks ← Text.Pem.read bytes
  .ok ((blocks.filter (·.tag == "CERTIFICATE")).map Text.Pem.contents)

/-- The certificates of the authority, if it has any. -/
def readCertificates (env : Environment) (e : Endpoint) :
    Except Kubeconfig.Fault (Option (List (List UInt8))) := do
  match ← authorityBytes? env e with
  | some bytes => ((certificatesIn bytes).mapError .badCertificate).map some
  | none => .ok none

/-- What the program is told of a cluster that gives a user's credentials. -/
def readInfo (env : Environment) (e : Endpoint) (u : User) :
    Except Kubeconfig.Fault (Option ClusterInfo) :=
  if u.helper?.any Helper.knowsCluster then (authorityBytes? env e).map fun bytes? => some (e.info bytes?)
  else .ok none

/-- The variables that may give the address of a proxy, in the order in which they count. -/
def proxyVariables : List String := ["HTTPS_PROXY", "https_proxy"]

/-- The address of the proxy. -/
def readProxy (env : Environment) (e : Endpoint) : Except Kubeconfig.Fault (Option Uri) :=
  match (e.proxy? :: proxyVariables.map env.lookup).findSome? Config.nonEmpty with
  | none => .ok none
  | some text =>
    match Uri.parse text with
    | .ok uri => .ok (some uri)
    | .error error => .error (.badProxy error)

/-- The namespace that is meant if a context has none. -/
def standardNamespace : String := "default"

/-- The name of a context, which is that of the current one if none is given. -/
def contextName (k : Kubeconfig) : Option String → Except Kubeconfig.Fault String
  | some name => .ok name
  | none =>
    match k.current? with
    | some name => .ok name
    | none => .error .noContext

/-- The address of a cluster. -/
def readServer (e : Endpoint) : Except Kubeconfig.Fault Uri :=
  match e.server? with
  | none => .error .noServer
  | some text => (Uri.parse text).mapError .badServer

/-- The user of a context, of whom nothing is known if there is no such user. -/
def userOf (k : Kubeconfig) (context : Context) : User :=
  (context.user?.bind fun name => Kubeconfig.find? name k.users).getD .anonymous

/-- The connection to the cluster of a context, or of the current one. -/
def ofContext (env : Environment) (k : Kubeconfig) (name? : Option String) :
    Except Kubeconfig.Fault Connection := do
  let name ← contextName k name?
  match Kubeconfig.find? name k.contexts with
  | none => .error (.unknownContext name)
  | some context =>
    match Kubeconfig.find? context.cluster k.clusters with
    | none => .error (.unknownCluster context.cluster)
    | some endpoint => do
      let user := userOf k context
      let info? ← readInfo env endpoint user
      let server ← readServer endpoint
      let certificates? ← readCertificates env endpoint
      let proxy? ← readProxy env endpoint
      .ok ⟨server, context.namespaceName?.getD standardNamespace, proxy?, user, certificates?,
        endpoint.serverName?, endpoint.skipsVerification?.getD false, info?⟩

/-- The connection to the cluster of a context of the environment's kubeconfig. -/
def ofKubeconfig (env : Environment) (name? : Option String) : Except Kubeconfig.Fault Connection := do
  ofContext env (← env.kubeconfig) name?

/-! ## Inside a cluster -/

/-- Why there is no cluster around the program. -/
inductive ServiceFault where
  /-- A variable with its address is not set. -/
  | noVariable
  /-- The port is no number. -/
  | badPort (fault : NumberFault)
  /-- The address is no URI. -/
  | badServer (error : UriError)
  /-- The namespace is not there. -/
  | noNamespace
  /-- The certificate of the authority is not there. -/
  | noAuthority
  /-- The certificate of the authority is not well formed. -/
  | badCertificate (fault : Text.Pem.Fault)

/-- The wording of a fault. -/
def ServiceFault.message : ServiceFault → String
  | .noVariable => "failed to read an incluster environment variable: environment variable not found"
  | .badPort fault => "failed to parse cluster port: " ++ fault.message
  | .badServer error => "failed to parse cluster url: " ++ error.message
  | .noNamespace => "failed to read the default namespace: " ++ Kubeconfig.notFound
  | .noAuthority => "failed to read a certificate bundle: " ++ Kubeconfig.notFound
  | .badCertificate fault => "failed to parse PEM-encoded certificates: " ++ fault.message

/-- The folder of the files about the service. -/
def serviceFolder : String := "/var/run/secrets/kubernetes.io/serviceaccount/"

/-- The greatest port. -/
def greatestPort : Nat := 65535

/-- The address of a host and a port.  An IPv6 address stands in brackets, and the standard port is
left out. -/
def serviceAddress (host : String) (port : Nat) : String :=
  let host := if (Url.ipv6? host.toList).isSome then "[" ++ host ++ "]" else host
  "https://" ++ host ++ (if port = 443 then "" else ":" ++ toString port)

/-- The user that a program inside a cluster is. -/
def serviceUser : User := { User.anonymous with tokenFile? := some (serviceFolder ++ "token") }

/-- The connection to the cluster around the program. -/
def ofService (env : Environment) : Except ServiceFault Connection := do
  match env.lookup "KUBERNETES_SERVICE_HOST", env.lookup "KUBERNETES_SERVICE_PORT" with
  | some host, some port => do
    let port ← (readNumber greatestPort port).mapError .badPort
    let server ← (Uri.parse (serviceAddress host port)).mapError .badServer
    match env.file (serviceFolder ++ "namespace"), env.file (serviceFolder ++ "ca.crt") with
    | none, _ => .error .noNamespace
    | some _, none => .error .noAuthority
    | some name, some text => do
      let certificates ← (certificatesIn (Text.encode text)).mapError .badCertificate
      .ok ⟨server, name, none, serviceUser, some certificates, none, false, none⟩
  | _, _ => .error .noVariable

/-! ## Finding a cluster -/

/-- Why there is no connection. -/
inductive Fault where
  /-- A named context leads nowhere. -/
  | named (context : String) (fault : Kubeconfig.Fault)
  /-- Neither the kubeconfig nor a cluster around the program leads anywhere. -/
  | notInferred (service : ServiceFault) (kubeconfig : Kubeconfig.Fault)
  /-- The proxy has a protocol that is switched off. -/
  | proxyOff (proxy : Uri) (feature : String)
  /-- The proxy has an unknown protocol. -/
  | proxyUnknown (proxy : Uri)
  /-- The credentials of the user are of no use. -/
  | credentials (fault : CredentialFault)
  /-- The transport cannot be secured. -/
  | transport (report : String)
  /-- A name cannot be put into a header. -/
  | badHeader

/-- The wording of a fault. -/
def Fault.message : Fault → String
  | .named context fault => "Failed to load context " ++ context ++ ": " ++ fault.message
  | .notInferred service kubeconfig =>
    "Failed to infer config: failed to infer config: in-cluster: (" ++ service.message ++
      "), kubeconfig: (" ++ kubeconfig.message ++ ")"
  | .proxyOff proxy feature =>
    "Failed to create client: configured proxy " ++ proxy.text ++ " requires the disabled feature " ++
      Text.quoted feature
  | .proxyUnknown proxy =>
    "Failed to create client: configured proxy " ++ proxy.text ++ " uses an unsupported protocol"
  | .credentials fault => "Failed to create client: auth error: " ++ fault.message
  | .transport report => "Failed to create client: rustls tls error: " ++ report
  | .badHeader => "Failed to create client: HttpError: failed to parse header value"

/-- Where the events about finding a cluster come from. -/
def configSource : String := "kube_client::config"

/-- The event of a kubeconfig that leads nowhere. -/
def fallbackEvent (fault : Kubeconfig.Fault) : Event :=
  let sources : List Field := match fault.causes with
    | [] => []
    | causes => [⟨"error.sources", .shown ("[" ++ ", ".intercalate causes ++ "]")⟩]
  ⟨.trace, [], configSource, "no local config found, falling back to local in-cluster config",
    ⟨"error", .shown fault.message⟩ :: sources⟩

/-! ## Replacing what was found -/

/-- A warning with some fields. -/
def warning (message : String) (fields : List Field) : Event := ⟨.warn, [], configSource, message, fields⟩

/-- The connection with another user whose part is taken, if the environment names one. -/
def replaceUser (env : Environment) (c : Connection) : Connection × List Event :=
  match env.lookup "KUBE_RS_DEBUG_IMPERSONATE_USER" with
  | none => (c, [])
  | some user =>
    ({ c with user := { c.user with actsAs? := some user } },
      [warning "impersonating user" [⟨"impersonate_user", .text user⟩]])

/-- The connection with other groups whose part is taken, if the environment names some. -/
def replaceGroups (env : Environment) (c : Connection) : Connection × List Event :=
  match env.lookup "KUBE_RS_DEBUG_IMPERSONATE_GROUP" with
  | none => (c, [])
  | some list =>
    let groups := (list.toList.splitOn ',').map String.ofList
    ({ c with user := { c.user with actsAsGroups := groups } },
      [warning "impersonating groups"
        [⟨"impersonate_groups", .shown (DebugText.sequence "" (groups.map .quoted)).plain⟩]])

/-- The connection with another address, if the environment has one. -/
def replaceServer (env : Environment) (c : Connection) : Connection × List Event :=
  match env.lookup "KUBE_RS_DEBUG_OVERRIDE_URL" with
  | none => (c, [])
  | some text =>
    let url : Field := ⟨"url", .text text⟩
    let replacing := warning "overriding cluster URL" [url]
    match Uri.parse text with
    | .ok server => ({ c with server }, [replacing])
    | .error error =>
      (c, [replacing, warning "failed to parse override cluster URL, ignoring"
        [url, ⟨"error", .shown error.message⟩]])

/-- The connection with all that the environment puts in place of what was found, and the warnings. -/
def replace (env : Environment) (c : Connection) : Connection × List Event :=
  let (c, users) := c.replaceUser env
  let (c, groups) := c.replaceGroups env
  let (c, servers) := c.replaceServer env
  (c, users ++ groups ++ servers)

/-! ## Checking what was found -/

/-- Checks that there is no proxy. -/
def checkProxy (c : Connection) : Except Fault Unit :=
  match c.proxy? with
  | none => .ok ()
  | some proxy =>
    match proxy.scheme? with
    | some "socks5" => .error (.proxyOff proxy "kube/socks5")
    | some "http" => .error (.proxyOff proxy "kube/http-proxy")
    | _ => .error (.proxyUnknown proxy)

/-- What is wrong with the certificates of the authority, which are the system's if there are no others. -/
def authorityFault? (env : Environment) (c : Connection) : Option String :=
  match c.certificates? with
  | none => env.systemFault?
  | some certificates =>
    (certificates.findSome? env.transport.authorityFault?).map ("failed to add a root certificate: " ++ ·)

/-- What is wrong with the user's certificate and its key. -/
def identityFault? (env : Environment) (c : Connection) : Option String :=
  (c.user.identity? env c.info?).bind env.transport.identityFault?

/-- What is wrong with the name that the server's certificate is for. -/
def nameFault? (env : Environment) (c : Connection) : Option String :=
  (c.serverName?.bind env.transport.nameFault?).map ("invalid server name: " ++ ·)

/-- Checks that the transport can be secured. -/
def checkTransport (env : Environment) (c : Connection) : Except Fault Unit :=
  match [c.authorityFault? env, c.identityFault? env, c.nameFault? env].findSome? id with
  | some report => .error (.transport report)
  | none => .ok ()

/-- Checks that a connection can be used. -/
def check (env : Environment) (c : Connection) : Except Fault Unit := do
  c.checkProxy
  (c.user.checkCredentials env c.info?).mapError .credentials
  c.checkTransport env
  if !c.user.hasPlainParts then .error .badHeader

/-- The handle of a connection, named by its context or else by its address. -/
def handle (c : Connection) (name? : Option String) : Handle := ⟨name?.getD c.server.text, c.defaultNamespace⟩

end Connection

/-! ## Connecting -/

/-- Where the events about connecting come from. -/
def connectSource : String := "quartermaster::kubernetes::client"

/-- The span in which a cluster is connected to. -/
def connectSpan (context? : Option String) : Span :=
  ⟨"create_cluster_handle", [⟨"context", .shown (DebugText.option (context?.map .quoted)).plain⟩], .info,
    connectSource⟩

/-- A connection and its handle. -/
structure Connected where
  /-- The connection. -/
  connection : Connection
  /-- The handle. -/
  handle : Handle
deriving DecidableEq

/-- What comes of a connection that is found: it is checked and gets a handle. -/
def connectTo (env : Environment) (context? : Option String) (c : Connection) :
    Dialogue (Except ProvisionError Connected) :=
  match c.check env with
  | .error fault => .done (.error (.connection fault.message))
  | .ok () =>
    let handle := c.handle context?
    .log (.plain .info connectSource ("Using cluster " ++ handle.name)) (.done (.ok ⟨c, handle⟩))

/-- The connection without a named context. -/
def infer (env : Environment) : Dialogue (Except Connection.Fault Connection) :=
  match Connection.ofKubeconfig env none with
  | .ok c => .done (.ok c)
  | .error fault =>
    .log (Connection.fallbackEvent fault)
      (.done ((Connection.ofService env).mapError fun service => .notInferred service fault))

/-- Connects to the cluster of a named context, or else to the one that is inferred. -/
def connect (env : Environment) (context? : Option String) :
    Dialogue (Except ProvisionError Connected) :=
  .within (connectSpan context?)
    (match context? with
    | some name =>
      .log (.plain .debug connectSource ("Loading kubeconfig context " ++ name))
        (match Connection.ofKubeconfig env (some name) with
        | .error fault => .done (.error (.connection (Connection.Fault.named name fault).message))
        | .ok c => connectTo env (some name) c)
    | none =>
      (infer env).bind fun
        | .error fault => .done (.error (.connection fault.message))
        | .ok c =>
          let (c, events) := c.replace env
          .logAll events (connectTo env none c))

end BackingServices.Cluster
