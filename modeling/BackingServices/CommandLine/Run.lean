import BackingServices.Cluster.Connection
import BackingServices.Cluster.Traffic
import BackingServices.CommandLine.Arguments
import BackingServices.CommandLine.LogFilter
import BackingServices.Preflight
import BackingServices.Provisioning
import BackingServices.Text.Terminal

/-!
# Running the program

The program reads its arguments and its configuration, connects to a cluster, checks
that the cluster serves Helm charts, and provisions the service.  A dry run is not
preceded by the check and prints manifests instead of applying charts.  The first of
these that fails ends the program.

What the program does is a dialogue with the API server.  Its ending says what is left
to print and whether all went well.
-/

namespace BackingServices.CommandLine

open Cluster (Answer Dialogue Environment Handle Server)

/-! ## Endings -/

/-- How the program ends. -/
structure Ending where
  /-- The number that it exits with. -/
  exit : Nat
  /-- What it prints. -/
  stdout : String
  /-- What it prints as a complaint. -/
  complaint : String
deriving DecidableEq

/-- A text whose lines but the first are indented. -/
def indented (margin : String) (s : String) : String :=
  s.toList.foldl (fun acc c => if c = '\n' then acc ++ "\n" ++ margin else acc.push c) ""

/-- The causes of a failure, each in a line; several are numbered. -/
def causesText : List String → String
  | [] => ""
  | [cause] => "\nCaused by:\n    " ++ indented "    " cause ++ "\n"
  | causes =>
    "\nCaused by:\n" ++ String.join (causes.zipIdx.map fun (cause, i) =>
      let number := toString i
      String.ofList (List.replicate (5 - number.length) ' ') ++ number ++ ": " ++
        indented "       " cause ++ "\n")

/-- What is printed of a failure and its causes, outermost first. -/
def failureText : List String → String
  | [] => ""
  | top :: causes => "Error: " ++ top ++ "\n" ++ causesText causes

namespace Ending

/-- The ending of a program that printed something. -/
def success (stdout : String) : Ending := ⟨0, stdout, ""⟩

/-- The ending of a program that failed for some causes. -/
def failure (stdout : String) (chain : List String) : Ending := ⟨1, stdout, failureText chain⟩

end Ending

/-! ## The stages -/

/-- Where the program's own events come from. -/
def programSource : String := programName

/-- An event of information of the program itself. -/
def programEvent (message : String) : Event := .plain .info programSource message

/-- What is logged of a configuration. -/
def configurationEvent (c : Config) : Event :=
  programEvent ("Configuration loaded: namespace_suffix=" ++ c.namespaceSuffix ++ ", registry=" ++
    c.policy.registryRoot ++ ", storage_class=" ++ c.policy.storageClass)

/-- What is logged of the broker's credentials. -/
def credentialsEvent (p : Policy) : Event :=
  programEvent ("Broker user " ++ p.brokerCredentials.username ++ ", generated password: " ++
    (if p.brokerCredentials.isGenerated then "true" else "false"))

/-- What is logged in the end. -/
def finalEvent (service : String) (p : Plan) : Event :=
  programEvent s!"Common services for {service} submitted to namespace {p.namespaceName}"

/-- The causes of a failure to provision a service. -/
def provisionChain (service : String) (e : ProvisionError) : List String :=
  s!"Failed to provision common services for {service}" :: e.chain

/-- The onboarding that the arguments ask for. -/
def onboarding (a : Arguments) (c : Config) (cluster : Handle) : Onboarding :=
  ⟨a.service, c.namespaceSuffix, some cluster⟩

/-- The ending of a dry run. -/
def dryRunEnding (service : String) (s : Stream) : Except Stop Plan → Dialogue Ending
  | .ok p => .log (finalEvent service p) (.done (.success (Text.decode s.held)))
  | .error (.failure e) => .done (.failure (Text.decode s.held) (provisionChain service e))
  | .error .breakdown => .done ⟨101, Text.decode s.held, ""⟩

/-- Provisions and prints the manifests. -/
def dryRun (a : Arguments) (c : Config) (random : RandomSource) (cluster : Handle) : Dialogue Ending :=
  ((Stream.installer .unlimited).provision c.policy random (onboarding a c cluster) .empty).bind
    fun (s, result) => dryRunEnding a.service s result

/-- Provisions through the API server. -/
def apply (a : Arguments) (c : Config) (random : RandomSource) (cluster : Handle) : Dialogue Ending :=
  (provision c.policy random (onboarding a c cluster)).bind fun
    | .ok p => .log (finalEvent a.service p) (.done (.success ""))
    | .error e => .done (.failure "" (provisionChain a.service e))

/-- Checks that the cluster serves Helm charts, if that is asked for. -/
def preflight (a : Arguments) : Dialogue (Except ProvisionError Unit) :=
  if a.dryRun || a.skipPreflight then .done (.ok ()) else Preflight.ensure

/-- What is done with a cluster that is connected to. -/
def withCluster (a : Arguments) (c : Config) (random : RandomSource) (cluster : Handle) :
    Dialogue Ending :=
  (preflight a).bind fun
    | .error e => .done (.failure "" e.chain)
    | .ok () =>
      .log (credentialsEvent c.policy)
        (if a.dryRun then dryRun a c random cluster else apply a c random cluster)

/-- What is done with a configuration. -/
def withConfig (a : Arguments) (env : Environment) (random : RandomSource) (c : Config) :
    Dialogue Ending :=
  .log (configurationEvent c)
    ((Cluster.connect env c.context?).bind fun
      | .error e => .done (.failure "" ("Failed to connect to cluster" :: e.chain))
      | .ok ⟨connection, cluster⟩ => (withCluster a c random cluster).logTraffic connection.server)

/-- What is done with the arguments of a run. -/
def execute (a : Arguments) (env : Environment) (random : RandomSource) : Dialogue Ending :=
  match Config.ofLookup env.lookup with
  | .error e => .done (.failure "" e.chain)
  | .ok c => withConfig a env random c

/-- What the program does. -/
def program (arguments : List String) (env : Environment) (random : RandomSource) : Dialogue Ending :=
  match Request.ofArguments arguments with
  | .run a => execute a env random
  | .help => .done (.success helpText)
  | .version => .done (.success versionText)
  | .refused e flags? => .done ⟨2, "", Text.withoutControl (refusalText e flags?)⟩

/-! ## What a run needs -/

/-- The variables that the program looks at. -/
def consultedVariables : List String :=
  ["NAMESPACE_SUFFIX", "KUBE_CONTEXT", "CHART_REGISTRY", "STORAGE_CLASS", "REDIS_CHART_VERSION",
    "MONGODB_CHART_VERSION", "RABBITMQ_CHART_VERSION", "RABBITMQ_GENERATED_PASSWORD",
    "RABBITMQ_USERNAME", "RABBITMQ_PASSWORD", "SECRET_LENGTH", "KUBECONFIG", "HOME", "RUST_LOG",
    "KUBERNETES_SERVICE_HOST", "KUBERNETES_SERVICE_PORT", "KUBE_RS_DEBUG_IMPERSONATE_USER",
    "KUBE_RS_DEBUG_IMPERSONATE_GROUP", "KUBE_RS_DEBUG_OVERRIDE_URL"] ++
    Cluster.Connection.proxyVariables

/-- The files that the program looks at, as far as the variables and the files that are known tell. -/
def consultedFiles (env : Environment) : List String :=
  let home := (env.lookup "HOME").toList.map fun home =>
    Cluster.joinPath (Cluster.joinPath home ".kube") "config"
  let kubeconfigs := env.kubeconfigPaths ++ home
  let named := kubeconfigs.flatMap fun path =>
    match env.kubeconfigAt path with
    | .ok k =>
      (k.clusters.filterMap fun (_, endpoint?) => endpoint?.bind Cluster.Endpoint.authorityFile?) ++
        (k.users.flatMap fun (_, user?) => user?.toList.flatMap fun u =>
          [u.tokenFile?, u.certificateFile?, u.keyFile?].filterMap id)
    | .error _ => []
  let service := ["namespace", "ca.crt", "token"].map (Cluster.Connection.serviceFolder ++ ·)
  (kubeconfigs ++ named ++ service).map Cluster.plainPath

/-- The greatest number of random bytes that the program draws. -/
def randomBytes : Nat := Secret.bytesFor maxSecretLength

/-! ## What is left of a run -/

/-- What the program prints and exits with. -/
structure Report where
  /-- The number that it exits with. -/
  exit : Nat
  /-- What it prints. -/
  stdout : String
  /-- What it prints beside that: the events in lines, and the complaint. -/
  stderr : String
deriving DecidableEq

/-- The report of a run whose events pass a filter. -/
def Report.of (filter : LogFilter) (r : Cluster.Dialogue.Run Ending) : Report where
  exit := r.result.exit
  stdout := r.result.stdout
  stderr := String.join ((filter.lines r.events).map (· ++ "\n")) ++ r.result.complaint

/-- A server that no network leads to. -/
def unreachable : Server := fun _ _ =>
  .broken "client error (Connect)" ["tcp connect error", "Network is unreachable (os error 101)"]

/-- Runs the program against a server. -/
def run (arguments : List String) (env : Environment) (random : RandomSource) (server : Server) :
    Report :=
  .of (.ofText (env.lookup "RUST_LOG")) ((program arguments env random).run server [])

end BackingServices.CommandLine
