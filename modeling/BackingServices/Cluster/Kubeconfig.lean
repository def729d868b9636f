import BackingServices.Text.Pem
import BackingServices.Uri
import BackingServices.Yaml.Schema

/-!
# Kubeconfigs

A kubeconfig names clusters, users and contexts.  A context is a cluster, a user and
a namespace, and one context is the current one.

Several kubeconfigs are merged.  What one of them says counts for all that come later:
its kind, its version, its current context, and every name that it gives to a cluster,
a user or a context.  Where one of them gives the same name twice, the first counts.
They cannot be merged if they have different kinds or different versions.

A file is a stream of YAML documents, which are merged like files are.  All of them are
read before any are merged, and one byte order mark may stand before them.
-/

namespace BackingServices.Cluster

/-! ## What a kubeconfig says -/

/-- Where a cluster is and how it is trusted. -/
structure Endpoint where
  /-- The address of its API server. -/
  server? : Option String
  /-- The file that holds the certificate of its authority. -/
  authorityFile? : Option String
  /-- The certificate of its authority in base64. -/
  authorityData? : Option String
  /-- The address of the proxy it is reached by. -/
  proxy? : Option String
  /-- The name that its own certificate is for, if that is not the name in its address. -/
  serverName? : Option String
  /-- Whether its own certificate is not verified. -/
  skipsVerification? : Option Bool
  /-- What only the programs that give credentials are told of it. -/
  notes? : Option Json
deriving DecidableEq

/-- A provider of credentials. -/
structure Provider where
  /-- Its name. -/
  name : String
  /-- Its settings. -/
  settings : List (String × String)
deriving DecidableEq

/-- A program that gives credentials. -/
structure Helper where
  /-- The version of what it is told and what it answers. -/
  version? : Option String
  /-- The command that runs it. -/
  command? : Option String
  /-- The arguments of the command. -/
  arguments : List String
  /-- The variables that are set for it. -/
  assignments : List (String × String)
  /-- Whether it may ask a person, in a word. -/
  mode? : Option String
  /-- Whether it is told about the cluster. -/
  knowsCluster : Bool
deriving DecidableEq

/-- What a user is known by. -/
structure User where
  /-- The name. -/
  username? : Option String
  /-- The password. -/
  password? : Option String
  /-- The token. -/
  token? : Option String
  /-- The file that holds the token. -/
  tokenFile? : Option String
  /-- The file that holds the user's certificate. -/
  certificateFile? : Option String
  /-- The user's certificate in base64. -/
  certificateData? : Option String
  /-- The file that holds the key of the certificate. -/
  keyFile? : Option String
  /-- The key of the certificate in base64. -/
  keyData? : Option String
  /-- The user whose part this one takes. -/
  actsAs? : Option String
  /-- The groups whose part this user takes. -/
  actsAsGroups : List String
  /-- The provider of the credentials. -/
  provider? : Option Provider
  /-- The program that gives the credentials. -/
  helper? : Option Helper
deriving DecidableEq

/-- The user that nothing is known of. -/
def User.anonymous : User :=
  ⟨none, none, none, none, none, none, none, none, none, [], none, none⟩

/-- A context. -/
structure Context where
  /-- The name of its cluster. -/
  cluster : String
  /-- The name of its user. -/
  user? : Option String
  /-- Its namespace. -/
  namespaceName? : Option String
deriving DecidableEq

/-- A kubeconfig.  A name may stand for nothing. -/
structure Kubeconfig where
  /-- The kind of the document. -/
  kind? : Option String
  /-- The version of the document. -/
  version? : Option String
  /-- The name of the current context. -/
  current? : Option String
  /-- The clusters by name. -/
  clusters : List (String × Option Endpoint)
  /-- The users by name. -/
  users : List (String × Option User)
  /-- The contexts by name. -/
  contexts : List (String × Option Context)
deriving DecidableEq

namespace Kubeconfig

/-- A kubeconfig that says nothing. -/
def empty : Kubeconfig := ⟨none, none, none, [], [], []⟩

/-- What a name stands for in a list, where the first entry of a name counts. -/
def find? {α : Type} (name : String) (entries : List (String × Option α)) : Option α :=
  (entries.lookup name).bind id

/-! ## Merging -/

/-- Why kubeconfigs are not merged. -/
inductive Mismatch where
  /-- They have different kinds. -/
  | kind
  /-- They have different versions. -/
  | version
deriving DecidableEq

/-- Whether two texts are there and differ. -/
def differ : Option String → Option String → Bool
  | some a, some b => a != b
  | _, _ => false

/-- The entries of a list, and those of another one whose names are new. -/
def appendNew {α : Type} (base next : List (String × α)) : List (String × α) :=
  base ++ next.filter fun entry => !(base.any fun old => old.1 == entry.1)

/-- One kubeconfig and then another. -/
def merge (a b : Kubeconfig) : Except Mismatch Kubeconfig :=
  if differ a.kind? b.kind? then .error .kind
  else if differ a.version? b.version? then .error .version
  else .ok {
    kind? := a.kind?.or b.kind?
    version? := a.version?.or b.version?
    current? := a.current?.or b.current?
    clusters := appendNew a.clusters b.clusters
    users := appendNew a.users b.users
    contexts := appendNew a.contexts b.contexts }

/-! ## Documents -/

/-- A field that may be missing or null. -/
def optionalField (name : String) (schema : Schema) (rest : Fields) : Fields :=
  .cons name (.absent .null) (.optional schema) rest

/-- Optional fields of one schema. -/
def optionalFields (names : List String) (schema : Schema) (rest : Fields) : Fields :=
  names.foldr (fun name acc => optionalField name schema acc) rest

/-- A list that may be missing or null. -/
def listField (name : String) (schema : Schema) (rest : Fields) : Fields :=
  .cons name (.absent (.array [])) (.optional (.list schema)) rest

/-- Extensions by name. -/
def extensionSchema : Schema :=
  .record .entry "NamedExtension" (.cons "name" .required .text (.cons "extension" .required .anything .nil))

/-- The field of the extensions. -/
def extensionsField (rest : Fields) : Fields := optionalField "extensions" (.list extensionSchema) rest

/-- A named entry. -/
def namedSchema (record field : String) (schema : Schema) : Schema :=
  .record .entry record (.cons "name" .required .text (optionalField field schema .nil))

/-- A cluster. -/
def endpointSchema : Schema :=
  .record .entry "Cluster"
    (optionalFields ["server", "certificate-authority", "certificate-authority-data", "proxy-url",
        "tls-server-name"] .text
      (optionalFields ["insecure-skip-tls-verify", "disable-compression"] .flag (extensionsField .nil)))

/-- A program that gives the credentials of a user. -/
def programSchema : Schema :=
  .record .entry "ExecConfig"
    (optionalFields ["apiVersion", "command"] .text
      (optionalField "args" (.list .text)
        (optionalField "env" (.list (.dictionary .text))
          (optionalField "interactiveMode" (.choice ["Never", "IfAvailable", "Always"])
            (.cons "provideClusterInfo" (.absent (.bool false)) .flag .nil)))))

/-- A provider of the credentials of a user. -/
def providerSchema : Schema :=
  .record .entry "AuthProviderConfig"
    (.cons "name" .required .text (optionalField "config" (.dictionary .text) .nil))

/-- What a user is known by. -/
def userSchema : Schema :=
  .record .entry "AuthInfo"
    (optionalFields ["username", "password", "token", "tokenFile", "client-certificate",
        "client-certificate-data", "client-key", "client-key-data", "as"] .text
      (optionalField "as-groups" (.list .text)
        (optionalField "auth-provider" providerSchema (optionalField "exec" programSchema .nil))))

/-- A context. -/
def contextSchema : Schema :=
  .record .entry "Context"
    (.cons "cluster" .required .text (optionalFields ["user", "namespace"] .text (extensionsField .nil)))

/-- The preferences of a user interface. -/
def preferencesSchema : Schema :=
  .record .entry "Preferences" (optionalField "colors" .flag (extensionsField .nil))

/-- What the documents of kubeconfigs look like. -/
def schema : Schema :=
  .record .entry "Kubeconfig"
    (optionalField "preferences" preferencesSchema
      (listField "clusters" (namedSchema "NamedCluster" "cluster" endpointSchema)
        (listField "users" (namedSchema "NamedAuthInfo" "user" userSchema)
          (listField "contexts" (namedSchema "NamedContext" "context" contextSchema)
            (optionalFields ["current-context", "kind", "apiVersion"] .text (extensionsField .nil))))))

/-- The text of a field. -/
def text? (v : Json) (key : String) : Option String := (v.get? key).bind Json.text?

/-- The truth value of a field. -/
def flag? (v : Json) (key : String) : Option Bool :=
  match v.get? key with
  | some (.bool b) => some b
  | _ => none

/-- The name of the extension with what programs are told of a cluster. -/
def notesExtension : String := "client.authentication.k8s.io/exec"

/-- What the first extension of a name holds. -/
def extension? (v : Json) (name : String) : Option Json :=
  match v.get? "extensions" with
  | some (.array items) =>
    (items.find? fun item => text? item "name" == some name).bind fun item => item.get? "extension"
  | _ => none

/-- The named entries of a field. -/
def entries {α : Type} (v : Json) (key field : String) (read : Json → α) : List (String × Option α) :=
  match v.get? key with
  | some (.array items) => items.map fun item => ((text? item "name").getD "", (item.get? field).map read)
  | _ => []

/-- The cluster in a document of its schema. -/
def endpoint (v : Json) : Endpoint where
  server? := text? v "server"
  authorityFile? := text? v "certificate-authority"
  authorityData? := text? v "certificate-authority-data"
  proxy? := text? v "proxy-url"
  serverName? := text? v "tls-server-name"
  skipsVerification? := flag? v "insecure-skip-tls-verify"
  notes? := extension? v notesExtension

/-- The texts of a list. -/
def texts (v : Json) (key : String) : List String :=
  match v.get? key with
  | some (.array items) => items.filterMap Json.text?
  | _ => []

/-- The texts by key of a dictionary. -/
def dictionary (v : Json) (key : String) : List (String × String) :=
  match v.get? key with
  | some (.object members) => members.filterMap fun (k, v) => v.text?.map (k, ·)
  | _ => []

/-- The provider in a document of its schema. -/
def provider (v : Json) : Provider := ⟨(text? v "name").getD "", dictionary v "config"⟩

/-- The variables that entries give with both their names and their values. -/
def assignments (v : Json) (key : String) : List (String × String) :=
  match v.get? key with
  | some (.array items) => items.filterMap fun item => do
    return (← text? item "name", ← text? item "value")
  | _ => []

/-- The program in a document of its schema. -/
def helper (v : Json) : Helper where
  version? := text? v "apiVersion"
  command? := text? v "command"
  arguments := texts v "args"
  assignments := assignments v "env"
  mode? := text? v "interactiveMode"
  knowsCluster := (flag? v "provideClusterInfo").getD false

/-- The user in a document of its schema. -/
def user (v : Json) : User where
  username? := text? v "username"
  password? := text? v "password"
  token? := text? v "token"
  tokenFile? := text? v "tokenFile"
  certificateFile? := text? v "client-certificate"
  certificateData? := text? v "client-certificate-data"
  keyFile? := text? v "client-key"
  keyData? := text? v "client-key-data"
  actsAs? := text? v "as"
  actsAsGroups := texts v "as-groups"
  provider? := (v.get? "auth-provider").map provider
  helper? := (v.get? "exec").map helper

/-- The context in a document of its schema. -/
def context (v : Json) : Context where
  cluster := (text? v "cluster").getD ""
  user? := text? v "user"
  namespaceName? := text? v "namespace"

/-- The kubeconfig in a document of its schema. -/
def ofNormal (v : Json) : Kubeconfig where
  kind? := text? v "kind"
  version? := text? v "apiVersion"
  current? := text? v "current-context"
  clusters := entries v "clusters" "cluster" endpoint
  users := entries v "users" "user" user
  contexts := entries v "contexts" "context" context

/-! ## Files -/

/-- Why bytes that are given in base64 or in a file are not there. -/
inductive DataFault where
  /-- They are not in base64. -/
  | badData (fault : Text.Base64.Fault)
  /-- The file is not there. -/
  | noFile (path : String)

/-- What is said of a file that is not there. -/
def notFound : String := "No such file or directory (os error 2)"

/-- The causes of a fault, outermost first. -/
def DataFault.causes : DataFault → List String
  | .badData fault => ["failed to decode base64-encoded data: " ++ fault.message, fault.message]
  | .noFile path => ["failed to read file '" ++ Text.quoted path ++ "': " ++ notFound, notFound]

/-- Why there is no kubeconfig, or none that leads to a cluster. -/
inductive Fault where
  /-- It is not known where the file would be. -/
  | noPath
  /-- There is no such file. -/
  | noFile (path : String)
  /-- The file is no YAML stream. -/
  | notYaml (fault : Yaml.Fault)
  /-- A document is no kubeconfig. -/
  | badStructure (error : DecodeError)
  /-- Two kubeconfigs cannot be merged. -/
  | mismatch (how : Mismatch)
  /-- There is no current context. -/
  | noContext
  /-- The context is not there. -/
  | unknownContext (name : String)
  /-- The cluster of the context is not there. -/
  | unknownCluster (name : String)
  /-- The cluster has no address. -/
  | noServer
  /-- The address of the cluster is no URI. -/
  | badServer (error : UriError)
  /-- The certificate of the authority is not there. -/
  | noAuthority (fault : DataFault)
  /-- The certificate of the authority is not well formed. -/
  | badCertificate (fault : Text.Pem.Fault)
  /-- The address of the proxy is no URI. -/
  | badProxy (error : UriError)

/-- The wording of a fault. -/
def Fault.message : Fault → String
  | .noPath => "failed to find the path of kubeconfig"
  | .noFile path => "failed to read kubeconfig from '" ++ Text.quoted path ++ "': " ++ notFound
  | .notYaml fault => "failed to parse kubeconfig YAML: " ++ fault.message
  | .badStructure error =>
    "the structure of the parsed kubeconfig is invalid: " ++ error.message Wording.yaml
  | .mismatch .kind => "kubeconfigs with mismatching kind cannot be merged"
  | .mismatch .version => "kubeconfigs with mismatching api version cannot be merged"
  | .noContext => "failed to determine current context"
  | .unknownContext name => "failed to load current context: " ++ name
  | .unknownCluster name => "failed to load the cluster of context: " ++ name
  | .noServer => "cluster url is missing on selected cluster"
  | .badServer error => "failed to parse cluster url: " ++ error.message
  | .noAuthority _ => "failed to load certificate authority"
  | .badCertificate fault => "failed to parse PEM-encoded certificates: " ++ fault.message
  | .badProxy error => "failed to parse proxy url: " ++ error.message

/-- The causes of a fault, outermost first. -/
def Fault.causes : Fault → List String
  | .noFile _ => [notFound]
  | .notYaml fault => [fault.message]
  | .badStructure error => [error.message Wording.yaml]
  | .badServer error | .badProxy error => [error.message]
  | .noAuthority fault => fault.causes
  | .badCertificate (.data fault) => [(Text.Pem.Fault.data fault).message, fault.message]
  | .badCertificate (.notText fault) => [(Text.Pem.Fault.notText fault).message, fault.message]
  | .badCertificate fault => [fault.message]
  | _ => []

/-- The folder of a path, with the slash at its end. -/
def folder (path : String) : String :=
  String.ofList (path.toList.reverse.dropWhile (· != '/')).reverse

/-- A path below a folder, unless it begins at the root. -/
def below (dir path : String) : String := if path.toList.head? = some '/' then path else dir ++ path

/-- The kubeconfig with its paths below a folder. -/
def locate (dir : String) (k : Kubeconfig) : Kubeconfig :=
  { k with
    clusters := k.clusters.map fun (name, endpoint?) =>
      (name, endpoint?.map fun e => { e with authorityFile? := e.authorityFile?.map (below dir) })
    users := k.users.map fun (name, user?) =>
      (name, user?.map fun u => { u with
        tokenFile? := u.tokenFile?.map (below dir)
        certificateFile? := u.certificateFile?.map (below dir)
        keyFile? := u.keyFile?.map (below dir) }) }

/-- Merges kubeconfigs that are known or not from the first on; the first fault counts. -/
def mergeAll (first : Kubeconfig) : List (Except Fault Kubeconfig) → Except Fault Kubeconfig
  | [] => .ok first
  | .error fault :: _ => .error fault
  | .ok next :: rest =>
    match first.merge next with
    | .error how => .error (.mismatch how)
    | .ok merged => mergeAll merged rest

/-- The kubeconfig in a document. -/
def ofDocument (document : Except Yaml.Fault Yaml.Value) : Except Fault Kubeconfig := do
  let value ← document.mapError .notYaml
  .ok (ofNormal (← (schema.readYaml value).mapError .badStructure))

/-- The kubeconfig that documents give together. -/
def ofDocuments (dir : String) (documents : List (Except Yaml.Fault Yaml.Value)) :
    Except Fault Kubeconfig := do
  let configs ← documents.mapM ofDocument
  mergeAll empty (configs.map fun k => .ok (k.locate dir))

/-- A text without the byte order mark before it. -/
def unmarked (text : String) : String :=
  match text.toList with
  | '\uFEFF' :: cs => String.ofList cs
  | _ => text

/-- The kubeconfig in the text of a file. -/
def ofText (path text : String) : Except Fault Kubeconfig :=
  ofDocuments (folder path) (Yaml.documents (unmarked text))

end Kubeconfig

end BackingServices.Cluster
