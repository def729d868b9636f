import BackingServices.Cluster.Kubeconfig

/-!
# Programs that give credentials

A kubeconfig may name programs that give the credentials of a user: the program of a
helper, and the one whose path is a setting of a provider.  What such a program does is
not known here.  It may look at all that is around it, and may do something else each
time it is run.  So what it gives is data, or what is said of it if it gives nothing.
-/

namespace BackingServices.Cluster

/-- What a program is told of the cluster that it gives credentials for. -/
structure ClusterInfo where
  /-- The address of the API server. -/
  server? : Option String
  /-- Whether the server's own certificate is not verified. -/
  skipsVerification? : Option Bool
  /-- The certificates of its authority. -/
  authority? : Option (List UInt8)
  /-- The address of the proxy. -/
  proxy? : Option String
  /-- The name that the server's own certificate is for. -/
  serverName? : Option String
  /-- What only programs are told. -/
  notes? : Option Json
deriving DecidableEq

/-- What a program is told of an endpoint and the certificates of its authority. -/
def Endpoint.info (e : Endpoint) (authority? : Option (List UInt8)) : ClusterInfo :=
  ⟨e.server?, e.skipsVerification?, authority?, e.proxy?, e.serverName?, e.notes?⟩

/-- Why a program gives no credentials. -/
inductive ProgramFault where
  /-- It is not started. -/
  | notStarted (report : String)
  /-- It is started, and its ending or its answer is of no use. -/
  | failed (report : String)
deriving DecidableEq

/-- The certificate and the key among the credentials that a program gives. -/
structure Credential where
  /-- The certificate. -/
  certificate? : Option String
  /-- Its key. -/
  key? : Option String
deriving DecidableEq

/-- The certificate and the key of credentials that have both, in one text. -/
def Credential.identity? (c : Credential) : Option String := do
  return (← c.key?) ++ "\n" ++ (← c.certificate?) ++ "\n"

/-- What programs give. -/
structure Programs where
  /-- What the program of a helper gives when it was run so many times before, if its answer has
  credentials at all.  It may be told of a cluster. -/
  helper : Nat → Helper → Option ClusterInfo → Except ProgramFault (Option Credential)
  /-- Whether the program of a provider gives a token. -/
  provider : Provider → Except ProgramFault Unit

/-- What is said of a program that is not there, in the terms of the operating system. -/
def programNotFound : String := "Os \x7b code: 2, kind: NotFound, message: \"No such file or directory\" \x7d"

/-- Programs none of which is there. -/
def Programs.missing : Programs where
  helper _ _ _ := .error (.notStarted Kubeconfig.notFound)
  provider _ := .error (.notStarted programNotFound)

end BackingServices.Cluster
