import BackingServices.Cluster.Program
import BackingServices.Cluster.Transport
import BackingServices.Config

/-!
# The environment

What a program finds around it: variables, files, the time, other programs, and what
secures the transport.

The kubeconfig is what the files give that the variable `KUBECONFIG` lists, or else
one file of the user's.  All of the files must be there.
-/

namespace BackingServices.Cluster

/-- What a program finds around it. -/
structure Environment where
  /-- The values of the variables that are set. -/
  lookup : Config.Lookup
  /-- The texts of the files that are there, by plain path. -/
  file : String → Option String
  /-- The seconds since the beginning of 1970. -/
  now : Int
  /-- The programs that give credentials. -/
  programs : Programs
  /-- What secures the transport. -/
  transport : Transport
  /-- What is wrong with the certificates of authorities that the system itself has. -/
  systemFault? : Option String

/-- A path and a name below it. -/
def joinPath (dir name : String) : String :=
  if dir.toList.getLast? = some '/' then dir ++ name else dir ++ "/" ++ name

/-- The names of a path without those that lead nowhere, which are empty ones and single dots.  The
first and the last name are kept. -/
def plainNames : List (List Char) → List (List Char)
  | [] => []
  | first :: rest =>
    first :: (rest.dropLast.filter fun name => name != [] && name != ['.']) ++ rest.getLast?.toList

/-- The plain form of a path. -/
def plainPath (path : String) : String :=
  String.ofList (['/'].intercalate (plainNames (path.toList.splitOn '/')))

/-- The paths that a list names, which has colons between them. -/
def listedPaths (list : String) : List String :=
  ((list.toList.splitOn ':').filter fun path => !path.isEmpty).map String.ofList

namespace Environment

/-- The text of the file at a path. -/
def textAt (env : Environment) (path : String) : Option String := env.file (plainPath path)

/-- The paths of the kubeconfigs that are listed. -/
def kubeconfigPaths (env : Environment) : List String :=
  match env.lookup "KUBECONFIG" with
  | some list => listedPaths list
  | none => []

/-- A text as bytes that end a line, unless there are none. -/
def endLine (bytes : List UInt8) : List UInt8 := if bytes.getLast?.any (· != 10) then bytes ++ [10] else bytes

/-- The bytes that are given in base64 or else in a file, if they are. -/
def bytesOf? (env : Environment) (data? file? : Option String) :
    Except Kubeconfig.DataFault (Option (List UInt8)) :=
  match data?, file? with
  | some data, _ =>
    ((Text.Base64.decode (Text.encode data)).mapError .badData).map fun bytes => some (endLine bytes)
  | none, some path =>
    match env.textAt path with
    | some text => .ok (some (endLine (Text.encode text)))
    | none => .error (.noFile path)
  | none, none => .ok none

/-- The kubeconfig in a file. -/
def kubeconfigAt (env : Environment) (path : String) : Except Kubeconfig.Fault Kubeconfig :=
  match env.textAt path with
  | some text => Kubeconfig.ofText path text
  | none => .error (.noFile path)

/-- The kubeconfig. -/
def kubeconfig (env : Environment) : Except Kubeconfig.Fault Kubeconfig :=
  match env.kubeconfigPaths with
  | [] =>
    match env.lookup "HOME" with
    | some home => env.kubeconfigAt (joinPath (joinPath home ".kube") "config")
    | none => .error .noPath
  | paths => Kubeconfig.mergeAll .empty (paths.map env.kubeconfigAt)

end Environment

end BackingServices.Cluster
