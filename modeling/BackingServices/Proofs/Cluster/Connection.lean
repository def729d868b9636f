import BackingServices.Cluster.Connection
import BackingServices.Proofs.Cluster.Kubeconfig
import BackingServices.Proofs.Yaml.Building

/-!
# Named contexts

With a named context, neither the current contexts of the kubeconfigs nor the variables that count
without one make a difference (`connect_alike`), as long as what is read besides the kubeconfigs is the
same (`Environment.SameBesides`).  It is not the same if a kubeconfig is itself the file with the
certificates of the authority, or if a program that gives credentials looks at such a variable
(`connect_tells_current`).  The cluster is that of the first file that has the context, and if there is no
such file, there is no connection (`connect_named`).
-/

namespace BackingServices.Cluster

/-! ## Alike environments -/

/-- The variables that count only if no context is named. -/
def inferringVariables : List String :=
  ["KUBERNETES_SERVICE_HOST", "KUBERNETES_SERVICE_PORT", "KUBE_RS_DEBUG_OVERRIDE_URL"]

namespace Environment

/-- Two environments differ in these variables and in the current contexts of files only.  What comes of
them outside may differ too: what programs give, and what is wrong with the certificates of the system. -/
structure Alike (env env' : Environment) : Prop where
  lookup : ∀ name, name ∉ inferringVariables → env.lookup name = env'.lookup name
  now : env.now = env'.now
  transport : env.transport = env'.transport
  file : ∀ path, Option.Rel Kubeconfig.AlikeText (env.file path) (env'.file path)

variable {env env' : Environment}

theorem Alike.kubeconfigPaths (h : env.Alike env') : env.kubeconfigPaths = env'.kubeconfigPaths := by
  rw [Environment.kubeconfigPaths, Environment.kubeconfigPaths, h.lookup "KUBECONFIG" (by decide)]

theorem Alike.textAt_isSome (h : env.Alike env') (path : String) :
    (env.textAt path).isSome = (env'.textAt path).isSome := by
  rw [textAt, textAt]
  have hfile := h.file (plainPath path)
  generalize env.file (plainPath path) = text at hfile ⊢
  generalize env'.file (plainPath path) = text' at hfile ⊢
  cases hfile with
  | none => rfl
  | some => rfl

theorem Alike.kubeconfigAt (h : env.Alike env') (path : String) :
    Kubeconfig.Alike (env.kubeconfigAt path) (env'.kubeconfigAt path) := by
  rw [Environment.kubeconfigAt, Environment.kubeconfigAt, textAt, textAt]
  have hfile := h.file (plainPath path)
  generalize env.file (plainPath path) = text at hfile ⊢
  generalize env'.file (plainPath path) = text' at hfile ⊢
  cases hfile with
  | none => exact .fault _
  | some htext => exact Kubeconfig.alike_ofText path htext

/-- Alike environments have alike kubeconfigs. -/
theorem Alike.kubeconfig (h : env.Alike env') :
    Kubeconfig.Alike env.kubeconfig env'.kubeconfig := by
  rw [Environment.kubeconfig, Environment.kubeconfig, ← h.kubeconfigPaths,
    ← h.lookup "HOME" (by decide)]
  split
  · split
    · exact h.kubeconfigAt _
    · exact .fault _
  · refine Kubeconfig.alike_mergeAll rfl ?_
    rw [List.forall₂_map_left_iff, List.forall₂_map_right_iff]
    exact List.forall₂_same.mpr fun path _ => h.kubeconfigAt path

/-! ## What is read besides the kubeconfigs -/

/-- The file with the bytes that are not given in base64. -/
def fileOf? (data? file? : Option String) : Option String := if data?.isSome then none else file?

/-- What two environments have besides the kubeconfigs is the same, as far as it is read for an endpoint
and a user: the files with the certificates of the authority or else the certificates of the system, the
files with the user's own certificate and its key, and the program that gives the user's credentials. -/
structure SameBesides (env env' : Environment) (e : Endpoint) (u : User) : Prop where
  authority : ∀ path, fileOf? e.authorityData? e.authorityFile? = some path →
    env.textAt path = env'.textAt path
  system : e.authorityData? = none → e.authorityFile? = none → env.systemFault? = env'.systemFault?
  certificate : ∀ path, fileOf? u.certificateData? u.certificateFile? = some path →
    env.textAt path = env'.textAt path
  key : ∀ path, fileOf? u.keyData? u.keyFile? = some path → env.textAt path = env'.textAt path
  provider : ∀ p, u.source = .provider p → env.programs.provider p = env'.programs.provider p
  helper : ∀ h, u.source = .helper h → ∀ before info?,
    env.programs.helper before h info? = env'.programs.helper before h info?

theorem bytesOf?_congr {data? file? : Option String}
    (h : ∀ path, fileOf? data? file? = some path → env.textAt path = env'.textAt path) :
    env.bytesOf? data? file? = env'.bytesOf? data? file? := by
  rw [bytesOf?.eq_def, bytesOf?.eq_def]
  cases data? with
  | some data => rfl
  | none =>
    cases file? with
    | none => rfl
    | some path =>
      have htext := h path rfl
      simp only [htext]

theorem bytesOf?_eq_none {data? file? : Option String} (h : env.bytesOf? data? file? = .ok none) :
    data? = none ∧ file? = none := by
  rw [bytesOf?.eq_def] at h
  split at h
  · cases hdecode : (Text.Base64.decode (Text.encode _)).mapError Kubeconfig.DataFault.badData <;>
      rw [hdecode] at h <;> cases h
  · split at h <;> cases h
  · exact ⟨rfl, rfl⟩

variable {e : Endpoint} {u : User}

/-- The credentials are of use alike. -/
theorem SameBesides.checkCredentials (hsame : env.SameBesides env' e u) (h : env.Alike env')
    (info? : Option ClusterInfo) : u.checkCredentials env info? = u.checkCredentials env' info? := by
  rw [User.checkCredentials, User.checkCredentials]
  cases hsource : u.source with
  | inline => rfl
  | nothing => rfl
  | tokenFile path =>
    dsimp only
    rw [h.textAt_isSome]
  | provider p =>
    dsimp only
    rw [Provider.check, Provider.check, Provider.checkToken, Provider.checkToken, h.now,
      hsame.provider p hsource]
  | helper helper =>
    dsimp only
    rw [Helper.run, Helper.run, hsame.helper helper hsource]

/-- The same certificate and key are found. -/
theorem SameBesides.identity? (hsame : env.SameBesides env' e u) (info? : Option ClusterInfo) :
    u.identity? env info? = u.identity? env' info? := by
  have hgiven : u.givenIdentity? env info? = u.givenIdentity? env' info? := by
    rw [User.givenIdentity?, User.givenIdentity?]
    cases hsource : u.source with
    | helper helper =>
      dsimp only
      rw [Helper.run, Helper.run, hsame.helper helper hsource]
    | provider | inline | tokenFile | nothing => rfl
  have hown : u.ownIdentity? env = u.ownIdentity? env' := by
    rw [User.ownIdentity?, User.ownIdentity?, bytesOf?_congr hsame.certificate, bytesOf?_congr hsame.key]
  rw [User.identity?, User.identity?, hgiven, hown]

/-! ## The files that are asked -/

/-- The paths of the kubeconfigs, in the order in which they count. -/
def consulted (env : Environment) : List String :=
  match env.kubeconfigPaths with
  | [] => ((env.lookup "HOME").map fun home => joinPath (joinPath home ".kube") "config").toList
  | paths => paths

/-- What a name stands for in the first file that has it. -/
def first? {α : Type} (env : Environment) (entries : Kubeconfig → List (String × α)) (name : String) :
    Option α :=
  env.consulted.findSome? fun path => Kubeconfig.entryIn? entries name (env.kubeconfigAt path)

/-- In the kubeconfig a name stands for what the first file says. -/
theorem lookup_kubeconfig {α : Type} {entries : Kubeconfig → List (String × α)}
    (hmerges : Kubeconfig.Merges entries) {k : Kubeconfig} (h : env.kubeconfig = .ok k) (name : String) :
    (entries k).lookup name = env.first? entries name := by
  rw [Environment.kubeconfig] at h
  rw [first?, consulted]
  cases hpaths : env.kubeconfigPaths with
  | nil =>
    rw [hpaths] at h
    cases hhome : env.lookup "HOME" with
    | none =>
      rw [hhome] at h
      contradiction
    | some home =>
      rw [hhome] at h
      have h : env.kubeconfigAt (joinPath (joinPath home ".kube") "config") = .ok k := h
      simp only [Option.map_some, Option.toList_some, List.findSome?_cons, List.findSome?_nil]
      rw [h, Kubeconfig.entryIn?]
      cases (entries k).lookup name <;> rfl
  | cons path paths =>
    rw [hpaths] at h
    rw [Kubeconfig.lookup_mergeAll hmerges h, hmerges.empty, List.findSome?_map]
    rfl

theorem first?_of_find? {α : Type} {entries : Kubeconfig → List (String × Option α)}
    (hmerges : Kubeconfig.Merges entries) {k : Kubeconfig} (h : env.kubeconfig = .ok k) {name : String}
    {a : α} (hfind : Kubeconfig.find? name (entries k) = some a) :
    env.first? entries name = some (some a) := by
  rw [Kubeconfig.find?, lookup_kubeconfig hmerges h] at hfind
  obtain ⟨a?, ha, rfl⟩ := Option.bind_eq_some_iff.mp hfind
  exact ha

end Environment

namespace Connection

open Environment Kubeconfig

variable {env env' : Environment} {k k' : Kubeconfig} {name : String}

/-! ## The context that is named -/

/-- The cluster and the user of a context. -/
def parties? (k : Kubeconfig) (name : String) : Option (Endpoint × User) := do
  let context ← find? name k.contexts
  let endpoint ← find? context.cluster k.clusters
  return (endpoint, userOf k context)

theorem authorityBytes?_congr {e : Endpoint} {u : User} (h : env.SameBesides env' e u) :
    authorityBytes? env e = authorityBytes? env' e := by
  rw [authorityBytes?, authorityBytes?, bytesOf?_congr h.authority]

/-- If no certificates are found, the authority has none of its own. -/
theorem readCertificates_eq_none {e : Endpoint} (h : readCertificates env e = .ok none) :
    e.authorityData? = none ∧ e.authorityFile? = none := by
  rw [readCertificates] at h
  obtain ⟨bytes?, hbytes, h⟩ := ok_of_bind h
  cases bytes? with
  | some bytes =>
    dsimp only at h
    cases hread : (certificatesIn bytes).mapError Kubeconfig.Fault.badCertificate <;>
      rw [hread] at h <;> cases h
  | none =>
    rw [authorityBytes?] at hbytes
    cases hread : env.bytesOf? e.authorityData? e.authorityFile? with
    | error fault =>
      rw [hread] at hbytes
      contradiction
    | ok bytes? =>
      rw [hread] at hbytes
      obtain rfl := Except.ok.inj hbytes
      exact bytesOf?_eq_none hread

theorem readProxy_congr (h : env.Alike env') (e : Endpoint) : readProxy env e = readProxy env' e := by
  have hlookup : proxyVariables.map env.lookup = proxyVariables.map env'.lookup :=
    List.map_congr_left fun name hname => h.lookup name <| by
      rcases List.mem_pair.mp hname with rfl | rfl <;> decide
  rw [readProxy, readProxy, hlookup]

/-- A named context is found alike, whatever the current context is. -/
theorem ofContext_alike (h : env.Alike env') (hk : k.withoutCurrent = k'.withoutCurrent)
    (hbesides : ∀ endpoint user, parties? k name = some (endpoint, user) →
      env.SameBesides env' endpoint user) :
    ofContext env k (some name) = ofContext env' k' (some name) := by
  change ofContext env k (some name) = ofContext env' k'.withoutCurrent (some name)
  rw [← hk]
  change ofContext env k (some name) = ofContext env' k (some name)
  have hname : contextName k (some name) = .ok name := rfl
  rw [ofContext, ofContext, hname]
  dsimp only [bind, Except.bind]
  rw [parties?] at hbesides
  cases hcontext : find? name k.contexts with
  | none => rfl
  | some context =>
    dsimp only
    cases hendpoint : find? context.cluster k.clusters with
    | none => rfl
    | some endpoint =>
      rw [hcontext] at hbesides
      simp only [Option.bind_eq_bind, Option.bind_some, hendpoint] at hbesides
      have hbytes := authorityBytes?_congr (hbesides _ _ rfl)
      dsimp only
      rw [readInfo, readInfo, hbytes, readCertificates, readCertificates, hbytes, readProxy_congr h]

/-- A connection of a named context is that of the cluster and the user which the context names. -/
theorem ofContext_ok {c : Connection} (h : ofContext env k (some name) = .ok c) :
    ∃ context endpoint, find? name k.contexts = some context ∧
      find? context.cluster k.clusters = some endpoint ∧ readServer endpoint = .ok c.server ∧
        c.defaultNamespace = context.namespaceName?.getD standardNamespace ∧
          c.user = userOf k context ∧ readCertificates env endpoint = .ok c.certificates? := by
  rw [ofContext] at h
  obtain ⟨n, hn, h⟩ := ok_of_bind h
  obtain rfl := Except.ok.inj hn
  cases hcontext : find? name k.contexts with
  | none =>
    rw [hcontext] at h
    contradiction
  | some context =>
    rw [hcontext] at h
    cases hendpoint : find? context.cluster k.clusters with
    | none =>
      simp only [hendpoint] at h
      contradiction
    | some endpoint =>
      simp only [hendpoint] at h
      obtain ⟨info?, -, h⟩ := ok_of_bind h
      obtain ⟨server, hserver, h⟩ := ok_of_bind h
      obtain ⟨certificates?, hcertificates, h⟩ := ok_of_bind h
      obtain ⟨proxy?, -, h⟩ := ok_of_bind h
      obtain rfl := Except.ok.inj h
      exact ⟨context, endpoint, rfl, hendpoint, hserver, rfl, rfl, hcertificates⟩

/-- What is found is checked alike. -/
theorem check_alike (h : env.Alike env') {c : Connection} {e : Endpoint}
    (hbesides : env.SameBesides env' e c.user) (hc : readCertificates env e = .ok c.certificates?) :
    c.check env = c.check env' := by
  have hauthority : c.authorityFault? env = c.authorityFault? env' := by
    rw [authorityFault?, authorityFault?]
    cases hcertificates : c.certificates? with
    | some certificates =>
      dsimp only
      rw [h.transport]
    | none =>
      rw [hcertificates] at hc
      obtain ⟨hdata, hfile⟩ := readCertificates_eq_none hc
      exact hbesides.system hdata hfile
  have hidentity : c.identityFault? env = c.identityFault? env' := by
    rw [identityFault?, identityFault?, hbesides.identity?, h.transport]
  have hname : c.nameFault? env = c.nameFault? env' := by
    rw [nameFault?, nameFault?, h.transport]
  rw [check, check, hbesides.checkCredentials h, checkTransport, checkTransport, hauthority, hidentity,
    hname]

/-- The connection of a named context is found and checked alike. -/
theorem ofContext_check_alike (h : env.Alike env') {c : Connection}
    (hbesides : ∀ endpoint user, parties? k name = some (endpoint, user) →
      env.SameBesides env' endpoint user) (hc : ofContext env k (some name) = .ok c) :
    c.check env = c.check env' := by
  obtain ⟨context, endpoint, hcontext, hendpoint, -, -, huser, hcertificates⟩ := ofContext_ok hc
  have hparties : parties? k name = some (endpoint, c.user) := by
    rw [parties?, hcontext, huser]
    simp only [Option.bind_eq_bind, Option.bind_some, hendpoint]
    rfl
  exact check_alike h (hbesides _ _ hparties) hcertificates

end Connection

/-! ## Connecting to a named context -/

open Connection (parties?)

variable {env : Environment} {name : String}

/-- What is said of a named context that leads nowhere. -/
def refused (name : String) (fault : Kubeconfig.Fault) : Dialogue (Except ProvisionError Connected) :=
  .within (connectSpan (some name))
    (.log (.plain .debug connectSource ("Loading kubeconfig context " ++ name))
      (.done (.error (.connection (Connection.Fault.named name fault).message))))

theorem result_refused (name : String) (fault : Kubeconfig.Fault) (server : Server)
    (history : List Request) : ((refused name fault).run server history).result =
      .error (.connection (Connection.Fault.named name fault).message) := rfl

theorem connect_refused {fault : Kubeconfig.Fault}
    (h : Connection.ofKubeconfig env (some name) = .error fault) :
    connect env (some name) = refused name fault := by
  rw [connect, refused]
  simp only [h]

/-- Without a kubeconfig no context is looked for. -/
theorem connect_unread {fault : Kubeconfig.Fault} (h : env.kubeconfig = .error fault) :
    connect env (some name) = refused name fault := by
  refine connect_refused ?_
  rw [Connection.ofKubeconfig, h]
  rfl

/-- In alike environments the same comes of a named context, or in both a kubeconfig is not well formed.
What is read besides the kubeconfigs must be the same. -/
theorem connect_alike {env' : Environment} (h : env.Alike env')
    (hbesides : ∀ k endpoint user, env.kubeconfig = .ok k → parties? k name = some (endpoint, user) →
      env.SameBesides env' endpoint user) :
    connect env (some name) = connect env' (some name) ∨
      ∃ f f', connect env (some name) = refused name (.notYaml f) ∧
        connect env' (some name) = refused name (.notYaml f') := by
  have hkubeconfig := h.kubeconfig
  generalize hk : env.kubeconfig = r at hkubeconfig
  generalize hk' : env'.kubeconfig = r' at hkubeconfig
  cases hkubeconfig with
  | fault f => exact .inl ((connect_unread hk).trans (connect_unread hk').symm)
  | notYaml f f' => exact .inr ⟨f, f', connect_unread hk, connect_unread hk'⟩
  | @configs k k' hsame =>
    have hbesides := fun endpoint user => hbesides k endpoint user hk
    have hfound : Connection.ofKubeconfig env (some name) =
        Connection.ofKubeconfig env' (some name) := by
      rw [Connection.ofKubeconfig, Connection.ofKubeconfig, hk, hk']
      exact Connection.ofContext_alike h hsame hbesides
    refine .inl ?_
    rw [connect, connect, ← hfound]
    cases hc : Connection.ofKubeconfig env (some name) with
    | error f => rfl
    | ok c =>
      rw [Connection.ofKubeconfig, hk] at hc
      have hcheck := Connection.ofContext_check_alike h hbesides hc
      simp only [connectTo, hcheck]

/-- A connection to a named context is to the cluster that the context has in the first file that has
the context, and the handle has its name and its namespace. -/
theorem connect_ok {server : Server} {history : List Request} {connected : Connected}
    (h : ((connect env (some name)).run server history).result = .ok connected) :
    ∃ context endpoint, env.first? Kubeconfig.contexts name = some (some context) ∧
      env.first? Kubeconfig.clusters context.cluster = some (some endpoint) ∧
        Connection.readServer endpoint = .ok connected.connection.server ∧
          connected.handle = ⟨name, context.namespaceName?.getD Connection.standardNamespace⟩ := by
  rw [connect] at h
  cases hfound : Connection.ofKubeconfig env (some name) with
  | error f =>
    simp only [hfound] at h
    contradiction
  | ok c =>
    simp only [hfound] at h
    rw [connectTo] at h
    cases hcheck : c.check env with
    | error f =>
      rw [hcheck] at h
      contradiction
    | ok _ =>
      rw [hcheck] at h
      obtain rfl : ⟨c, c.handle (some name)⟩ = connected := Except.ok.inj h
      rw [Connection.ofKubeconfig] at hfound
      obtain ⟨k, hk, hfound⟩ := ok_of_bind hfound
      obtain ⟨context, endpoint, hcontext, hendpoint, hserver, hnamespace, -, -⟩ :=
        Connection.ofContext_ok hfound
      refine ⟨context, endpoint, ?_, ?_, hserver, ?_⟩
      · exact Environment.first?_of_find? Kubeconfig.merges_contexts hk hcontext
      · exact Environment.first?_of_find? Kubeconfig.merges_clusters hk hendpoint
      · rw [← hnamespace]
        rfl

/-- If the first file that has a name, if any, says nothing of its context, there is no connection. -/
theorem connect_undefined
    (h : ∀ context, env.first? Kubeconfig.contexts name ≠ some (some context)) :
    ∃ fault, connect env (some name) = refused name fault := by
  cases hk : env.kubeconfig with
  | error f => exact ⟨f, connect_unread hk⟩
  | ok k =>
    refine ⟨.unknownContext name, connect_refused ?_⟩
    have hfind : Kubeconfig.find? name k.contexts = none := by
      rw [Kubeconfig.find?, Environment.lookup_kubeconfig Kubeconfig.merges_contexts hk,
        Option.bind_eq_none_iff]
      intro context? hcontext
      cases context? with
      | none => rfl
      | some context => exact absurd hcontext (h context)
    have hcontext : Connection.ofContext env k (some name) = .error (.unknownContext name) := by
      rw [Connection.ofContext, Connection.contextName]
      dsimp only [bind, Except.bind]
      rw [hfind]
    rw [Connection.ofKubeconfig, hk]
    exact hcontext

/-- What comes of a named context does not depend on current contexts, nor on the variables that count
without a name, as long as what is read besides the kubeconfigs does not.  If there is a connection, the
first file that has the context says what it is, and if no file says, there is none. -/
theorem connect_named (env : Environment) (name : String) :
    (∀ env' : Environment, env.Alike env' →
      (∀ k endpoint user, env.kubeconfig = .ok k → parties? k name = some (endpoint, user) →
        env.SameBesides env' endpoint user) →
      connect env (some name) = connect env' (some name) ∨
        ∃ f f', connect env (some name) = refused name (.notYaml f) ∧
          connect env' (some name) = refused name (.notYaml f')) ∧
    (∀ server history connected,
      ((connect env (some name)).run server history).result = .ok connected →
        ∃ context endpoint, env.first? Kubeconfig.contexts name = some (some context) ∧
          env.first? Kubeconfig.clusters context.cluster = some (some endpoint) ∧
            Connection.readServer endpoint = .ok connected.connection.server ∧
              connected.handle =
                ⟨name, context.namespaceName?.getD Connection.standardNamespace⟩) ∧
    ((∀ context, env.first? Kubeconfig.contexts name ≠ some (some context)) →
      ∃ fault, connect env (some name) = refused name fault) :=
  ⟨fun _ => connect_alike, fun _ _ _ => connect_ok, connect_undefined⟩

/-! ## Kubeconfigs that are written -/

/-- A file that holds a value. -/
def written (v : Json) : String := "---\n" ++ Yaml.render v

/-- A value that is written is one document of its file. -/
theorem documents_written {v : Json} (hv : v.KeysDistinct) (hnesting : v.nesting ≤ Yaml.documentDepth) :
    Yaml.documents (Kubeconfig.unmarked (written v)) = [.ok (.ofJson v)] := by
  have hunmarked : Kubeconfig.unmarked (written v) = written v := by
    rw [Kubeconfig.unmarked, written, String.toList_append]
    rfl
  rw [hunmarked, written, Yaml.documents_marked hv hnesting]

theorem kubeconfigAt_written {v : Json} (hv : v.KeysDistinct)
    (hnesting : v.nesting ≤ Yaml.documentDepth) {path : String}
    (htext : env.textAt path = some (written v)) :
    env.kubeconfigAt path = Kubeconfig.ofDocuments (Kubeconfig.folder path) [.ok (.ofJson v)] := by
  rw [Environment.kubeconfigAt, htext]
  exact congrArg (Kubeconfig.ofDocuments _) (documents_written hv hnesting)

/-- Values that differ in the text of the current context are written alike. -/
theorem alikeText_written {v v' : Json} (hv : v.KeysDistinct) (hv' : v'.KeysDistinct)
    (hnesting : v.nesting ≤ Yaml.documentDepth) (hnesting' : v'.nesting ≤ Yaml.documentDepth)
    (h : (Yaml.Value.ofJson v).forgetCurrent = (Yaml.Value.ofJson v').forgetCurrent) :
    Kubeconfig.AlikeText (written v) (written v') := by
  rw [Kubeconfig.AlikeText, documents_written hv hnesting, documents_written hv' hnesting']
  exact .cons (.values h) .nil

theorem ok_of_toOption {ε α : Type} {r : Except ε α} {a : α} (h : r.toOption = some a) : r = .ok a := by
  cases r with
  | error e => contradiction
  | ok b => exact congrArg Except.ok (Option.some.inj h)

/-- The fault of a certificate that is not well formed. -/
def badCertificate? {α : Type} : Except Kubeconfig.Fault α → Option Text.Pem.Fault
  | .error (.badCertificate fault) => some fault
  | _ => none

theorem error_of_badCertificate? {α : Type} {r : Except Kubeconfig.Fault α} {fault : Text.Pem.Fault}
    (h : badCertificate? r = some fault) : r = .error (.badCertificate fault) := by
  rw [badCertificate?.eq_def] at h
  split at h
  · obtain rfl := Option.some.inj h
    rfl
  · contradiction

/-! ## Two files -/

/-- A kubeconfig with one context, whose user has the credentials that a program gives. -/
def placing (namespaceName server current : String) : Json :=
  .object [
    ("clusters", .array [.object [("name", .string "k"), ("cluster", .object [("server", .string server)])]]),
    ("contexts", .array [.object [("name", .string "c"), ("context", .object [
      ("cluster", .string "k"), ("namespace", .string namespaceName), ("user", .string "u")])]]),
    ("current-context", .string current),
    ("users", .array [.object [("name", .string "u"),
      ("user", .object [("exec", .object [("command", .string "login")])])]])]

theorem keysDistinct_placing (namespaceName server current : String) :
    (placing namespaceName server current).KeysDistinct := by
  simp [placing, Json.KeysDistinct, Json.KeysDistinctItems, Json.KeysDistinctMembers]

theorem nesting_placing (namespaceName server current : String) :
    (placing namespaceName server current).nesting ≤ Yaml.documentDepth := by
  simp [placing, Json.nesting, Json.nestingItems, Json.nestingMembers, Yaml.documentDepth]

/-- Programs that give credentials without a certificate. -/
def Programs.granting : Programs where
  helper _ _ _ := .ok (some ⟨none, none⟩)
  provider _ := .ok ()

/-- Programs that end without credentials. -/
def Programs.refusing : Programs where
  helper _ _ _ := .error (.failed "auth exec command 'login' failed with status exit status: 1")
  provider _ := .error (.failed "auth exec command 'login' failed with status exit status: 1")

/-- An environment with two kubeconfigs that have the same context. -/
def overlapping (current : String) (host? : Option String) (programs : Programs) : Environment where
  lookup name :=
    if name = "KUBECONFIG" then some "f:g"
    else if name = "KUBERNETES_SERVICE_HOST" then host?
    else none
  file path :=
    if path = "f" then some (written (placing "n" "https://h" current))
    else if path = "g" then some (written (placing "m" "https://i" "d"))
    else none
  now := 0
  programs := programs
  transport := .plain
  systemFault? := none

theorem kubeconfig_overlapping (current : String) (host? : Option String) (programs : Programs) :
    (overlapping current host? programs).kubeconfig = Kubeconfig.mergeAll .empty [
      Kubeconfig.ofDocuments "" [.ok (.ofJson (placing "n" "https://h" current))],
      Kubeconfig.ofDocuments "" [.ok (.ofJson (placing "m" "https://i" "d"))]] := by
  have hpaths : listedPaths "f:g" = ["f", "g"] := by decide +kernel
  have hlisted : (overlapping current host? programs).kubeconfigPaths = ["f", "g"] := hpaths
  have hfirst : (overlapping current host? programs).textAt "f" =
      some (written (placing "n" "https://h" current)) := by
    have hpath : plainPath "f" = "f" := by decide +kernel
    rw [Environment.textAt, hpath]
    rfl
  have hsecond : (overlapping current host? programs).textAt "g" = some (written (placing "m" "https://i" "d")) := by
    have hpath : plainPath "g" = "g" := by decide +kernel
    rw [Environment.textAt, hpath]
    rfl
  have hf : Kubeconfig.folder "f" = "" := by decide +kernel
  have hg : Kubeconfig.folder "g" = "" := by decide +kernel
  rw [Environment.kubeconfig, hlisted]
  change Kubeconfig.mergeAll .empty [_, _] = _
  rw [kubeconfigAt_written (keysDistinct_placing _ _ _) (nesting_placing _ _ _) hfirst,
    kubeconfigAt_written (keysDistinct_placing _ _ _) (nesting_placing _ _ _) hsecond, hf, hg]

theorem alike_overlapping (current current' : String) (host? host?' : Option String)
    (programs programs' : Programs) :
    (overlapping current host? programs).Alike (overlapping current' host?' programs') where
  lookup name hname := by
    have hhost : name ≠ "KUBERNETES_SERVICE_HOST" := by
      rintro rfl
      exact hname (by decide)
    simp only [overlapping, if_neg hhost]
  now := rfl
  transport := rfl
  file path := by
    rw [overlapping, overlapping]
    dsimp only
    split
    · exact .some (alikeText_written (keysDistinct_placing _ _ _) (keysDistinct_placing _ _ _)
        (nesting_placing _ _ _) (nesting_placing _ _ _) rfl)
    · split
      · exact .some (Kubeconfig.alikeText_refl _)
      · exact .none

/-- The user of the context. -/
def loggingIn : User := { User.anonymous with helper? := some ⟨none, some "login", [], [], none, false⟩ }

/-- The two kubeconfigs after they are merged. -/
def overlapped : Kubeconfig where
  kind? := none
  version? := none
  current? := some "c"
  clusters := [("k", some ⟨some "https://h", none, none, none, none, none, none⟩)]
  users := [("u", some loggingIn)]
  contexts := [("c", some ⟨"k", some "u", some "n"⟩)]

theorem kubeconfig_overlapped (host? : Option String) (programs : Programs) :
    (overlapping "c" host? programs).kubeconfig = .ok overlapped := by
  rw [kubeconfig_overlapping]
  exact ok_of_toOption (by decide +kernel)

/-- The connection that they lead to. -/
def placed : Connection :=
  ⟨⟨some "https", some "h", some ⟨"", none⟩⟩, "n", none, loggingIn, none, none, false, none⟩

theorem ofKubeconfig_overlapping (host? : Option String) (programs : Programs) :
    Connection.ofKubeconfig (overlapping "c" host? programs) (some "c") = .ok placed := by
  rw [Connection.ofKubeconfig, kubeconfig_overlapped]
  rfl

theorem connect_overlapping (host? : Option String) (server : Server) (history : List Request) :
    ((connect (overlapping "c" host? .granting) (some "c")).run server history).result =
      .ok ⟨placed, "c", "n"⟩ := by
  rw [connect]
  simp only [ofKubeconfig_overlapping, connectTo]
  rfl

theorem connect_overlapping_refusing (host? : Option String) (server : Server) :
    ((connect (overlapping "c" host? .refusing) (some "c")).run server []).result =
      .error (.connection ("Failed to create client: auth error: " ++
        "auth exec command 'login' failed with status exit status: 1")) := by
  rw [connect]
  simp only [ofKubeconfig_overlapping, connectTo]
  rfl

/-- Of two files with the same context the first one counts, whatever the current context is, and a
context that neither of them has is not replaced. -/
theorem connect_named_overlapping :
    let before := overlapping "c" none .granting
    let after := overlapping "d" (some "10.0.0.1") .granting
    before.Alike after ∧ connect before (some "c") = connect after (some "c") ∧
      (∃ connected, (∀ server history,
          ((connect before (some "c")).run server history).result = .ok connected) ∧
        ∃ context endpoint, before.first? Kubeconfig.contexts "c" = some (some context) ∧
          before.first? Kubeconfig.clusters context.cluster = some (some endpoint) ∧
            Connection.readServer endpoint = .ok connected.connection.server ∧
              connected.handle = ⟨"c", context.namespaceName?.getD Connection.standardNamespace⟩) ∧
      (∀ context, before.first? Kubeconfig.contexts "x" ≠ some (some context)) ∧
        ∃ fault, connect before (some "x") = refused "x" fault := by
  intro before after
  have hrun : ∀ server history,
      ((connect before (some "c")).run server history).result = .ok ⟨placed, "c", "n"⟩ :=
    connect_overlapping none
  have halike : before.Alike after := alike_overlapping "c" "d" none (some "10.0.0.1") .granting .granting
  obtain ⟨hsame, hconnected, -⟩ := connect_named before "c"
  obtain ⟨-, -, hundefined⟩ := connect_named before "x"
  have hnone : ∀ context, before.first? Kubeconfig.contexts "x" ≠ some (some context) := by
    intro context hcontext
    have hlookup : overlapped.contexts.lookup "x" = none := by decide +kernel
    rw [← Environment.lookup_kubeconfig Kubeconfig.merges_contexts
      (kubeconfig_overlapped none .granting), hlookup] at hcontext
    cases hcontext
  have hequal : connect before (some "c") = connect after (some "c") := by
    refine (hsame after halike fun k endpoint user hk hparties => ?_).resolve_right ?_
    · obtain rfl := Except.ok.inj ((kubeconfig_overlapped none .granting).symm.trans hk)
      have hfound : parties? overlapped "c" =
          some (⟨some "https://h", none, none, none, none, none, none⟩, loggingIn) := by decide +kernel
      obtain ⟨rfl, rfl⟩ := Prod.mk.inj (Option.some.inj (hfound.symm.trans hparties))
      exact {
        authority := fun _ hpath => by cases hpath
        system := fun _ _ => rfl
        certificate := fun _ hpath => by cases hpath
        key := fun _ hpath => by cases hpath
        provider := fun _ _ => rfl
        helper := fun _ _ _ _ => rfl }
    · rintro ⟨f, f', hrefused, -⟩
      have hok := hrun (fun _ _ => .broken "" []) []
      rw [hrefused, result_refused] at hok
      cases hok
  exact ⟨halike, hequal, ⟨_, hrun, hconnected _ _ _ (hrun (fun _ _ => .broken "" []) [])⟩, hnone,
    hundefined hnone⟩

/-! ## Files that are both -/

/-- An environment with one file, which is the kubeconfig. -/
def holding (text : String) : Environment where
  lookup name := if name = "KUBECONFIG" then some "config" else none
  file path := if path = "config" then some text else none
  now := 0
  programs := .missing
  transport := .plain
  systemFault? := none

theorem alike_holding {text text' : String} (h : Kubeconfig.AlikeText text text') :
    (holding text).Alike (holding text') where
  lookup _ _ := rfl
  now := rfl
  transport := rfl
  file path := by
    rw [holding, holding]
    dsimp only
    split
    · exact .some h
    · exact .none

theorem kubeconfig_holding (text : String) :
    (holding text).kubeconfig = Kubeconfig.mergeAll .empty [(holding text).kubeconfigAt "config"] := by
  have hpaths : listedPaths "config" = ["config"] := by decide +kernel
  have hlisted : (holding text).kubeconfigPaths = ["config"] := hpaths
  rw [Environment.kubeconfig, hlisted]
  rfl

theorem textAt_holding (text : String) : (holding text).textAt "config" = some text := by
  have hpath : plainPath "config" = "config" := by decide +kernel
  rw [Environment.textAt, hpath]
  rfl

/-- A kubeconfig whose cluster names the kubeconfig itself as the file of its authority. -/
def trustingItself (current : String) : Json :=
  .object [
    ("clusters", .array [.object [("name", .string "k"),
      ("cluster", .object [("certificate-authority", .string "config"), ("server", .string "https://h")])]]),
    ("contexts", .array [.object [("name", .string "c"), ("context", .object [("cluster", .string "k")])]]),
    ("current-context", .string current)]

theorem keysDistinct_trustingItself (current : String) : (trustingItself current).KeysDistinct := by
  simp [trustingItself, Json.KeysDistinct, Json.KeysDistinctItems, Json.KeysDistinctMembers]

theorem nesting_trustingItself (current : String) :
    (trustingItself current).nesting ≤ Yaml.documentDepth := by
  simp [trustingItself, Json.nesting, Json.nestingItems, Json.nestingMembers, Yaml.documentDepth]

theorem kubeconfig_trustingItself (current : String) :
    (holding (written (trustingItself current))).kubeconfig =
      Kubeconfig.mergeAll .empty [Kubeconfig.ofDocuments "" [.ok (.ofJson (trustingItself current))]] := by
  have hfolder : Kubeconfig.folder "config" = "" := by decide +kernel
  rw [kubeconfig_holding, kubeconfigAt_written (keysDistinct_trustingItself current)
    (nesting_trustingItself current) (textAt_holding _), hfolder]

/-- A current context that is a block with two tags. -/
def brokenBlock : String := "-----BEGIN A----------END B-----"

/-- The message of the fault of a stream that has no document before it. -/
def faultMessage? : List (Except Yaml.Fault Yaml.Value) → Option String
  | [.error fault] => some fault.message
  | _ => none

theorem eq_of_faultMessage? {ds : List (Except Yaml.Fault Yaml.Value)} {message : String}
    (h : faultMessage? ds = some message) : ∃ fault, ds = [.error fault] ∧ fault.message = message := by
  rw [faultMessage?.eq_def] at h
  split at h
  next fault => exact ⟨fault, rfl, Option.some.inj h⟩
  next => contradiction

/-- A kubeconfig that is not well formed is refused. -/
theorem connect_holding_fault {text : String} {fault : Yaml.Fault} (name : String)
    (h : Yaml.documents (Kubeconfig.unmarked text) = [.error fault]) :
    connect (holding text) (some name) = refused name (.notYaml fault) := by
  have hread : (holding text).kubeconfigAt "config" = .error (.notYaml fault) := by
    rw [Environment.kubeconfigAt, textAt_holding]
    change Kubeconfig.ofDocuments _ (Yaml.documents (Kubeconfig.unmarked text)) = _
    rw [h]
    rfl
  refine connect_unread ?_
  rw [kubeconfig_holding, hread]
  rfl

/-- In environments that differ in the current context only, a named context is found in one and not in
the other one if the kubeconfig is also read as a file of certificates, and a kubeconfig that is not well
formed is refused with another place of the fault.  In environments that differ in a variable only that
counts without a name, it is found in one and not in the other one if the program that gives the
credentials looks at the variable. -/
theorem connect_tells_current :
    let plain := holding (written (trustingItself "c"))
    let broken := holding (written (trustingItself brokenBlock))
    let short := holding "current-context: 'a'@"
    let long := holding "current-context: 'aa'@"
    let outside := overlapping "c" none .refusing
    let inside := overlapping "c" (some "10.0.0.1") .granting
    (plain.Alike broken ∧
      (∀ server, ((connect plain (some "c")).run server []).result.map Connected.handle =
        .ok ⟨"c", "default"⟩) ∧
      connect broken (some "c") = refused "c" (.badCertificate (.differentTags "A" "B")) ∧
      connect plain (some "c") ≠ connect broken (some "c")) ∧
    (short.Alike long ∧
      ∃ f f', connect short (some "c") = refused "c" (.notYaml f) ∧
        connect long (some "c") = refused "c" (.notYaml f') ∧
        f.message = "found character that cannot start any token at line 1 column 21, " ++
          "while scanning for the next token" ∧
        f'.message = "found character that cannot start any token at line 1 column 22, " ++
          "while scanning for the next token") ∧
    outside.Alike inside ∧
      (∀ server, ((connect outside (some "c")).run server []).result = .error (.connection
        ("Failed to create client: auth error: " ++
          "auth exec command 'login' failed with status exit status: 1"))) ∧
      ∀ server, ((connect inside (some "c")).run server []).result.map Connected.handle =
        .ok ⟨"c", "n"⟩ := by
  intro plain broken short long outside inside
  have hplain : Connection.ofKubeconfig plain (some "c") =
      .ok ⟨⟨some "https", some "h", some ⟨"", none⟩⟩, "default", none, .anonymous, some [], none, false,
        none⟩ := by
    rw [Connection.ofKubeconfig, kubeconfig_trustingItself]
    exact ok_of_toOption (by decide +kernel)
  have hbroken : Connection.ofKubeconfig broken (some "c") =
      .error (.badCertificate (.differentTags "A" "B")) := by
    rw [Connection.ofKubeconfig, kubeconfig_trustingItself]
    exact error_of_badCertificate? (by decide +kernel)
  obtain ⟨f, hshort, hf⟩ : ∃ f, Yaml.documents (Kubeconfig.unmarked "current-context: 'a'@") = [.error f] ∧
      f.message = "found character that cannot start any token at line 1 column 21, " ++
        "while scanning for the next token" :=
    eq_of_faultMessage? (by decide +kernel)
  obtain ⟨f', hlong, hf'⟩ : ∃ f, Yaml.documents (Kubeconfig.unmarked "current-context: 'aa'@") = [.error f] ∧
      f.message = "found character that cannot start any token at line 1 column 22, " ++
        "while scanning for the next token" :=
    eq_of_faultMessage? (by decide +kernel)
  have hhandle (server : Server) :
      ((connect plain (some "c")).run server []).result.map Connected.handle = .ok ⟨"c", "default"⟩ := by
    rw [connect]
    simp only [hplain, connectTo]
    rfl
  have halike : Kubeconfig.AlikeText (written (trustingItself "c")) (written (trustingItself brokenBlock)) :=
    alikeText_written (keysDistinct_trustingItself _) (keysDistinct_trustingItself _)
      (nesting_trustingItself _) (nesting_trustingItself _) rfl
  have halike' : Kubeconfig.AlikeText "current-context: 'a'@" "current-context: 'aa'@" := by
    rw [Kubeconfig.AlikeText, hshort, hlong]
    exact .cons (.faults f f') .nil
  have hinside (server : Server) :
      ((connect inside (some "c")).run server []).result.map Connected.handle = .ok ⟨"c", "n"⟩ := by
    rw [connect_overlapping]
    rfl
  refine ⟨⟨alike_holding halike, hhandle, connect_refused hbroken, fun hequal => ?_⟩,
    ⟨alike_holding halike', f, f', connect_holding_fault "c" hshort, connect_holding_fault "c" hlong,
      hf, hf'⟩, alike_overlapping "c" "c" none (some "10.0.0.1") .refusing .granting,
    connect_overlapping_refusing none, hinside⟩
  have hok := hhandle fun _ _ => .broken "" []
  rw [hequal, connect_refused hbroken, result_refused] at hok
  cases hok

end BackingServices.Cluster
