import BackingServices.Preflight
import BackingServices.Proofs.Cluster.Outcome

/-!
# How the preflight goes on

Whatever a cluster answers, the preflight asks for its groups, and then for the kinds of each version of
each group of Helm charts.  It comes to the end of them (`Completed`), or it stops at the first group
without a version, at the first path that is no target, or at the first answer that is not read
(`Stopped`).  What it has asked for and what comes of it follows from that, and it is passed only where
Helm charts were listed (`ensure_finds`).
-/

namespace BackingServices

open Cluster

/-! ## Requests that read -/

/-- The request that reads what is at a target. -/
def Cluster.readRequest (target : Target) : Request := ⟨.get, target, none, none⟩

theorem Cluster.outcome_read {server : Server} {history : List Request} {schema : Schema} {path : String}
    {target : Target} {answer : Except ApiError Json} (htarget : Uri.parseRequest path = .ok target)
    (hanswer : (server history (readRequest target)).read schema = answer) :
    (read schema path).outcome server history = (answer, [readRequest target]) := by
  rw [read, htarget]
  exact Prod.ext hanswer rfl

/-- To read logs nothing. -/
theorem Cluster.quiet_read (schema : Schema) (path : String) :
    (read schema path).quiet = read schema path := by
  rw [read]
  cases Uri.parseRequest path with
  | error fault => rfl
  | ok target => rfl

namespace Preflight

/-! ## What is asked for -/

/-- The request for the groups. -/
def groupsRequest : Request := readRequest ⟨"/apis", none⟩

/-- The groups of Helm charts in a list of groups. -/
def chartGroups (groups : Json) : List Group :=
  ((values groups "groups").map Group.ofNormal).filter fun g => g.name = "helm.cattle.io"

/-- The requests for the kinds of versions, as far as their paths are targets. -/
def kindsRequests (versions : List GroupVersion) : List Request :=
  versions.filterMap fun v => (Uri.parseRequest ("/apis/" ++ v.groupVersion)).toOption.map readRequest

/-- The requests for the kinds of the versions of groups. -/
def allRequests (groups : List Group) : List Request := groups.flatMap fun g => kindsRequests g.versions

theorem kindsRequests_cons {v : GroupVersion} {target : Target}
    (h : Uri.parseRequest ("/apis/" ++ v.groupVersion) = .ok target) (vs : List GroupVersion) :
    kindsRequests (v :: vs) = readRequest target :: kindsRequests vs := by
  rw [kindsRequests, List.filterMap_cons, h]
  rfl

theorem allRequests_cons (g : Group) (gs : List Group) :
    allRequests (g :: gs) = kindsRequests g.versions ++ allRequests gs := rfl

/-! ## What is answered -/

/-- Versions are asked for in order, and the kinds of each are answered. -/
inductive Listed (server : Server) : List Request → List GroupVersion → Served → Prop where
  | nil (history : List Request) : Listed server history [] []
  | cons {history : List Request} {v : GroupVersion} {vs : List GroupVersion} {served : Served}
      {target : Target} {list : Json}
      (htarget : Uri.parseRequest ("/apis/" ++ v.groupVersion) = .ok target)
      (hlist : (server history (readRequest target)).read resourceListSchema = .ok list)
      (hrest : Listed server (history ++ [readRequest target]) vs served) :
      Listed server history (v :: vs) ((v.version, .ofNormal list) :: served)

/-- Groups are gone through in order; each has a version, and the kinds of all its versions are
answered. -/
inductive Surveyed (server : Server) : List Request → List Group → List Served → Prop where
  | nil (history : List Request) : Surveyed server history [] []
  | cons {history : List Request} {g : Group} {gs : List Group} {served : Served} {rest : List Served}
      (hversions : g.versions ≠ []) (hlisted : Listed server history g.versions served)
      (hrest : Surveyed server (history ++ kindsRequests g.versions) gs rest) :
      Surveyed server history (g :: gs) (served :: rest)

/-- The kinds of a version cannot be had: its path is no target, or the answer is not read. -/
inductive VersionFails (server : Server) (history : List Request) (v : GroupVersion) :
    List Request → ApiError → Prop where
  | target {fault : UriError} (h : Uri.parseRequest ("/apis/" ++ v.groupVersion) = .error fault) :
      VersionFails server history v [] (.badReadTarget fault)
  | answer {target : Target} {e : ApiError}
      (htarget : Uri.parseRequest ("/apis/" ++ v.groupVersion) = .ok target)
      (h : (server history (readRequest target)).read resourceListSchema = .error e) :
      VersionFails server history v [readRequest target] e

/-- A group cannot be gone through: it has no versions, or the kinds of one cannot be had. -/
inductive GroupFails (server : Server) (history : List Request) (g : Group) :
    List Request → ApiError → Prop where
  | empty (h : g.versions = []) : GroupFails server history g [] (.emptyGroup g.name)
  | version {before after : List GroupVersion} {v : GroupVersion} {served : Served}
      {requests : List Request} {e : ApiError} (hsplit : g.versions = before ++ v :: after)
      (hbefore : Listed server history before served)
      (h : VersionFails server (history ++ kindsRequests before) v requests e) :
      GroupFails server history g (kindsRequests before ++ requests) e

/-- The groups are listed, and those of Helm charts are gone through. -/
inductive Completed (server : Server) (history : List Request) : List Group → List Served → Prop where
  | intro {groups : Json} {served : List Served}
      (hgroups : (server history groupsRequest).read groupListSchema = .ok groups)
      (h : Surveyed server (history ++ [groupsRequest]) (chartGroups groups) served) :
      Completed server history (chartGroups groups) served

/-- The groups are not listed, or one of those of Helm charts cannot be gone through. -/
inductive Stopped (server : Server) (history : List Request) : List Request → ApiError → Prop where
  | groups {e : ApiError} (h : (server history groupsRequest).read groupListSchema = .error e) :
      Stopped server history [groupsRequest] e
  | group {groups : Json} {before after : List Group} {g : Group} {served : List Served}
      {requests : List Request} {e : ApiError}
      (hgroups : (server history groupsRequest).read groupListSchema = .ok groups)
      (hsplit : chartGroups groups = before ++ g :: after)
      (hbefore : Surveyed server (history ++ [groupsRequest]) before served)
      (h : GroupFails server (history ++ groupsRequest :: allRequests before) g requests e) :
      Stopped server history (groupsRequest :: allRequests before ++ requests) e

/-! ## It completes or it stops -/

section Total

variable (server : Server)

theorem listed_or_fails (history : List Request) (versions : List GroupVersion) :
    (∃ served, Listed server history versions served) ∨
      ∃ before v after served requests e, versions = before ++ v :: after ∧
        Listed server history before served ∧
          VersionFails server (history ++ kindsRequests before) v requests e := by
  -- the history grows with every answer, as the server may go by it
  induction versions generalizing history with
  | nil => exact .inl ⟨[], .nil history⟩
  | cons v vs ih =>
    have hfirst {requests : List Request} {e : ApiError} (h : VersionFails server history v requests e) :
        VersionFails server (history ++ kindsRequests []) v requests e := (List.append_nil history).symm ▸ h
    cases htarget : Uri.parseRequest ("/apis/" ++ v.groupVersion) with
    | error fault =>
      exact .inr ⟨[], v, vs, [], _, _, rfl, .nil history, .target htarget⟩
    | ok target =>
      cases hread : (server history (readRequest target)).read resourceListSchema with
      | error e =>
        exact .inr ⟨[], v, vs, [], _, _, rfl, .nil history, hfirst (.answer htarget hread)⟩
      | ok list =>
        rcases ih (history ++ [readRequest target]) with
          ⟨served, hlisted⟩ | ⟨before, w, after, served, requests, e, rfl, hbefore, hfails⟩
        · exact .inl ⟨_, .cons htarget hread hlisted⟩
        · refine .inr ⟨v :: before, w, after, _, requests, e, rfl, .cons htarget hread hbefore, ?_⟩
          rwa [kindsRequests_cons htarget, List.append_cons]

theorem surveyed_or_fails (history : List Request) (groups : List Group) :
    (∃ served, Surveyed server history groups served) ∨
      ∃ before g after served requests e, groups = before ++ g :: after ∧
        Surveyed server history before served ∧
          GroupFails server (history ++ allRequests before) g requests e := by
  induction groups generalizing history with
  | nil => exact .inl ⟨[], .nil history⟩
  | cons g gs ih =>
    have hfirst {requests : List Request} {e : ApiError} (h : GroupFails server history g requests e) :
        GroupFails server (history ++ allRequests []) g requests e := (List.append_nil history).symm ▸ h
    by_cases hversions : g.versions = []
    · exact .inr ⟨[], g, gs, [], _, _, rfl, .nil history, .empty hversions⟩
    · rcases listed_or_fails server history g.versions with
        ⟨listed, hlisted⟩ | ⟨before, v, after, listed, requests, e, hsplit, hbefore, hfails⟩
      · rcases ih (history ++ kindsRequests g.versions) with
          ⟨served, hsurveyed⟩ | ⟨before, g', after, served, requests, e, rfl, hbefore, hfails⟩
        · exact .inl ⟨_, .cons hversions hlisted hsurveyed⟩
        · refine .inr ⟨g :: before, g', after, _, requests, e, rfl,
            .cons hversions hlisted hbefore, ?_⟩
          rwa [allRequests_cons, ← List.append_assoc]
      · exact .inr ⟨[], g, gs, [], _, _, rfl, .nil history,
          hfirst (.version hsplit hbefore hfails)⟩

theorem completed_or_stopped (history : List Request) :
    (∃ groups served, Completed server history groups served) ∨
      ∃ requests e, Stopped server history requests e := by
  cases hgroups : (server history groupsRequest).read groupListSchema with
  | error e => exact .inr ⟨_, _, .groups hgroups⟩
  | ok groups =>
    rcases surveyed_or_fails server (history ++ [groupsRequest]) (chartGroups groups) with
      ⟨served, hsurveyed⟩ | ⟨before, g, after, served, requests, e, hsplit, hbefore, hfails⟩
    · exact .inl ⟨_, _, .intro hgroups hsurveyed⟩
    · rw [List.append_assoc, List.singleton_append] at hfails
      exact .inr ⟨_, _, .group hgroups hsplit hbefore hfails⟩

end Total

/-! ## What is run -/

section Outcomes

variable {server : Server} {history : List Request}

theorem VersionFails.outcome {v : GroupVersion} {requests : List Request} {e : ApiError}
    (h : VersionFails server history v requests e) :
    (read resourceListSchema ("/apis/" ++ v.groupVersion)).outcome server history =
      (.error e, requests) := by
  cases h with
  | target h =>
    rw [Cluster.read, h]
    rfl
  | answer htarget h => exact outcome_read htarget h

theorem Listed.outcome {versions : List GroupVersion} {served : Served}
    (h : Listed server history versions served) :
    (readVersions versions).outcome server history = (.ok served, kindsRequests versions) := by
  induction h with
  | nil => rfl
  | @cons history v vs served target list htarget hlist _ ih =>
    rw [readVersions, Dialogue.outcome_andThen_ok (outcome_read htarget hlist),
      Dialogue.outcome_andThen_ok ih, kindsRequests_cons htarget]
    simp [Dialogue.outcome, Dialogue.run]

/-- Versions are asked for up to the first of which the kinds cannot be had. -/
theorem Listed.outcome_fails {before : List GroupVersion} {v : GroupVersion} {served : Served}
    {requests : List Request} {e : ApiError} (h : Listed server history before served)
    (hfails : VersionFails server (history ++ kindsRequests before) v requests e)
    (after : List GroupVersion) :
    (readVersions (before ++ v :: after)).outcome server history =
      (.error e, kindsRequests before ++ requests) := by
  induction h with
  | nil history =>
    rw [kindsRequests, List.filterMap_nil, List.append_nil] at hfails
    exact Dialogue.outcome_andThen_error hfails.outcome _
  | @cons history w vs served target list htarget hlist _ ih =>
    rw [kindsRequests_cons htarget, List.append_cons] at hfails
    rw [List.cons_append, readVersions, Dialogue.outcome_andThen_ok (outcome_read htarget hlist),
      Dialogue.outcome_andThen_error (ih hfails), kindsRequests_cons htarget]
    rfl

theorem GroupFails.outcome {g : Group} {requests : List Request} {e : ApiError}
    (h : GroupFails server history g requests e) :
    (readGroup g).outcome server history = (.error e, requests) := by
  cases h with
  | empty h =>
    rw [readGroup, h]
    rfl
  | @version before after v _ _ _ hsplit hbefore h =>
    have hversions : ¬ (before ++ v :: after).isEmpty = true := by simp
    rw [readGroup, hsplit, if_neg hversions]
    exact Dialogue.outcome_andThen_error (hbefore.outcome_fails h after) _

theorem outcome_readGroup {g : Group} {served : Served} (hversions : g.versions ≠ [])
    (hlisted : Listed server history g.versions served) :
    (readGroup g).outcome server history =
      (.ok (serves g.preferred? served), kindsRequests g.versions) := by
  rw [readGroup, if_neg (by simpa using hversions), Dialogue.outcome_andThen_ok hlisted.outcome]
  exact congrArg (Prod.mk _) (List.append_nil _)

/-- What is found in groups, of which the last one decides. -/
def found (otherwise : Bool) (groups : List Group) (served : List Served) : Bool :=
  ((groups.zip served).getLast?.map fun (g, s) => serves g.preferred? s).getD otherwise

theorem Surveyed.outcome {groups : List Group} {served : List Served}
    (h : Surveyed server history groups served) (otherwise : Bool) :
    (readLast otherwise groups).outcome server history =
      (.ok (found otherwise groups served), allRequests groups) := by
  -- what was found in a group is what stands where there is no other behind it
  induction h generalizing otherwise with
  | nil => rfl
  | @cons history g gs served rest hversions hlisted _ ih =>
    rw [readLast, Dialogue.outcome_andThen_ok (outcome_readGroup hversions hlisted), ih]
    refine Prod.ext (congrArg Except.ok ?_) rfl
    rw [found, found, List.zip_cons_cons, List.getLast?_cons]
    cases (gs.zip rest).getLast? with
    | none => rfl
    | some last => rfl

/-- Groups are gone through up to the first that fails. -/
theorem Surveyed.outcome_fails {before : List Group} {g : Group} {served : List Served}
    {requests : List Request} {e : ApiError} (h : Surveyed server history before served)
    (hfails : GroupFails server (history ++ allRequests before) g requests e) (after : List Group)
    (otherwise : Bool) :
    (readLast otherwise (before ++ g :: after)).outcome server history =
      (.error e, allRequests before ++ requests) := by
  induction h generalizing otherwise with
  | nil history =>
    rw [allRequests, List.flatMap_nil, List.append_nil] at hfails
    exact Dialogue.outcome_andThen_error hfails.outcome _
  | @cons history g' gs served rest hversions hlisted _ ih =>
    rw [allRequests_cons, ← List.append_assoc] at hfails
    rw [List.cons_append, readLast, Dialogue.outcome_andThen_ok (outcome_readGroup hversions hlisted),
      ih hfails, allRequests_cons, List.append_assoc]
    rfl

theorem outcome_readGroups {groups : Json}
    (h : (server history groupsRequest).read groupListSchema = .ok groups) :
    readGroups.outcome server history =
      (.ok ((values groups "groups").map .ofNormal), [groupsRequest]) := by
  have hread : (read groupListSchema "/apis").outcome server history = (.ok groups, [groupsRequest]) :=
    outcome_read rfl h
  rw [readGroups, Dialogue.outcome_andThen_ok hread]
  rfl

theorem Completed.outcome {groups : List Group} {served : List Served}
    (h : Completed server history groups served) :
    isServed.outcome server history =
      (.ok (found false groups served), groupsRequest :: allRequests groups) := by
  cases h with
  | intro hgroups h =>
    rw [isServed, Dialogue.outcome_andThen_ok (outcome_readGroups hgroups)]
    exact congrArg (Prod.map id (groupsRequest :: ·)) (h.outcome false)

theorem Stopped.outcome {requests : List Request} {e : ApiError}
    (h : Stopped server history requests e) :
    isServed.outcome server history = (.error e, requests) := by
  cases h with
  | groups h =>
    have hread : (read groupListSchema "/apis").outcome server history =
        (.error e, [groupsRequest]) := outcome_read rfl h
    exact Dialogue.outcome_andThen_error (Dialogue.outcome_andThen_error hread _) _
  | @group _ before after g _ _ _ hgroups hsplit hbefore h =>
    rw [List.append_cons] at h
    have hlast := hbefore.outcome_fails h after false
    rw [← hsplit] at hlast
    rw [isServed, Dialogue.outcome_andThen_ok (outcome_readGroups hgroups)]
    exact congrArg (Prod.map id (groupsRequest :: ·)) hlast

end Outcomes

/-! ## What is logged -/

theorem quiet_readVersions (versions : List GroupVersion) :
    (readVersions versions).quiet = readVersions versions := by
  induction versions with
  | nil => rfl
  | cons v vs ih =>
    simp only [readVersions, Dialogue.quiet_andThen, quiet_read, ih]
    rfl

theorem quiet_readLast (otherwise : Bool) (groups : List Group) :
    (readLast otherwise groups).quiet = readLast otherwise groups := by
  induction groups generalizing otherwise with
  | nil => rfl
  | cons g gs ih =>
    have hgroup : (readGroup g).quiet = readGroup g := by
      rw [readGroup]
      split
      · rfl
      · rw [Dialogue.quiet_andThen, quiet_readVersions]
        rfl
    simp only [readLast, Dialogue.quiet_andThen, hgroup, ih]

/-- Nothing is logged while the cluster is asked. -/
theorem events_isServed (server : Server) (history : List Request) :
    (isServed.run server history).events = [] := by
  have hgroups : readGroups.quiet = readGroups := by
    rw [readGroups, Dialogue.quiet_andThen, quiet_read]
    rfl
  have hquiet : isServed.quiet = isServed := by
    rw [isServed, Dialogue.quiet_andThen, hgroups]
    simp only [quiet_readLast]
  rw [← hquiet]
  exact Dialogue.events_quiet server history isServed

/-- What is logged if the cluster serves Helm charts. -/
def available : Event :=
  ⟨.info, [⟨"ensure_helm_chart_crd", [], .info, source⟩], source,
    "HelmChart CRD (helm.cattle.io/v1) is available", []⟩

/-- What the preflight makes of asking the cluster. -/
def conclude : Except ApiError Bool → Dialogue (Except ProvisionError Unit)
  | .ok true =>
    .log (.plain .info source s!"HelmChart CRD ({chartGroup}/{chartVersion}) is available") (.done (.ok ()))
  | .ok false => .done (.error .notServed)
  | .error e => .done (.error (.api e))

theorem ensure_eq :
    ensure = .within ⟨"ensure_helm_chart_crd", [], .info, source⟩ (isServed.bind conclude) := by
  rw [ensure, Dialogue.andThen, Dialogue.mapError, Dialogue.bind_assoc]
  congr
  funext answer
  rcases answer with e | served | served <;> rfl

/-- What comes of the preflight and what is logged, given what comes of asking the cluster. -/
def verdict : Except ApiError Bool → Except ProvisionError Unit × List Event
  | .ok true => (.ok (), [available])
  | .ok false => (.error .notServed, [])
  | .error e => (.error (.api e), [])

/-- The preflight asks what asking the cluster asks, and its verdict is that on the outcome. -/
theorem run_ensure {server : Server} {history : List Request} {answer : Except ApiError Bool}
    {requests : List Request} (h : isServed.outcome server history = (answer, requests)) :
    let run := ensure.run server history
    run.requests = requests ∧ (run.result, run.events) = verdict answer := by
  intro run
  obtain ⟨hanswer, hrequests⟩ := Prod.mk.inj h
  have houtcome : ensure.outcome server history = _ :=
    (ensure_eq ▸ Dialogue.outcome_within ..).trans (Dialogue.outcome_bind h conclude)
  obtain ⟨hresult, hasked⟩ := Prod.mk.inj houtcome
  have hlogged : run.events = (((conclude answer).run server (history ++ requests)).events).map
      (Event.within ⟨"ensure_helm_chart_crd", [], .info, source⟩) := by
    simp only [run, ensure_eq, Dialogue.events_within, Dialogue.events_bind, events_isServed,
      hanswer, hrequests, List.nil_append]
  have hsilent : ((conclude answer).run server (history ++ requests)).requests = [] := by
    rcases answer with e | served | served <;> rfl
  refine ⟨hasked.trans ((congrArg (requests ++ ·) hsilent).trans (List.append_nil _)), ?_⟩
  refine Prod.ext ?_ ?_
  · refine hresult.trans ?_
    rcases answer with e | served | served <;> rfl
  · refine hlogged.trans ?_
    rcases answer with e | served | served
    · rfl
    · rfl
    · have hmessage : s!"HelmChart CRD ({chartGroup}/{chartVersion}) is available" =
          "HelmChart CRD (helm.cattle.io/v1) is available" := by decide
      rw [conclude, hmessage]
      rfl

/-! ## What is asked -/

theorem asksOnly_readVersions (versions : List GroupVersion) :
    Dialogue.AsksOnly Request.Reads (readVersions versions) := by
  induction versions with
  | nil => exact .done _
  | cons v vs ih => exact .andThen (asksOnly_read ..) fun _ => .andThen ih fun _ => .done _

theorem asksOnly_readLast (found : Bool) (groups : List Group) :
    Dialogue.AsksOnly Request.Reads (readLast found groups) := by
  induction groups generalizing found with
  | nil => exact .done _
  | cons g gs ih =>
    refine .andThen ?_ ih
    rw [readGroup]
    split
    · exact .done _
    · exact .andThen (asksOnly_readVersions g.versions) fun _ => .done _

/-- The preflight only reads. -/
theorem asksOnly_ensure : Dialogue.AsksOnly Request.Reads ensure := by
  have hgroups : Dialogue.AsksOnly Request.Reads readGroups :=
    .andThen (asksOnly_read ..) fun _ => .done _
  have hserved : Dialogue.AsksOnly Request.Reads isServed :=
    hgroups.andThen fun _ => asksOnly_readLast false _
  refine .within (.andThen (hserved.mapError _) fun served => ?_) _
  cases served with
  | true => exact .log _ (.done _)
  | false => exact .done _

/-! ## Kinds -/

/-- A list has the kind of Helm charts in their version, and not below another kind. -/
def ListsCharts (list : ResourceList) : Prop :=
  ∃ r ∈ list.resources, r.kind = "HelmChart" ∧ '/' ∉ r.name.toList ∧
    r.version?.getD (versionOf list.groupVersion) = "v1"

theorem hasChart_iff {list : ResourceList} : list.hasChart = true ↔ ListsCharts list := by
  simp only [ResourceList.hasChart, List.any_eq_true, Resource.isChart, ListsCharts, chartKind,
    chartVersion]
  grind

/-! ## What the preflight finds -/

/-- The list that counts in the last group has Helm charts. -/
def Recommended (groups : List Group) (served : List Served) : Prop :=
  ∃ g s list, (groups.zip served).getLast? = some (g, s) ∧
    s.lookup (recommendedVersion g.preferred? s) = some list ∧ ListsCharts list

theorem found_iff {groups : List Group} {served : List Served} :
    found false groups served = true ↔ Recommended groups served := by
  rw [found, Recommended]
  cases hlast : (groups.zip served).getLast? with
  | none => simp
  | some last =>
    obtain ⟨g, s⟩ := last
    simp only [Option.map_some, Option.getD_some, serves]
    constructor
    · intro hserves
      cases hlist : s.lookup (recommendedVersion g.preferred? s) with
      | none => simp [hlist] at hserves
      | some list =>
        rw [hlist] at hserves
        exact ⟨g, s, list, rfl, hlist, hasChart_iff.mp hserves⟩
    · rintro ⟨_, _, list, hequal, hlist, hcharts⟩
      cases hequal
      rw [hlist]
      exact hasChart_iff.mpr hcharts

/-- The list that counts was received. -/
theorem Recommended.exists_list {groups : List Group} {served : List Served}
    (h : Recommended groups served) : ∃ s ∈ served, ∃ list ∈ s.map Prod.snd, ListsCharts list := by
  obtain ⟨g, s, list, hlast, hlist, hcharts⟩ := h
  have hserved : s ∈ served := (List.of_mem_zip (List.mem_of_getLast? hlast)).2
  generalize recommendedVersion g.preferred? s = version at hlist
  obtain ⟨front, back, rfl, -⟩ := List.lookup_eq_some_iff.mp hlist
  have hmem : (version, list) ∈ front ++ (version, list) :: back :=
    List.mem_append_right front List.mem_cons_self
  exact ⟨_, hserved, list, List.mem_map_of_mem hmem, hcharts⟩

section Runs

variable {server : Server} {history : List Request}

/-- At the end the list that counts decides. -/
theorem Completed.run {groups : List Group} {served : List Served}
    (h : Completed server history groups served) :
    let run := ensure.run server history
    run.requests = groupsRequest :: allRequests groups ∧
      (Recommended groups served ∧ run.result = .ok () ∧ run.events = [available] ∨
        ¬ Recommended groups served ∧ run.result = .error .notServed ∧ run.events = []) := by
  obtain ⟨hrequests, hverdict⟩ := run_ensure h.outcome
  refine ⟨hrequests, ?_⟩
  rw [← found_iff]
  cases hfound : found false groups served with
  | true =>
    rw [hfound] at hverdict
    exact .inl ⟨rfl, Prod.mk.inj hverdict⟩
  | false =>
    rw [hfound] at hverdict
    exact .inr ⟨Bool.false_ne_true, Prod.mk.inj hverdict⟩

/-- Where it stops the API has failed. -/
theorem Stopped.run {requests : List Request} {e : ApiError} (h : Stopped server history requests e) :
    let run := ensure.run server history
    run.requests = requests ∧ run.result = .error (.api e) ∧ run.events = [] := by
  obtain ⟨hrequests, hverdict⟩ := run_ensure h.outcome
  exact ⟨hrequests, Prod.mk.inj hverdict⟩

/-- There are three ways in which the preflight ends. -/
theorem ensure_cases (server : Server) (history : List Request) :
    let run := ensure.run server history
    (∃ groups served, Completed server history groups served ∧ Recommended groups served ∧
        run.result = .ok () ∧ run.events = [available]) ∨
      (∃ groups served, Completed server history groups served ∧ ¬ Recommended groups served ∧
        run.result = .error .notServed ∧ run.events = []) ∨
      ∃ e, Stopped server history run.requests e ∧ run.result = .error (.api e) ∧ run.events = [] := by
  rcases completed_or_stopped server history with ⟨groups, served, h⟩ | ⟨requests, e, h⟩
  · rcases h.run.2 with hfound | hmissing
    · exact .inl ⟨groups, served, h, hfound⟩
    · exact .inr (.inl ⟨groups, served, h, hmissing⟩)
  · obtain ⟨hrequests, hrest⟩ := h.run
    exact .inr (.inr ⟨e, hrequests ▸ h, hrest⟩)

theorem ensure_ok_iff : (ensure.run server history).result = .ok () ↔
    ∃ groups served, Completed server history groups served ∧ Recommended groups served := by
  constructor
  · intro hok
    rcases ensure_cases server history with
      ⟨groups, served, h, hcharts, -⟩ | ⟨_, _, -, -, hresult, -⟩ | ⟨e, -, hresult, -⟩
    · exact ⟨groups, served, h, hcharts⟩
    · cases hok.symm.trans hresult
    · cases hok.symm.trans hresult
  · rintro ⟨groups, served, h, hcharts⟩
    rcases h.run.2 with ⟨-, hresult, -⟩ | ⟨hnone, -, -⟩
    · exact hresult
    · contradiction

theorem ensure_notServed_iff : (ensure.run server history).result = .error .notServed ↔
    ∃ groups served, Completed server history groups served ∧ ¬ Recommended groups served := by
  constructor
  · intro herror
    rcases ensure_cases server history with
      ⟨_, _, -, -, hresult, -⟩ | ⟨groups, served, h, hnone, -⟩ | ⟨e, -, hresult, -⟩
    · cases herror.symm.trans hresult
    · exact ⟨groups, served, h, hnone⟩
    · cases herror.symm.trans hresult
  · rintro ⟨groups, served, h, hnone⟩
    rcases h.run.2 with ⟨hcharts, -, -⟩ | ⟨-, hresult, -⟩
    · contradiction
    · exact hresult

end Runs

/-- Whatever the cluster answers, the preflight only reads.  It asks for the groups and for the kinds of
all versions of those of Helm charts, or it stops where it fails and reports why.  It is passed if and
only if it comes to the end and the list that counts has Helm charts, so that a list was received that
has them; if that list has none, no Helm charts are served; and else the API has failed.  Something is
logged only if it is passed. -/
theorem ensure_finds (server : Server) (history : List Request) :
    let run := ensure.run server history
    (∀ r ∈ run.requests, r.Reads) ∧
      ((∃ groups served, Completed server history groups served ∧
          run.requests = groupsRequest :: allRequests groups) ∨
        ∃ e, Stopped server history run.requests e ∧ run.result = .error (.api e)) ∧
      (run.result = .ok () ↔
        ∃ groups served, Completed server history groups served ∧ Recommended groups served) ∧
      (run.result = .ok () → ∃ groups served, Completed server history groups served ∧
        ∃ s ∈ served, ∃ list ∈ s.map Prod.snd, ListsCharts list) ∧
      (run.result = .error .notServed ↔
        ∃ groups served, Completed server history groups served ∧ ¬ Recommended groups served) ∧
      (run.result = .ok () ∨ run.result = .error .notServed ∨ ∃ e, run.result = .error (.api e)) ∧
      (run.result = .ok () ∧ run.events = [available] ∨ run.result ≠ .ok () ∧ run.events = []) := by
  intro run
  refine ⟨asksOnly_ensure.mem_requests server history, ?_, ensure_ok_iff, fun hok => ?_,
    ensure_notServed_iff, ?_, ?_⟩
  · rcases ensure_cases server history with
      ⟨groups, served, h, -⟩ | ⟨groups, served, h, -⟩ | ⟨e, h, hresult, -⟩
    · exact .inl ⟨groups, served, h, h.run.1⟩
    · exact .inl ⟨groups, served, h, h.run.1⟩
    · exact .inr ⟨e, h, hresult⟩
  · obtain ⟨groups, served, h, hcharts⟩ := ensure_ok_iff.mp hok
    exact ⟨groups, served, h, hcharts.exists_list⟩
  · rcases ensure_cases server history with
      ⟨_, _, -, -, hresult, -⟩ | ⟨_, _, -, -, hresult, -⟩ | ⟨e, -, hresult, -⟩
    · exact .inl hresult
    · exact .inr (.inl hresult)
    · exact .inr (.inr ⟨e, hresult⟩)
  · rcases ensure_cases server history with
      ⟨_, _, -, -, hresult, hevents⟩ | ⟨_, _, -, -, hresult, hevents⟩ | ⟨e, -, hresult, hevents⟩
    · exact .inl ⟨hresult, hevents⟩
    · exact .inr ⟨fun hok => (nomatch hok.symm.trans hresult), hevents⟩
    · exact .inr ⟨fun hok => (nomatch hok.symm.trans hresult), hevents⟩

end Preflight

end BackingServices
