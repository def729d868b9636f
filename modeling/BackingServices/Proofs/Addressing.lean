import BackingServices.Proofs.Stages
import Mathlib.Data.List.TakeWhile

/-!
# Where the objects of arbitrary names go

The names of a namespace and of a release are pasted into the path of a request as they are.  A server
takes the path apart again.  It finds the names that the body has, and the query that says who writes,
if no name has a slash, a question mark, a number sign, or a percent sign with two hexadecimal digits
behind it, and only then (`addressed_iff`).  Such a name stands for itself in a path (`Literal`).

The way back needs care.  A question mark cuts the path off and a number sign the query, so that a name
may bring a query of its own along.  But then the segments of the path cannot have the size that the
names have, since decoding never makes a segment longer (`path_eq_of_segments`).
-/

namespace BackingServices

open Cluster (Dialogue Handle Request Server)

/-! ## Paths that are put together -/

/-- A name that stands for itself in a path. -/
structure Literal (name : String) : Prop where
  /-- It is a single segment. -/
  slash : '/' ∉ name.toList
  /-- Nothing in it ends a path or a query. -/
  ends : ∀ c ∈ name.toList, c ≠ '?' ∧ c ≠ '#'
  /-- It has no percent sign with two hexadecimal digits behind it. -/
  escape : ¬ Url.HasEscape name.toList

section Joining

variable {parts : List (List Char)} {texts : List String} {path : List Char}

/-- What holds of a slash holds of all characters of joined parts if it holds of those of the parts. -/
theorem forall_mem_intercalate_iff {p : Char → Prop} (hslash : p '/') :
    (∀ c ∈ ['/'].intercalate parts, p c) ↔ ∀ part ∈ parts, ∀ c ∈ part, p c := by
  induction parts with
  | nil => simp [List.intercalate]
  | cons part parts ih =>
    cases parts with
    | nil => simp [List.intercalate]
    | cons next parts =>
      rw [List.intercalate_cons_cons, List.append_assoc, List.forall_mem_append,
        List.forall_mem_append, List.forall_mem_singleton, ih, and_iff_right hslash,
        List.forall_mem_cons (a := part)]

/-- How many bytes parts have with a slash behind each of them. -/
def slashedSize : List (List UInt8) → Nat
  | [] => 0
  | bytes :: parts => bytes.length + 1 + slashedSize parts

theorem slashedSize_map_le {f g : List Char → List UInt8}
    (h : ∀ part, (f part).length ≤ (g part).length) (parts : List (List Char)) :
    slashedSize (parts.map f) ≤ slashedSize (parts.map g) := by
  induction parts with
  | nil => exact Nat.le_refl 0
  | cons part parts ih => exact Nat.add_le_add (Nat.succ_le_succ (h part)) ih

/-- Parts with slashes between them have as many bytes as the parts and the slashes. -/
theorem length_encode_intercalate (hne : parts ≠ []) :
    (Text.encode (String.ofList (['/'].intercalate parts))).length + 1 =
      slashedSize (parts.map fun part => Text.encode (String.ofList part)) := by
  induction parts with
  | nil => contradiction
  | cons part parts ih =>
    cases parts with
    | nil => simp [List.intercalate, slashedSize]
    | cons next parts =>
      have hslash : (String.utf8EncodeChar '/').length = 1 := by decide
      rw [List.map_cons, slashedSize, ← ih (List.cons_ne_nil _ _), List.intercalate_cons_cons,
        Text.encode_ofList, Text.encode_ofList, Text.encode_ofList, List.flatMap_append,
        List.flatMap_append, List.flatMap_singleton, List.length_append, List.length_append, hslash]
      omega

/-- Parts with slashes between them are split at these slashes, and each part where it has more. -/
theorem splitOn_intercalate_flatMap (hne : parts ≠ []) :
    (['/'].intercalate parts).splitOn '/' = parts.flatMap (List.splitOn '/') := by
  induction parts with
  | nil => contradiction
  | cons part parts ih =>
    cases parts with
    | nil => simp [List.intercalate]
    | cons next parts =>
      rw [List.intercalate_cons_cons, List.append_assoc, List.singleton_append,
        List.splitOn_append_cons_self, ih (List.cons_ne_nil _ _)]
      rfl

/-- If there are as many segments as parts, then no part has a slash. -/
theorem not_mem_of_length_splitOn (h : (parts.flatMap (List.splitOn '/')).length = parts.length) :
    ∀ part ∈ parts, '/' ∉ part := by
  have hpos (part : List Char) : 1 ≤ (part.splitOn '/').length :=
    List.length_pos_iff.mpr (List.splitOn_ne_nil '/' part)
  have hle (parts : List (List Char)) : parts.length ≤ (parts.flatMap (List.splitOn '/')).length := by
    induction parts with
    | nil => exact Nat.le_refl 0
    | cons part parts ih =>
      have := hpos part
      simp only [List.flatMap_cons, List.length_append, List.length_cons]
      omega
  induction parts with
  | nil => simp
  | cons part parts ih =>
    have hpart := hpos part
    have hparts := hle parts
    simp only [List.flatMap_cons, List.length_append, List.length_cons] at h
    refine List.forall_mem_cons.mpr ⟨fun hslash => ?_, ih (by omega)⟩
    obtain ⟨before, behind, rfl⟩ := List.append_of_mem hslash
    rw [List.splitOn_append_cons_self, List.length_append] at h
    have hbefore := hpos before
    have hbehind := hpos behind
    omega

/-- The bytes that a segment of a path stands for. -/
def segmentBytes (segment : List Char) : List UInt8 :=
  Url.percentDecode (Text.encode (String.ofList segment))

/-- If texts are joined to a path, and a piece at its front has the texts as its segments, then the
piece is the whole path. -/
theorem path_eq_of_segments (hne : texts ≠ [])
    (hfront : path <+: ['/'].intercalate (texts.map String.toList))
    (h : (path.splitOn '/').map segmentBytes = texts.map Text.encode) :
    path = ['/'].intercalate (texts.map String.toList) := by
  obtain ⟨rest, hwhole⟩ := hfront
  -- the segments have at least the size of the texts, so that nothing is left for the rest
  have hsegments := length_encode_intercalate (List.splitOn_ne_nil '/' path)
  have hne' : texts.map String.toList ≠ [] := by simpa using hne
  have htexts : (Text.encode (String.ofList (['/'].intercalate (texts.map String.toList)))).length + 1 =
      slashedSize (texts.map Text.encode) := by
    rw [length_encode_intercalate hne', List.map_map]
    simp only [Function.comp_def, String.ofList_toList]
  have hle := slashedSize_map_le (f := segmentBytes) (g := fun part => Text.encode (String.ofList part))
    (fun part => Url.length_percentDecode_le _) (path.splitOn '/')
  rw [h] at hle
  rw [List.intercalate_splitOn, Text.encode_ofList] at hsegments
  rw [← hwhole, Text.encode_ofList, List.flatMap_append, List.length_append] at htexts
  cases rest with
  | nil => rw [← hwhole, List.append_nil]
  | cons c rest =>
    have hpos := c.utf8Size_pos
    rw [List.flatMap_cons, List.length_append, String.length_utf8EncodeChar] at htexts
    omega

/-- The segments of joined texts are these texts if they have no slash and no escape, and only then. -/
theorem segments_of_joined_iff (hne : texts ≠ []) :
    ((['/'].intercalate (texts.map String.toList)).splitOn '/').map segmentBytes =
        texts.map Text.encode ↔
      ∀ s ∈ texts, '/' ∉ s.toList ∧ ¬ Url.HasEscape s.toList := by
  have hne' : texts.map String.toList ≠ [] := by simpa using hne
  have hdecode (s : String) : segmentBytes s.toList = Text.encode s ↔ ¬ Url.HasEscape s.toList := by
    rw [segmentBytes, String.ofList_toList, ← Url.percentDecode_encode_ne_iff, not_not]
  have hsegments : (texts.map String.toList).map segmentBytes = texts.map Text.encode ↔
      ∀ s ∈ texts, ¬ Url.HasEscape s.toList := by
    rw [List.map_map, List.map_inj_left]
    exact forall₂_congr fun s _ => hdecode s
  constructor
  · intro h
    have hlength := congrArg List.length h
    rw [List.length_map, List.length_map, splitOn_intercalate_flatMap hne'] at hlength
    have hslash : ∀ part ∈ texts.map String.toList, '/' ∉ part :=
      not_mem_of_length_splitOn (hlength.trans (List.length_map _).symm)
    rw [List.splitOn_intercalate '/' hslash hne'] at h
    exact fun s hs => ⟨hslash _ (List.mem_map_of_mem hs), hsegments.mp h s hs⟩
  · intro h
    have hslash : ∀ part ∈ texts.map String.toList, '/' ∉ part := by
      intro part hpart
      obtain ⟨s, hs, rfl⟩ := List.mem_map.mp hpart
      exact (h s hs).1
    rw [List.splitOn_intercalate '/' hslash hne']
    exact hsegments.mpr fun s hs => (h s hs).2

end Joining

/-! ## Targets of joined names -/

/-- What is read in front of a question mark is a path up to where it ends. -/
theorem Uri.parseTarget_ok {path query : List Char} {t : Target}
    (h : parseTarget (path ++ '?' :: query) = .ok t) :
    t.path = String.ofList (path.takeWhile fun c => !endsPath c) ∧
      (path.takeWhile fun c => !endsPath c).all isPathChar = true := by
  have hpath : (path ++ '?' :: query).takeWhile (fun c => !endsPath c) =
      path.takeWhile fun c => !endsPath c :=
    Text.takeWhile_append_of_stop (by simp [endsPath])
  rw [parseTarget, hpath] at h
  split at h
  · rename_i hall
    split at h
    · cases hparse : parseQuery _ with
      | error e =>
        rw [hparse] at h
        contradiction
      | ok text =>
        rw [hparse] at h
        cases h
        exact ⟨rfl, hall⟩
    · cases h
      exact ⟨rfl, hall⟩
  · contradiction

/-- A target that is read from joined texts and a query has the texts as its segments if all of them
stand for themselves, and only then.  Then it has the query, too. -/
theorem segments_parseTarget_iff {texts : List String} {query : List Char} {t : Target}
    (hne : texts ≠ []) (hquery : ∀ c ∈ query, Uri.isQueryChar c = true)
    (h : Uri.parseTarget (['/'].intercalate (texts.map String.toList) ++ '?' :: query) = .ok t) :
    (t.segments = texts.map Text.encode ↔ ∀ s ∈ texts, Literal s) ∧
      ((∀ s ∈ texts, Literal s) → t.query? = some (String.ofList query)) := by
  obtain ⟨hpath, hchars⟩ := Uri.parseTarget_ok h
  have hsegments : t.segments =
      (((['/'].intercalate (texts.map String.toList)).takeWhile fun c =>
        !Uri.endsPath c).splitOn '/').map segmentBytes := by
    rw [Target.segments, hpath, String.toList_ofList]
    rfl
  -- nothing ends the path earlier if and only if nothing in the texts does
  have hends : (['/'].intercalate (texts.map String.toList)).takeWhile (fun c => !Uri.endsPath c) =
      ['/'].intercalate (texts.map String.toList) ↔
        ∀ s ∈ texts, ∀ c ∈ s.toList, c ≠ '?' ∧ c ≠ '#' := by
    rw [List.takeWhile_eq_self_iff, forall_mem_intercalate_iff (by decide), List.forall_mem_map]
    simp [Uri.endsPath]
  have hliteral : (∀ s ∈ texts, Literal s) ↔
      (∀ s ∈ texts, ∀ c ∈ s.toList, c ≠ '?' ∧ c ≠ '#') ∧
        ∀ s ∈ texts, '/' ∉ s.toList ∧ ¬ Url.HasEscape s.toList :=
    ⟨fun h => ⟨fun s hs => (h s hs).ends, fun s hs => ⟨(h s hs).slash, (h s hs).escape⟩⟩,
      fun h s hs => ⟨(h.2 s hs).1, h.1 s hs, (h.2 s hs).2⟩⟩
  rw [hliteral, hsegments, ← segments_of_joined_iff hne, ← hends]
  constructor
  · constructor
    · intro hsegments
      have hwhole := path_eq_of_segments hne (List.takeWhile_prefix _) hsegments
      exact ⟨hwhole, hwhole ▸ hsegments⟩
    · rintro ⟨hwhole, hjoined⟩
      rw [hwhole, hjoined]
  · rintro ⟨hwhole, -⟩
    rw [hwhole, List.all_eq_true] at hchars
    rw [Uri.parseTarget_query hchars hquery] at h
    cases h
    rfl

/-! ## Objects that are applied -/

/-- A request is sent where the namespace of some name is applied, or where some deployment is
submitted. -/
inductive MayApply (r : Request) : Prop where
  | ofNamespace (name : String) (server : Server) (history : List Request)
      (h : r ∈ ((applyNamespace name).run server history).requests)
  | ofSubmission (cluster : Handle) (d : Deployment) (server : Server) (history : List Request)
      (h : r ∈ ((submit cluster d).run server history).requests)

/-- The names that the body of a request has: that of the namespace, if there is one, and its own. -/
def Cluster.Request.names (r : Request) : List String :=
  [["metadata", "namespace"], ["metadata", "name"]].filterMap r.bodyText?

/-- The parameters of a target's query, as a server takes them: the query is split at its ampersands,
and nothing between two of them is no parameter. -/
def Target.parameters (t : Target) : List String :=
  match t.query? with
  | none => []
  | some query =>
    ((query.toList.splitOn '&').filter fun parameter => !parameter.isEmpty).map String.ofList

/-- A request that applies an object has the target of the collection and the name. -/
theorem Cluster.applyRequest_ok {collection name : String} {object : Json} {r : Request}
    (h : applyRequest collection name object = .ok r) :
    ∃ target, Uri.parseTarget ((collection ++ "/" ++ name).toList ++ '?' :: applyQuery.toList) =
        .ok target ∧
      r = ⟨.patch, target, some applyContentType, some object⟩ := by
  rw [applyRequest] at h
  split at h
  · contradiction
  · rw [Uri.parseRequest, applyPath_toList] at h
    split at h
    · contradiction
    · rename_i target hparse
      split at hparse
      · contradiction
      · cases h
        exact ⟨target, hparse, rfl⟩

/-- Whether a character stands for itself in a path, whatever is around it. -/
def isOrdinary (c : Char) : Bool := c != '/' && c != '?' && c != '#' && c != '%'

theorem Literal.of_ordinary {name : String} (h : name.toList.all isOrdinary = true) :
    Literal name := by
  have hchar (c : Char) (hc : c ∈ name.toList) : c ≠ '/' ∧ c ≠ '?' ∧ c ≠ '#' ∧ c ≠ '%' := by
    have := List.all_eq_true.mp h c hc
    simpa [isOrdinary, and_assoc] using this
  refine {
    slash := fun hmem => (hchar '/' hmem).1 rfl
    ends := fun c hc => ⟨(hchar c hc).2.1, (hchar c hc).2.2.1⟩
    escape := ?_ }
  rintro ⟨front, high, low, back, hsplit, -⟩
  exact (hchar '%' (hsplit ▸ List.mem_append_right front List.mem_cons_self)).2.2.2 rfl

theorem addressed_namespace_iff {name : String} {r : Request}
    (h : namespaceRequest? name = .ok r) : (∃ named, Addresses named r) ↔ Literal name := by
  obtain ⟨target, hparse, rfl⟩ := Cluster.applyRequest_ok h
  have hjoined : (namespacesPath ++ "/" ++ name).toList =
      ['/'].intercalate (["", "api", "v1", "namespaces", name].map String.toList) := by
    simp [namespacesPath, List.intercalate, List.intersperse]
  rw [hjoined] at hparse
  obtain ⟨hsegments, hquery⟩ := segments_parseTarget_iff (List.cons_ne_nil _ _)
    (List.all_eq_true.mp (by decide)) hparse
  have hfixed : ∀ s ∈ ["", "api", "v1", "namespaces"], Literal s := fun s hs => .of_ordinary (by
    revert s
    decide)
  have htexts : (∀ s ∈ ["", "api", "v1", "namespaces", name], Literal s) ↔ Literal name :=
    ⟨fun h => h name (by simp), fun h => by simpa [h] using hfixed⟩
  rw [htexts] at hsegments hquery
  constructor
  · rintro ⟨named, haddresses⟩
    cases haddresses with
    | ofNamespace _ _ hpath _ hname =>
      obtain rfl : name = named := Option.some.inj hname
      exact hsegments.mp hpath
    | ofChart release _ _ _ hkind =>
      have : "Namespace" = "HelmChart" := Option.some.inj hkind
      exact absurd this (by decide)
  · intro hliteral
    exact ⟨name, .ofNamespace rfl (hquery hliteral) (hsegments.mpr hliteral) rfl rfl rfl⟩

theorem addressed_chart_iff {d : Deployment} {r : Request} (h : d.chartRequest? = .ok r) :
    (∃ named, Addresses named r) ↔ Literal d.targetNamespace ∧ Literal d.releaseName := by
  obtain ⟨target, hparse, rfl⟩ := Cluster.applyRequest_ok h
  have hjoined : (chartsPath d.targetNamespace ++ "/" ++ d.releaseName).toList =
      ['/'].intercalate (["", "apis", "helm.cattle.io", "v1", "namespaces", d.targetNamespace,
        "helmcharts", d.releaseName].map String.toList) := by
    simp [chartsPath, HelmChart.apiVersion, chartGroup, chartVersion, List.intercalate, List.intersperse]
  rw [hjoined] at hparse
  obtain ⟨hsegments, hquery⟩ := segments_parseTarget_iff (List.cons_ne_nil _ _)
    (List.all_eq_true.mp (by decide)) hparse
  have hfixed : ∀ s ∈ ["", "apis", "helm.cattle.io", "v1", "namespaces", "helmcharts"], Literal s :=
    fun s hs => .of_ordinary (by
      revert s
      decide)
  have htexts : (∀ s ∈ ["", "apis", "helm.cattle.io", "v1", "namespaces", d.targetNamespace,
      "helmcharts", d.releaseName], Literal s) ↔ Literal d.targetNamespace ∧ Literal d.releaseName :=
    ⟨fun h => ⟨h _ (by simp), h _ (by simp)⟩, fun h => by simpa [h.1, h.2] using hfixed⟩
  rw [htexts] at hsegments hquery
  constructor
  · rintro ⟨named, haddresses⟩
    cases haddresses with
    | ofNamespace _ _ _ hkind =>
      have : "HelmChart" = "Namespace" := Option.some.inj hkind
      exact absurd this (by decide)
    | ofChart release _ _ hpath _ hname hnamespace =>
      obtain rfl : d.releaseName = release := Option.some.inj hname
      obtain rfl : d.targetNamespace = named := Option.some.inj hnamespace
      exact hsegments.mp hpath
  · intro hliteral
    exact ⟨d.targetNamespace, .ofChart d.releaseName rfl (hquery hliteral) (hsegments.mpr hliteral)
      rfl rfl rfl d.bodyText?_targetNamespace⟩

theorem Addresses.parameters {name : String} {r : Request} (h : Addresses name r) :
    r.target.parameters = ["force=true", "fieldManager=quartermaster"] := by
  rw [Target.parameters, h.query]
  decide +kernel

/-- A request that applies an object addresses the object that its body describes, and has the two
parameters of a writer who takes over, if the names in its body stand for themselves in a path.  If one
of them does not, it addresses another object or has another query. -/
theorem addressed_iff {r : Request} (h : MayApply r) :
    (∃ name, Addresses name r ∧
        r.target.parameters = ["force=true", "fieldManager=quartermaster"]) ↔
      ∀ name ∈ r.names, Literal name := by
  have hparameters : (∃ name, Addresses name r ∧
      r.target.parameters = ["force=true", "fieldManager=quartermaster"]) ↔
        ∃ name, Addresses name r :=
    exists_congr fun name => and_iff_left_of_imp Addresses.parameters
  have hnamespace {name : String} (h : namespaceRequest? name = .ok r) :
      (∃ name, Addresses name r) ↔ ∀ name ∈ r.names, Literal name := by
    have hnames : r.names = [name] := by
      obtain ⟨target, -, rfl⟩ := Cluster.applyRequest_ok h
      rfl
    rw [addressed_namespace_iff h, hnames, List.forall_mem_singleton]
  rw [hparameters]
  cases h with
  | ofNamespace name server history h => exact hnamespace (mem_requests_applyNamespace h)
  | ofSubmission cluster d server history h =>
    rcases mem_requests_submit h with h | h
    · exact hnamespace h
    · have hnames : r.names = [d.targetNamespace, d.releaseName] := by
        obtain ⟨target, -, rfl⟩ := Cluster.applyRequest_ok h
        rfl
      rw [addressed_chart_iff h, hnames, List.forall_mem_cons, List.forall_mem_singleton]

namespace MayApply

variable {r : Request}

theorem of_namespaceRequest? {name : String} (h : namespaceRequest? name = .ok r) : MayApply r := by
  refine .ofNamespace name obliging [] ?_
  have hend := stageEnd_applyNamespace name obliging []
  generalize (applyNamespace name).run obliging [] = run at hend
  cases hend with
  | unsent h' =>
    rw [h] at h'
    contradiction
  | refused h' | accepted h' =>
    obtain rfl := Except.ok.inj (h.symm.trans h')
    exact List.mem_singleton_self r

theorem of_chartRequest? {d : Deployment} {n : Request} (hready : d.blockUntilReady = false)
    (hn : namespaceRequest? d.targetNamespace = .ok n) (h : d.chartRequest? = .ok r) : MayApply r := by
  -- a server that accepts the namespace is asked for the Helm chart
  have haccepts : (obliging [] n).Accepts Cluster.namespaceSchema := by
    have hbody : n.body? = (namespaceRequest d.targetNamespace).body? :=
      Cluster.body?_applyRequest hn
    have hkind := bodyText?_congr hbody ["kind"]
    have hanswer : obliging [] n = obliging [] (namespaceRequest d.targetNamespace) := by
      rw [obliging, obliging, hkind]
    rw [hanswer]
    exact obliging_accepts_namespace [] d.targetNamespace
  refine .ofSubmission ⟨"test-cluster", "default"⟩ d obliging [] ?_
  have hend := submissionEnd_submit ⟨"test-cluster", "default"⟩ d obliging []
  generalize (submit ⟨"test-cluster", "default"⟩ d).run obliging [] = run at hend
  cases hend with
  | blocking hwait =>
    rw [hready] at hwait
    contradiction
  | namespaceUnsent _ hn' =>
    rw [hn] at hn'
    contradiction
  | namespaceRefused _ hn' hread =>
    obtain rfl := Except.ok.inj (hn.symm.trans hn')
    exact absurd haccepts (Cluster.Answer.not_accepts_of_read hread)
  | chartUnsent _ _ _ hc =>
    rw [h] at hc
    contradiction
  | chartRefused _ _ _ hc | submitted _ _ _ hc =>
    obtain rfl := Except.ok.inj (h.symm.trans hc)
    exact List.mem_cons_of_mem _ (List.mem_singleton_self r)

end MayApply

/-- The Helm chart of a release `redis` in the namespace `orders-prod` is addressed as it is
described. -/
theorem addressed_redis :
    let d := Service.cache.deployment .standard "orders-prod" ⟨[]⟩
    MayApply d.chartRequest ∧ d.chartRequest.names = ["orders-prod", "redis"] ∧
      ∃ name, Addresses name d.chartRequest ∧
        d.chartRequest.target.parameters = ["force=true", "fieldManager=quartermaster"] := by
  intro d
  have hname : FitForPath "orders-prod" := NamespaceName.fitForPath rfl
  have hn : namespaceRequest? d.targetNamespace = .ok (namespaceRequest "orders-prod") :=
    applyRequest_namespace hname _
  have hc : d.chartRequest? = .ok d.chartRequest :=
    applyRequest_chart hname Service.cache.fitForPath_chartName _
  have happly : MayApply d.chartRequest := .of_chartRequest? rfl hn hc
  have hliteral : ∀ name ∈ ["orders-prod", "redis"], Literal name :=
    fun name hname => .of_ordinary (by
      revert name
      decide)
  exact ⟨happly, rfl, (addressed_iff happly).mpr hliteral⟩

/-- The namespace `kube-system#x` is applied to `kube-system`, without saying who writes. -/
theorem applied_elsewhere :
    ∃ r, MayApply r ∧ r.method = .patch ∧
      r.bodyText? ["metadata", "name"] = some "kube-system#x" ∧
        r.target.text = "/api/v1/namespaces/kube-system" ∧ ∀ name, ¬ Addresses name r := by
  have hrequest : namespaceRequest? "kube-system#x" = .ok
      ⟨.patch, ⟨"/api/v1/namespaces/kube-system", none⟩, some Cluster.applyContentType,
        some (namespaceObject "kube-system#x")⟩ := rfl
  exact ⟨_, .of_namespaceRequest? hrequest, rfl, rfl, by decide, fun name h => nomatch h.query⟩

end BackingServices
