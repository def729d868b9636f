import BackingServices.Proofs.HelmChart
import BackingServices.Proofs.Manifest
import BackingServices.Proofs.Reading
import BackingServices.Proofs.Record

/-!
# Helm charts are stable documents

A document that is read as a Helm chart tells its fields one by one, null being as good as nothing, and
nothing else (`HelmChart.Told`).  The document of a Helm chart is read as the same Helm chart, so writing
what was read changes nothing any more (`HelmChart.reread`).  It may have been read from a value or from a
text, or may be that of a deployment.

Of the metadata that is so for the fields that have a name in `Metadata`.  A point in time, say, is written
in another form than it is read.
-/

namespace BackingServices

open Cluster (helmChartSchema helmChartSpecSchema objectMeta)

/-! ## Members that may be missing -/

theorem mem_optionalMember {key : String} {v? : Option Json} {m : String × Json} :
    m ∈ optionalMember key v? ↔ ∃ v, v? = some v ∧ m = (key, v) := by
  cases v? with
  | none => simp [optionalMember]
  | some v => simp [optionalMember]

theorem optionalMember_keys (key : String) (v? : Option Json) :
    ((optionalMember key v?).map Prod.fst).Sublist [key] := by
  cases v? with
  | none => exact List.nil_sublist _
  | some v => exact List.Sublist.refl _

namespace Fields

open Cluster (optionalFields)

theorem default?_optionalFields (key : String) (fields : List (String × Schema)) :
    (optionalFields fields).default? key = none := by
  induction fields with
  | nil => rfl
  | cons field fields ih =>
    rw [optionalFields, default?, ih]
    exact ite_self none

theorem complete_optionalFields {fields : List (String × Schema)} (read : List (String × Json)) :
    (optionalFields fields).Complete read := by
  induction fields with
  | nil => trivial
  | cons field fields ih => exact ⟨nofun, ih⟩

/-- Null is read as null for a field that is optional. -/
theorem read_null_optionalFields {fields : List (String × Schema)} {key : String} {s : Schema}
    (h : (optionalFields fields).schema? key = some s) : s.read .null = .ok .null := by
  induction fields with
  | nil => contradiction
  | cons field fields ih =>
    rw [optionalFields, schema?] at h
    split at h
    · obtain rfl := Option.some.inj h
      rw [Schema.read]
    · exact ih h

end Fields

/-! ## Specifications -/

namespace ChartSpec

/-- The members of a specification's document. -/
def members (s : ChartSpec) : List (String × Json) :=
  ("chart", .string s.chart) :: optionalMember "repo" (s.repo?.map .string) ++
    optionalMember "version" (s.version?.map .string) ++
    optionalMember "targetNamespace" (s.targetNamespace?.map .string) ++
    optionalMember "createNamespace" (s.createNamespace?.map .bool) ++
    optionalMember "valuesContent" (s.valuesContent?.map .string)

theorem nodup_members (s : ChartSpec) : (s.members.map Prod.fst).Nodup := by
  have hkeys : (s.members.map Prod.fst).Sublist helmChartSpecSchema.fields.names := by
    simp only [members, List.map_append, List.map_cons]
    exact (((((List.Sublist.refl ["chart"]).append (optionalMember_keys "repo" _)).append
      (optionalMember_keys "version" _)).append (optionalMember_keys "targetNamespace" _)).append
        (optionalMember_keys "createNamespace" _)).append (optionalMember_keys "valuesContent" _)
  exact hkeys.nodup (by decide)

/-- The members of a specification are read as they are. -/
theorem read_members (s : ChartSpec) {m : String × Json} (hm : m ∈ s.members) :
    m.2 ≠ .null ∧ ∀ schema, helmChartSpecSchema.fields.schema? m.1 = some schema →
      schema.read m.2 = .ok m.2 := by
  simp only [members, List.mem_append, List.mem_cons, mem_optionalMember, Option.map_eq_some_iff] at hm
  rcases hm with (((((rfl | hm) | hm) | hm) | hm) | hm)
  · refine ⟨by simp, fun schema h => ?_⟩
    obtain rfl := Option.some.inj h
    rfl
  all_goals
    obtain ⟨v, ⟨a, -, rfl⟩, rfl⟩ := hm
    refine ⟨by simp, fun schema h => ?_⟩
    obtain rfl := Option.some.inj h
    rfl

theorem read_toJson (s : ChartSpec) :
    ∃ w, helmChartSpecSchema.read s.toJson = .ok w ∧ ofNormal w = s := by
  have hcomplete : helmChartSpecSchema.fields.Complete s.members :=
    ⟨fun _ _ => lastRead?_isSome List.mem_cons_self, nofun, nofun, nofun, nofun, nofun, trivial⟩
  obtain ⟨w, hw, hget⟩ := Schema.exists_read_self (by decide) s.nodup_members (fun m => s.read_members)
    hcomplete
  refine ⟨w, hw, ?_⟩
  rw [← ofNormal_toJson s, ofNormal, ofNormal, hget "chart" _ rfl rfl, hget "repo" _ rfl rfl,
    hget "version" _ rfl rfl, hget "targetNamespace" _ rfl rfl, hget "createNamespace" _ rfl rfl,
    hget "valuesContent" _ rfl rfl]
  rfl

end ChartSpec

/-! ## Metadata -/

theorem texts_textsToJson (texts : List (String × String)) :
    Metadata.texts (textsToJson texts) = texts := by
  induction texts with
  | nil => rfl
  | cons t texts ih =>
    rw [textsToJson, List.map_cons, Metadata.texts, List.filterMap_cons]
    exact congrArg (t :: ·) ih

/-- An object of texts in rising order is read as it is. -/
theorem read_textsToJson {texts : List (String × String)}
    (h : (texts.map Prod.fst).Pairwise (· < ·)) :
    (Schema.dictionary .text).read (textsToJson texts) = .ok (textsToJson texts) := by
  let members : List (String × Json) := texts.map fun t => (t.1, .string t.2)
  have hrise : Json.KeysRise members := by
    rw [Json.KeysRise, List.map_map]
    exact h
  have hread : members.mapM (fun m => do .ok (m.1, ← Schema.text.read m.2)) = .ok members := by
    clear h hrise
    induction texts with
    | nil => rfl
    | cons t texts ih =>
      simp only [members, List.map_cons, List.mapM_cons] at ih ⊢
      rw [ih]
      rfl
  rw [textsToJson, Schema.read]
  change (do .ok (Json.ofMembers (← members.mapM fun m => do .ok (m.1, ← Schema.text.read m.2)))) =
    Except.ok (Json.object members)
  rw [hread, ← Json.ofMembers_of_keysRise hrise]
  rfl

namespace Metadata

/-- The labels and annotations have their keys in rising order. -/
structure Rising (m : Metadata) : Prop where
  labels : ∀ texts, m.labels? = some texts → (texts.map Prod.fst).Pairwise (· < ·)
  annotations : ∀ texts, m.annotations? = some texts → (texts.map Prod.fst).Pairwise (· < ·)

theorem toJson_eq {m : Metadata} (h : m.further = []) : m.toJson = .object m.members := by
  rw [toJson, h]
  rfl

/-- The fields that have a name are read back. -/
theorem ofNormal_members (m : Metadata) :
    ofNormal (.object m.members) = { m with further := [] } := by
  obtain ⟨name?, generateName?, namespaceName?, labels?, annotations?, further⟩ := m
  cases name? <;> cases generateName? <;> cases namespaceName? <;> cases labels? <;>
    cases annotations? <;>
      simp [ofNormal, members, optionalMember, Json.get?, Json.lookup_cons, texts_textsToJson, Json.text?,
        namedFields]

theorem keys_members (m : Metadata) : (m.members.map Prod.fst).Sublist namedFields := by
  simp only [members, List.map_append]
  exact ((((optionalMember_keys "annotations" _).append (optionalMember_keys "generateName" _)).append
    (optionalMember_keys "labels" _)).append (optionalMember_keys "name" _)).append
      (optionalMember_keys "namespace" _)

theorem nodup_members (m : Metadata) : (m.members.map Prod.fst).Nodup :=
  m.keys_members.nodup (by decide)

/-- The members of metadata are read as they are. -/
theorem read_members {m : Metadata} (h : m.Rising) {member : String × Json} (hm : member ∈ m.members) :
    member.2 ≠ .null ∧ ∀ schema, objectMeta.fields.schema? member.1 = some schema →
      schema.read member.2 = .ok member.2 := by
  simp only [members, List.mem_append, mem_optionalMember, Option.map_eq_some_iff] at hm
  rcases hm with ((((hm | hm) | hm) | hm) | hm) <;> obtain ⟨v, ⟨a, ha, rfl⟩, rfl⟩ := hm <;>
    refine ⟨by simp [textsToJson], fun schema hschema => ?_⟩ <;>
      obtain rfl := Option.some.inj hschema
  case inl.inl.inl.inl => exact read_textsToJson (h.annotations a ha)
  case inl.inl.inl.inr => rfl
  case inl.inl.inr => exact read_textsToJson (h.labels a ha)
  case inl.inr => rfl
  case inr => rfl

/-- Nothing else is known of metadata if it has no value for other fields. -/
theorem further_ofNormal {ms : List (String × Json)} :
    (ofNormal (.object ms)).further = [] ↔ ∀ key ∉ namedFields, (Json.object ms).get? key = none := by
  simp only [ofNormal, List.filter_eq_nil_iff, decide_eq_true_eq, not_not, Json.get?,
    List.lookup_eq_none_iff, bne_iff_ne]
  constructor
  · rintro hall key hkey m hm rfl
    exact hkey (hall m hm)
  · intro hall m hm
    by_contra hkey
    exact hall m.1 hkey m hm rfl

/-- Metadata is read back from its document if it has no fields but those that have a name. -/
theorem read_toJson {m : Metadata} (h : m.Rising) (hfurther : m.further = []) :
    ∃ w, objectMeta.read m.toJson = .ok w ∧ ofNormal w = m := by
  obtain ⟨w, hw, hget⟩ := Schema.exists_read_self (by decide) m.nodup_members (fun _ => read_members h)
    (Fields.complete_optionalFields _)
  rw [← toJson_eq hfurther] at hw
  refine ⟨w, hw, ?_⟩
  obtain ⟨ms, rfl, -⟩ := Schema.normal_of_read objectMeta hw
  have hnone : (ofNormal (.object ms)).further = [] := by
    refine further_ofNormal.mpr fun key hkey => ?_
    cases hs : objectMeta.fields.schema? key with
    | none =>
      refine Schema.get?_of_read_unknown (by decide) hw fun hknown => ?_
      rw [← Fields.schema?_isSome_iff, hs] at hknown
      contradiction
    | some s =>
      rw [hget key s hs (Fields.default?_optionalFields key _), Json.get?,
        ← lastRead?_eq_lookup m.nodup_members]
      exact lastRead?_eq_none fun hmem => hkey (m.keys_members.subset hmem)
  have hmembers : (ofNormal (.object m.members)).further = [] := by rw [ofNormal_members]
  have hm : m = { m with further := [] } := by rw [← hfurther]
  rw [hm, ← ofNormal_members m, ofNormal, ofNormal, Metadata.mk.injEq, hget "name" _ rfl rfl,
    hget "generateName" _ rfl rfl, hget "namespace" _ rfl rfl, hget "labels" _ rfl rfl,
    hget "annotations" _ rfl rfl]
  exact ⟨rfl, rfl, rfl, rfl, rfl, hnone.trans hmembers.symm⟩

end Metadata

/-! ## What a document says -/

/-- An object means the texts of its keys, in rising order. -/
structure MeansTexts (v : Json) (texts : List (String × String)) : Prop where
  rising : (texts.map Prod.fst).Pairwise (· < ·)
  object : ∃ members, v = .object members ∧
    ∀ key, lastRead? key members = (texts.lookup key).map .string

/-- A document tells metadata, as far as its fields have a name. -/
structure Metadata.Told (v : Json) (m : Metadata) : Prop where
  name : Said (fun u s => u = .string s) (objectMeta.fields.said? "name" v) m.name?
  generateName : Said (fun u s => u = .string s) (objectMeta.fields.said? "generateName" v) m.generateName?
  namespaceName : Said (fun u s => u = .string s) (objectMeta.fields.said? "namespace" v) m.namespaceName?
  labels : Said MeansTexts (objectMeta.fields.said? "labels" v) m.labels?
  annotations : Said MeansTexts (objectMeta.fields.said? "annotations" v) m.annotations?

/-- A document tells a specification. -/
structure ChartSpec.Told (v : Json) (s : ChartSpec) : Prop where
  chart : helmChartSpecSchema.fields.said? "chart" v = some (.string s.chart)
  repo : Said (fun u t => u = .string t) (helmChartSpecSchema.fields.said? "repo" v) s.repo?
  version : Said (fun u t => u = .string t) (helmChartSpecSchema.fields.said? "version" v) s.version?
  targetNamespace : Said (fun u t => u = .string t)
    (helmChartSpecSchema.fields.said? "targetNamespace" v) s.targetNamespace?
  createNamespace : Said (fun u b => u = .bool b)
    (helmChartSpecSchema.fields.said? "createNamespace" v) s.createNamespace?
  valuesContent : Said (fun u t => u = .string t)
    (helmChartSpecSchema.fields.said? "valuesContent" v) s.valuesContent?

/-- A document tells a Helm chart. -/
def HelmChart.Told (v : Json) (c : HelmChart) : Prop :=
  ∃ m s, helmChartSchema.fields.said? "metadata" v = some m ∧ c.metadata.Told m ∧
    helmChartSchema.fields.said? "spec" v = some s ∧ c.spec.Told s

/-- Of the fields of the metadata that have no name of their own a document says nothing. -/
def HelmChart.Plain (v : Json) : Prop :=
  ∀ m, helmChartSchema.fields.said? "metadata" v = some m → ∀ key ∈ objectMeta.fields.names,
    key ∉ Metadata.namedFields → ∀ u, objectMeta.fields.said? key m = some u → u = .null

theorem read_text {u r : Json} (h : Schema.text.read u = .ok r) :
    r ≠ .null ∧ ∃ s, r.text? = some s ∧ u = .string s := by
  cases u with
  | string s =>
    obtain rfl := Except.ok.inj h
    exact ⟨by simp, s, rfl, rfl⟩
  | null | bool | number | array | object => contradiction

theorem read_flag {u r : Json} (h : Schema.flag.read u = .ok r) :
    r ≠ .null ∧ ∃ b, ChartSpec.flag? r = some b ∧ u = .bool b := by
  cases u with
  | bool b =>
    obtain rfl := Except.ok.inj h
    exact ⟨by simp, b, rfl, rfl⟩
  | null | string | number | array | object => contradiction

/-- Members that are read as texts are texts, and stay as they are. -/
theorem readTexts_ok {members ms : List (String × Json)}
    (h : members.mapM (fun (k, v) => do .ok (k, ← Schema.text.read v)) = .ok ms) :
    ms = members ∧ ∀ m ∈ members, ∃ t, m.2 = .string t := by
  induction members generalizing ms with
  | nil =>
    obtain rfl := Except.ok.inj h
    exact ⟨rfl, nofun⟩
  | cons m members ih =>
    rw [List.mapM_cons] at h
    obtain ⟨m', hm, h⟩ := ok_of_bind h
    obtain ⟨ms', hms, h⟩ := ok_of_bind h
    obtain rfl := Except.ok.inj h
    obtain ⟨rfl, htexts⟩ := ih hms
    obtain ⟨r, hr, hm⟩ := ok_of_bind hm
    obtain rfl := Except.ok.inj hm
    obtain ⟨k, v⟩ := m
    obtain ⟨-, t, -, rfl⟩ := read_text hr
    obtain rfl := Except.ok.inj hr
    exact ⟨rfl, List.forall_mem_cons.mpr ⟨⟨t, rfl⟩, htexts⟩⟩

theorem exists_texts {ms : List (String × Json)} (h : ∀ m ∈ ms, ∃ t, m.2 = .string t) :
    ∃ texts : List (String × String), Json.object ms = textsToJson texts := by
  induction ms with
  | nil => exact ⟨[], rfl⟩
  | cons m ms ih =>
    obtain ⟨⟨t, ht⟩, hms⟩ := List.forall_mem_cons.mp h
    obtain ⟨texts, htexts⟩ := ih hms
    obtain ⟨k, v⟩ := m
    obtain rfl : v = .string t := ht
    rw [textsToJson, Json.object.injEq] at htexts
    refine ⟨(k, t) :: texts, ?_⟩
    rw [htexts]
    rfl

theorem get?_textsToJson (texts : List (String × String)) (key : String) :
    (textsToJson texts).get? key = (texts.lookup key).map .string := by
  rw [textsToJson, Json.get?]
  induction texts with
  | nil => rfl
  | cons t texts ih =>
    rw [List.map_cons, List.lookup_cons, List.lookup_cons, ih]
    cases key == t.1 <;> rfl

theorem read_texts {u r : Json} (h : (Schema.dictionary .text).read u = .ok r) :
    r ≠ .null ∧ ∃ texts, some (Metadata.texts r) = some texts ∧ MeansTexts u texts := by
  cases u with
  | object members =>
    rw [Schema.read] at h
    obtain ⟨ms, hms, h⟩ := ok_of_bind h
    obtain rfl := Except.ok.inj h
    obtain ⟨rfl, htexts⟩ := readTexts_ok hms
    have hinserted : ∀ m ∈ Json.insertAll [] ms, ∃ t, m.2 = .string t := fun m hm =>
      htexts m ((Json.mem_insertAll hm).resolve_left List.not_mem_nil)
    obtain ⟨texts, hobject⟩ := exists_texts hinserted
    rw [← Json.ofMembers_eq] at hobject
    refine ⟨nofun, texts, by rw [hobject, texts_textsToJson], ?_, ms, rfl, fun key => ?_⟩
    · have hrise := Json.keysRise_insertAll Json.keysRise_nil ms
      rw [Json.ofMembers_eq, textsToJson, Json.object.injEq] at hobject
      rw [hobject, Json.KeysRise, List.map_map] at hrise
      exact hrise
    · rw [← Json.get?_ofMembers, hobject, get?_textsToJson]
  | null | string | number | bool | array => contradiction

section
variable {m w : Json}

theorem Metadata.told_of_read
    (h : (Schema.record .keyed "ObjectMeta" objectMeta.fields).read m = .ok w) :
    (Metadata.ofNormal w).Told m where
  name := Schema.said_of_read (by decide) h rfl rfl fun _ _ => read_text
  generateName := Schema.said_of_read (by decide) h rfl rfl fun _ _ => read_text
  namespaceName := Schema.said_of_read (by decide) h rfl rfl fun _ _ => read_text
  labels := by
    change Said MeansTexts _ ((w.get? "labels").map Metadata.texts)
    rw [Option.map_eq_bind]
    exact Schema.said_of_read (by decide) h rfl rfl fun _ _ => read_texts
  annotations := by
    change Said MeansTexts _ ((w.get? "annotations").map Metadata.texts)
    rw [Option.map_eq_bind]
    exact Schema.said_of_read (by decide) h rfl rfl fun _ _ => read_texts

/-- What was read has no further fields if the document has none. -/
theorem Metadata.further_of_read
    (h : (Schema.record .keyed "ObjectMeta" objectMeta.fields).read m = .ok w)
    (hplain : ∀ key ∈ objectMeta.fields.names, key ∉ Metadata.namedFields →
      ∀ u, objectMeta.fields.said? key m = some u → u = .null) :
    (Metadata.ofNormal w).further = [] := by
  obtain ⟨ms, rfl, -⟩ := Schema.normal_of_read _ h
  refine Metadata.further_ofNormal.mpr fun key hkey => ?_
  cases hs : objectMeta.fields.schema? key with
  | none =>
    refine Schema.get?_of_read_unknown (by decide) h fun hknown => ?_
    rw [← Fields.schema?_isSome_iff, hs] at hknown
    contradiction
  | some s =>
    obtain ⟨r?, hsaid, hget, -⟩ := Schema.get?_of_read (by decide) h hs
    have hdefault : objectMeta.fields.default? key = none := Fields.default?_optionalFields key _
    rw [hget, hdefault, Option.or_none]
    cases hu : objectMeta.fields.said? key m with
    | none =>
      rw [hu] at hsaid
      cases r? with
      | none => rfl
      | some r => contradiction
    | some u =>
      -- All further fields may be null.
      obtain rfl := hplain key (Fields.mem_names_of_schema? hs) hkey u hu
      rw [hu, Option.map_some, Fields.read_null_optionalFields hs] at hsaid
      obtain ⟨r, rfl, hr⟩ := Option.map_eq_some_iff.mp hsaid.symm
      obtain rfl := Except.ok.inj hr
      rfl

/-- A normal form of labels or annotations has its keys in rising order. -/
theorem rising_texts {v : Json} (h : (Schema.dictionary .text).Normal v) :
    ((Metadata.texts v).map Prod.fst).Pairwise (· < ·) := by
  obtain ⟨ms, rfl, hrise, hms⟩ := h
  obtain ⟨texts, htexts⟩ := exists_texts hms
  rw [htexts, texts_textsToJson]
  obtain rfl := Json.object.inj htexts
  rw [Json.KeysRise, List.map_map] at hrise
  exact hrise

theorem Metadata.rising_ofNormal
    (h : (Schema.record .keyed "ObjectMeta" objectMeta.fields).Normal w) :
    (Metadata.ofNormal w).Rising := by
  have hrising {key : String} {texts : List (String × String)}
      (hs : objectMeta.fields.schema? key = some (.optional (.dictionary .text)))
      (htexts : (w.get? key).map Metadata.texts = some texts) :
      (texts.map Prod.fst).Pairwise (· < ·) := by
    obtain ⟨v, hv, rfl⟩ := Option.map_eq_some_iff.mp htexts
    obtain ⟨hnull, rfl | hnormal⟩ := h.get? (by decide) hs (Fields.default?_optionalFields key _) hv
    · contradiction
    · exact rising_texts hnormal
  exact ⟨fun _ => hrising rfl, fun _ => hrising rfl⟩

end

theorem ChartSpec.told_of_read {s w : Json} (h : helmChartSpecSchema.read s = .ok w) :
    (ChartSpec.ofNormal w).Told s where
  chart := by
    obtain ⟨u, r, hu, hr, hget⟩ := Schema.said_of_read_required (by decide) h (s := .text) rfl rfl
      (show helmChartSpecSchema.fields.Requires "chart" from ⟨rfl, rfl⟩)
    obtain ⟨hnull, t, ht, rfl⟩ := read_text hr
    obtain rfl := Except.ok.inj hr
    have hchart : (ChartSpec.ofNormal w).chart = t := by
      rw [ChartSpec.ofNormal, hget]
      rfl
    rw [hchart]
    exact hu
  repo := Schema.said_of_read (by decide) h rfl rfl fun _ _ => read_text
  version := Schema.said_of_read (by decide) h rfl rfl fun _ _ => read_text
  targetNamespace := Schema.said_of_read (by decide) h rfl rfl fun _ _ => read_text
  createNamespace := Schema.said_of_read (by decide) h rfl rfl fun _ _ => read_flag
  valuesContent := Schema.said_of_read (by decide) h rfl rfl fun _ _ => read_text

namespace HelmChart

variable {v : Json} {c : HelmChart}

/-- What a document is read as comes from its metadata and its specification. -/
theorem ofDocument_ok (h : ofDocument v = .ok c) :
    ∃ m s wm ws, helmChartSchema.fields.said? "metadata" v = some m ∧ objectMeta.read m = .ok wm ∧
      helmChartSchema.fields.said? "spec" v = some s ∧ helmChartSpecSchema.read s = .ok ws ∧
        c = ⟨.ofNormal wm, .ofNormal ws⟩ := by
  obtain ⟨w, hw, hc⟩ := ok_of_bind h
  obtain rfl := Except.ok.inj hc
  have hnames : helmChartSchema.fields.names.Nodup := by decide
  obtain ⟨m, wm, hm, hwm, hgetm⟩ := Schema.said_of_read_required hnames hw (s := objectMeta) rfl rfl
    (show helmChartSchema.fields.Requires "metadata" from ⟨rfl, rfl⟩)
  obtain ⟨s, ws, hs, hws, hgets⟩ := Schema.said_of_read_required hnames hw (s := helmChartSpecSchema) rfl
    rfl (show helmChartSchema.fields.Requires "spec" from ⟨rfl, rfl⟩)
  refine ⟨m, s, wm, ws, hm, hwm, hs, hws, ?_⟩
  obtain ⟨ms, rfl, -⟩ := Schema.normal_of_read objectMeta hwm
  obtain ⟨ss, rfl, -⟩ := Schema.normal_of_read helmChartSpecSchema hws
  rw [ofNormal, hgetm, hgets]
  rfl

theorem rising_ofNormal {w : Json} (h : helmChartSchema.Normal w) : (ofNormal w).metadata.Rising := by
  change (Metadata.ofNormal ((w.get? "metadata").getD .null)).Rising
  cases hget : w.get? "metadata" with
  | none => exact ⟨nofun, nofun⟩
  | some m =>
    have hm := Schema.Normal.get? h (by decide) (s := objectMeta) rfl rfl hget
    exact Metadata.rising_ofNormal hm.2

/-- A Helm chart is read back from its document if its metadata is. -/
theorem ofDocument_toJson {c : HelmChart} (h : c.metadata.Rising) (hfurther : c.metadata.further = []) :
    ofDocument c.toJson = .ok c := by
  obtain ⟨wm, hwm, hmetadata⟩ := Metadata.read_toJson h hfurther
  obtain ⟨ws, hws, hspec⟩ := c.spec.read_toJson
  obtain ⟨w, hw⟩ : ∃ w, helmChartSchema.read c.toJson = .ok w := by
    refine Schema.exists_read (fun m hm s hs => ?_) ⟨fun _ _ => rfl, fun _ _ => rfl, trivial⟩
    simp only [List.mem_cons, List.not_mem_nil, or_false] at hm
    rcases hm with rfl | rfl | rfl | rfl
    · contradiction
    · contradiction
    · obtain rfl := Option.some.inj hs
      exact ⟨wm, hwm⟩
    · obtain rfl := Option.some.inj hs
      exact ⟨ws, hws⟩
  have hok : ofDocument c.toJson = .ok (ofNormal w) := by
    rw [ofDocument, hw]
    rfl
  obtain ⟨m, s, wm', ws', hm, hwm', hs, hws', hc⟩ := ofDocument_ok hok
  obtain rfl := Option.some.inj hm
  obtain rfl := Option.some.inj hs
  obtain rfl := Except.ok.inj (hwm'.symm.trans hwm)
  obtain rfl := Except.ok.inj (hws'.symm.trans hws)
  rw [hok, hc, hmetadata, hspec]

/-- What a document is read as is told by the document. -/
theorem told_of_ofDocument (h : ofDocument v = .ok c) : Told v c := by
  obtain ⟨m, s, wm, ws, hm, hwm, hs, hws, rfl⟩ := ofDocument_ok h
  exact ⟨m, s, hm, Metadata.told_of_read hwm, hs, ChartSpec.told_of_read hws⟩

theorem rising_of_ofDocument (h : ofDocument v = .ok c) : c.metadata.Rising := by
  obtain ⟨w, hw, hc⟩ := ok_of_bind h
  obtain rfl := Except.ok.inj hc
  exact rising_ofNormal (Schema.normal_of_read _ hw)

theorem rising_of_ofText {text : String} (h : ofText text = .ok c) : c.metadata.Rising := by
  obtain ⟨w, hw, hc⟩ := ok_of_bind h
  obtain rfl := Except.ok.inj hc
  exact rising_ofNormal (Schema.normal_of_readText hw)

theorem further_of_plain (h : ofDocument v = .ok c) (hplain : Plain v) : c.metadata.further = [] := by
  obtain ⟨m, s, wm, ws, hm, hwm, -, -, rfl⟩ := ofDocument_ok h
  exact Metadata.further_of_read hwm (hplain m hm)

theorem rising_installing (d : Deployment) : (installing d).metadata.Rising where
  labels := by
    rintro texts htexts
    obtain rfl := Option.some.inj htexts
    exact List.pairwise_pair.mpr (by decide : managedByLabel < releaseLabel)
  annotations := nofun

/-- The document of the Helm chart of a deployment is read as that Helm chart.  A document that is read
tells what it is read as.  If it says nothing of metadata without a name here, then what is written of it
is read as the same again; and so it is for a text. -/
theorem reread :
    (∀ d : Deployment, d.blockUntilReady = false →
      ∃ c, ofDeployment d = .ok c ∧ ofDocument c.toJson = .ok c) ∧
    (∀ v c, ofDocument v = .ok c → Told v c ∧ (Plain v → ofDocument c.toJson = .ok c)) ∧
    ∀ text c, ofText text = .ok c → c.metadata.further = [] → ofDocument c.toJson = .ok c := by
  refine ⟨fun d hwait => ?_, fun v c h => ⟨told_of_ofDocument h, fun hplain => ?_⟩,
    fun text c h hfurther => ?_⟩
  · exact ⟨installing d, ofDeployment_ready hwait, ofDocument_toJson (rising_installing d) rfl⟩
  · exact ofDocument_toJson (rising_of_ofDocument h) (further_of_plain h hplain)
  · exact ofDocument_toJson (rising_of_ofText h) hfurther

/-- A document with the specification as a sequence, a null, labels out of order and a field that is not
known. -/
theorem reread_sequence :
    let metadata : Json := .object [("generateName", .string "redis-"), ("uid", .null),
      ("zone", .bool true), ("labels", .object [("b", .string "2"), ("a", .string "1")])]
    let v : Json := .object [("metadata", metadata),
      ("spec", .array [.string "redis", .null, .string "21.2.3", .null, .bool false, .null])]
    let c : HelmChart := ⟨⟨none, some "redis-", none, some [("a", "1"), ("b", "2")], none, []⟩,
      ⟨"redis", none, some "21.2.3", none, some false, none⟩⟩
    ofDocument v = .ok c ∧ Told v c ∧ Plain v ∧ ofDocument c.toJson = .ok c := by
  intro metadata v c
  have h : ofDocument v = .ok c := by decide +kernel
  have hplain : Plain v := by
    intro m hm key hkey hother u hu
    obtain rfl := Option.some.inj hm
    have hnull : ∀ key ∈ objectMeta.fields.names, key ∉ Metadata.namedFields →
        (objectMeta.fields.said? key metadata).getD .null = .null := by
      decide +kernel
    have hu' := hnull key hkey hother
    rw [hu] at hu'
    exact hu'
  obtain ⟨-, hdocument, -⟩ := reread
  exact ⟨h, (hdocument v c h).1, hplain, (hdocument v c h).2 hplain⟩

end HelmChart

end BackingServices
