import BackingServices.Cluster.Kubeconfig
import BackingServices.Proofs.Record
import Mathlib.Data.List.Forall2

/-!
# What kubeconfigs say of contexts

The current context of a kubeconfig is read from one field of its documents and nothing else is.  So two
files whose documents differ in the texts of that field are read alike (`Kubeconfig.alike_ofText`), and
are merged alike with others (`Kubeconfig.alike_mergeAll`).

Of a name that several kubeconfigs give, the first one of them says what it stands for
(`Kubeconfig.lookup_mergeAll`).
-/

namespace BackingServices

/-! ## Known fields of YAML values -/

namespace Fields

variable {fields : Fields} {key : String} {s : Schema}

/-- The value of a known field is read. -/
theorem readYamlMember_known (hs : fields.schema? key = some s) (v : Yaml.Value) :
    fields.readYamlMember key v = (s.readYaml v).map fun w => some (key, w) := by
  induction fields using induct with
  | nil => contradiction
  | cons name presence schema rest ih =>
    rw [schema?] at hs
    rw [readYamlMember]
    by_cases h : name = key
    · rw [if_pos h, Option.some.injEq] at hs
      rw [if_pos h, hs]
      rfl
    · rw [if_neg h] at hs
      rw [if_neg h, ih hs]

/-- Members that are read have their own keys. -/
theorem fst_of_readYamlMember {v : Yaml.Value} {m : String × Json}
    (h : fields.readYamlMember key v = .ok (some m)) : m.1 = key := by
  induction fields using induct with
  | nil =>
    rw [readYamlMember] at h
    simp at h
  | cons name presence schema rest ih =>
    rw [readYamlMember] at h
    split at h
    · obtain ⟨w, -, h⟩ := ok_of_bind h
      obtain rfl := Option.some.inj (Except.ok.inj h)
      rfl
    · exact ih h

/-- One more member of a mapping is read. -/
def readYamlStep (fields : Fields) (read : List (String × Json)) (m : Yaml.Value × Yaml.Value) :
    Except DecodeError (List (String × Json)) := do
  let key ← m.1.keyText "field identifier"
  if (fields.schema? key).isSome ∧ (read.lookup key).isSome then .error (.duplicate key)
  else .ok (read ++ (← fields.readYamlMember key m.2).toList)

end Fields

/-- A record is read from the members of a mapping, one after the other. -/
theorem Schema.readYaml_record (form : Form) (name : String) (fields : Fields) (v : Yaml.Value) :
    (Schema.record form name fields).readYaml v =
      match v.untagged with
      | .mapping members => do
        .ok (Json.ofMembers (← fields.finish (← members.foldlM fields.readYamlStep [])))
      | .null => do .ok (Json.ofMembers (← fields.finish []))
      | v => .error (.wrongType v.found (form.describe name)) := by
  rw [Schema.readYaml]
  rfl

/-! ## Documents without their current context -/

namespace Yaml.Value

/-- Whether a value is a text, but for its tags. -/
def isText (v : Value) : Bool :=
  match v.untagged with
  | .string _ => true
  | _ => false

/-- Whether a key is that of the current context, but for its tags. -/
def namesCurrent (key : Value) : Bool :=
  match key.untagged with
  | .string s => s == "current-context"
  | _ => false

/-- A member without the text of the current context. -/
def withoutCurrent (m : Value × Value) : Value × Value :=
  if m.1.namesCurrent && m.2.isText then (m.1, .null) else m

/-- A document without the text of its current context. -/
def forgetCurrent : Value → Value
  | .tagged tag v => .tagged tag v.forgetCurrent
  | .mapping members => .mapping (members.map withoutCurrent)
  | v => v

theorem untagged_forgetCurrent (v : Value) : v.forgetCurrent.untagged = v.untagged.forgetCurrent := by
  induction v using untagged.induct with
  | case1 tag v ih => rw [forgetCurrent, untagged, untagged, ih]
  | case2 v h =>
    cases v with
    | tagged tag v => exact absurd rfl (h tag v)
    | null | bool | number | infinite | notANumber | string | sequence | mapping => rfl

end Yaml.Value

namespace Cluster.Kubeconfig

/-- A kubeconfig without its current context. -/
def withoutCurrent (k : Kubeconfig) : Kubeconfig := { k with current? := none }

/-- A member that was read without the text of the current context. -/
def eraseCurrent (m : String × Json) : String × Json :=
  if m.1 = "current-context" then (m.1, .null) else m

theorem fst_eraseCurrent (m : String × Json) : (eraseCurrent m).1 = m.1 := by
  rw [eraseCurrent]
  split <;> rfl

theorem lookup_eraseCurrent_isSome (read : List (String × Json)) (key : String) :
    ((read.map eraseCurrent).lookup key).isSome = (read.lookup key).isSome := by
  induction read with
  | nil => rfl
  | cons m read ih =>
    rw [List.map_cons, ← Prod.eta (eraseCurrent m), ← Prod.eta m, List.lookup_cons, List.lookup_cons,
      fst_eraseCurrent]
    cases key == m.1 with
    | true => rfl
    | false => exact ih

theorem lastRead?_eraseCurrent (read : List (String × Json)) {key : String}
    (hkey : key ≠ "current-context") : lastRead? key (read.map eraseCurrent) = lastRead? key read := by
  induction read with
  | nil => rfl
  | cons m read ih =>
    obtain ⟨k, v⟩ := m
    rw [List.map_cons, ← Prod.eta (eraseCurrent (k, v)), lastRead?, lastRead?, ih, fst_eraseCurrent]
    by_cases h : k = key
    · subst h
      rw [eraseCurrent, if_neg hkey]
    · rw [if_neg h, if_neg h]

theorem namesCurrent_iff {key : Yaml.Value} {k : String}
    (hk : key.keyText "field identifier" = .ok k) : key.namesCurrent = (k == "current-context") := by
  rw [Yaml.Value.keyText] at hk
  rw [Yaml.Value.namesCurrent]
  cases hs : key.untagged with
  | string s =>
    rw [hs] at hk
    obtain rfl := Except.ok.inj hk
    rfl
  | null | bool | number | infinite | notANumber | sequence | mapping | tagged =>
    rw [hs] at hk
    contradiction

/-- An optional text is read from null and from texts. -/
theorem readYaml_optionalText (v : Yaml.Value) :
    (Schema.optional .text).readYaml (if v.isText then .null else v) =
      ((Schema.optional .text).readYaml v).map fun _ => .null := by
  rw [Yaml.Value.isText]
  cases v with
  | null => rfl
  | string s => rfl
  | bool | number | infinite | notANumber | sequence | mapping => rfl
  | tagged tag v =>
    have hread : (Schema.optional .text).readYaml (.tagged tag v) =
        match v.untagged with
        | .string s => .ok (.string s)
        | v => .error (.wrongType v.found Schema.text.describe) := rfl
    rw [Yaml.Value.untagged]
    cases huntagged : v.untagged with
    | string s =>
      rw [hread, huntagged]
      rfl
    | null | bool | number | infinite | notANumber | sequence | mapping | tagged =>
      simp only [Bool.false_eq_true, if_false]
      rw [hread, huntagged]
      rfl

/-- The text of the current context is read as null is, but for the text. -/
theorem readYamlMember_withoutCurrent (key v : Yaml.Value) {k : String}
    (hk : key.keyText "field identifier" = .ok k) :
    schema.fields.readYamlMember k (Yaml.Value.withoutCurrent (key, v)).2 =
      (schema.fields.readYamlMember k v).map (Option.map eraseCurrent) := by
  rw [Yaml.Value.withoutCurrent, namesCurrent_iff hk]
  by_cases hcurrent : k = "current-context"
  · subst hcurrent
    have hvalue : (if ("current-context" == "current-context" && v.isText) = true then
        (key, Yaml.Value.null) else (key, v)).2 = if v.isText then .null else v := by
      cases v.isText <;> rfl
    have hschema : schema.fields.schema? "current-context" = some (.optional .text) := rfl
    rw [hvalue, Fields.readYamlMember_known hschema, Fields.readYamlMember_known hschema,
      readYaml_optionalText]
    cases (Schema.optional .text).readYaml v <;> rfl
  · rw [beq_eq_false_iff_ne.mpr hcurrent, Bool.false_and, if_neg Bool.false_ne_true]
    cases hread : schema.fields.readYamlMember k v with
    | error e => rfl
    | ok m? =>
      cases m? with
      | none => rfl
      | some m =>
        have hm : eraseCurrent m = m := by
          rw [eraseCurrent, Fields.fst_of_readYamlMember hread, if_neg hcurrent]
        exact congrArg (fun m => Except.ok (some m)) hm.symm

/-- One more member is read alike. -/
theorem readYamlStep_withoutCurrent (read : List (String × Json)) (m : Yaml.Value × Yaml.Value) :
    schema.fields.readYamlStep (read.map eraseCurrent) (Yaml.Value.withoutCurrent m) =
      (schema.fields.readYamlStep read m).map (List.map eraseCurrent) := by
  obtain ⟨key, v⟩ := m
  have hfst : (Yaml.Value.withoutCurrent (key, v)).1 = key := by
    rw [Yaml.Value.withoutCurrent]
    split <;> rfl
  rw [Fields.readYamlStep, Fields.readYamlStep, hfst]
  cases hk : key.keyText "field identifier" with
  | error e => rfl
  | ok k =>
    have hmember := readYamlMember_withoutCurrent key v hk
    simp only [bind, Except.bind]
    rw [lookup_eraseCurrent_isSome, hmember]
    split
    · rfl
    · cases schema.fields.readYamlMember k v with
      | error e => rfl
      | ok m? => cases m? <;> simp [Except.map]

/-- All members are. -/
theorem readYamlMembers_withoutCurrent (members : List (Yaml.Value × Yaml.Value))
    (read : List (String × Json)) :
    (members.map Yaml.Value.withoutCurrent).foldlM schema.fields.readYamlStep (read.map eraseCurrent) =
      (members.foldlM schema.fields.readYamlStep read).map (List.map eraseCurrent) := by
  induction members generalizing read with
  | nil => rfl
  | cons m members ih =>
    rw [List.map_cons, List.foldlM_cons, List.foldlM_cons, readYamlStep_withoutCurrent]
    cases schema.fields.readYamlStep read m with
    | error e => rfl
    | ok read' => exact ih read'

theorem complete_schema (read : List (String × Json)) : schema.fields.Complete read := by
  simp [schema, Schema.fields, optionalField, optionalFields, listField, extensionsField, Fields.Complete]

/-- A kubeconfig without its current context is what its other fields are read as. -/
theorem ofNormal_congr {v w : Json} (h : ∀ key, key ≠ "current-context" → v.get? key = w.get? key) :
    (ofNormal v).withoutCurrent = (ofNormal w).withoutCurrent := by
  simp only [ofNormal, withoutCurrent, text?, entries, h "kind" (by decide),
    h "apiVersion" (by decide), h "clusters" (by decide), h "users" (by decide),
    h "contexts" (by decide)]

/-- A kubeconfig without its current context is what the other members are read as. -/
theorem ofRead_eraseCurrent (read : List (String × Json)) :
    ((schema.fields.finish (read.map eraseCurrent)).map fun out =>
        (ofNormal (Json.ofMembers out)).withoutCurrent) =
      (schema.fields.finish read).map fun out => (ofNormal (Json.ofMembers out)).withoutCurrent := by
  obtain ⟨out, hout⟩ := Fields.exists_finish (complete_schema read)
  obtain ⟨out', hout'⟩ := Fields.exists_finish (complete_schema (read.map eraseCurrent))
  rw [hout, hout']
  refine congrArg Except.ok (ofNormal_congr fun key hkey => ?_)
  have hnames : schema.fields.names.Nodup := by decide
  rw [Json.get?_ofMembers, Json.get?_ofMembers, Fields.lastRead?_finish hnames hout,
    Fields.lastRead?_finish hnames hout', lastRead?_eraseCurrent read hkey]

/-- The kubeconfig that a YAML value is read as. -/
def ofYaml (v : Yaml.Value) : Except DecodeError Kubeconfig := do .ok (ofNormal (← schema.readYaml v))

/-- A document is read alike without the text of its current context, but for the current context. -/
theorem ofYaml_forgetCurrent (v : Yaml.Value) :
    (ofYaml v.forgetCurrent).map withoutCurrent = (ofYaml v).map withoutCurrent := by
  have hschema : schema = .record .entry "Kubeconfig" schema.fields := rfl
  rw [ofYaml, ofYaml, hschema, Schema.readYaml_record, Schema.readYaml_record,
    Yaml.Value.untagged_forgetCurrent]
  cases v.untagged with
  | mapping members =>
    have hmembers := readYamlMembers_withoutCurrent members []
    rw [List.map_nil] at hmembers
    simp only [Yaml.Value.forgetCurrent, hmembers]
    cases members.foldlM schema.fields.readYamlStep [] with
    | error e => rfl
    | ok read =>
      have hread := ofRead_eraseCurrent read
      simp only [bind, Except.bind, Except.map] at hread ⊢
      cases hleft : schema.fields.finish (read.map eraseCurrent) <;>
        cases hright : schema.fields.finish read <;> simpa only [hleft, hright] using hread
  | null | bool | number | infinite | notANumber | string | sequence | tagged => rfl

/-! ## Alike kubeconfigs -/

/-- Two documents are alike if they differ in the text of their current context only, or if neither is
well formed. -/
inductive AlikeDocument : Except Yaml.Fault Yaml.Value → Except Yaml.Fault Yaml.Value → Prop
  | values {v v' : Yaml.Value} : v.forgetCurrent = v'.forgetCurrent → AlikeDocument (.ok v) (.ok v')
  | faults (f f' : Yaml.Fault) : AlikeDocument (.error f) (.error f')

/-- Two readings give alike kubeconfigs, that differ in their current context only, or the same fault, or
say of both that they are not well formed. -/
inductive Alike : Except Fault Kubeconfig → Except Fault Kubeconfig → Prop
  | configs {k k' : Kubeconfig} : k.withoutCurrent = k'.withoutCurrent → Alike (.ok k) (.ok k')
  | fault (f : Fault) : Alike (.error f) (.error f)
  | notYaml (f f' : Yaml.Fault) : Alike (.error (.notYaml f)) (.error (.notYaml f'))

theorem alikeDocument_refl (d : Except Yaml.Fault Yaml.Value) : AlikeDocument d d := by
  cases d with
  | ok v => exact .values rfl
  | error f => exact .faults f f

theorem alike_ofDocument {d d' : Except Yaml.Fault Yaml.Value} (h : AlikeDocument d d') :
    Alike (ofDocument d) (ofDocument d') := by
  cases h with
  | faults f f' => exact .notYaml f f'
  | @values v v' h =>
    have hread : (ofYaml v).map withoutCurrent = (ofYaml v').map withoutCurrent := by
      rw [← ofYaml_forgetCurrent v, h, ofYaml_forgetCurrent v']
    have hdocument (v : Yaml.Value) : ofDocument (.ok v) = (ofYaml v).mapError .badStructure := by
      rw [ofDocument, ofYaml]
      cases h : schema.readYaml v <;> simp [Except.mapError, bind, Except.bind, h]
    rw [hdocument, hdocument]
    cases hv : ofYaml v with
    | error e =>
      cases hv' : ofYaml v' with
      | error e' =>
        rw [hv, hv'] at hread
        obtain rfl := Except.error.inj hread
        exact .fault _
      | ok k' =>
        rw [hv, hv'] at hread
        contradiction
    | ok k =>
      cases hv' : ofYaml v' with
      | error e' =>
        rw [hv, hv'] at hread
        contradiction
      | ok k' =>
        rw [hv, hv'] at hread
        exact .configs (Except.ok.inj hread)

/-! ## Merging alike kubeconfigs -/

theorem merge_withoutCurrent (a b : Kubeconfig) :
    a.withoutCurrent.merge b.withoutCurrent = (a.merge b).map withoutCurrent := by
  rw [merge, merge]
  by_cases hkind : differ a.kind? b.kind?
  · rw [if_pos hkind]
    exact if_pos hkind
  · rw [if_neg hkind]
    refine (if_neg hkind).trans ?_
    by_cases hversion : differ a.version? b.version?
    · rw [if_pos hversion]
      exact if_pos hversion
    · rw [if_neg hversion]
      exact if_neg hversion

/-- Alike kubeconfigs are merged alike. -/
theorem alike_mergeAll {k k' : Kubeconfig} (h : k.withoutCurrent = k'.withoutCurrent)
    {rs rs' : List (Except Fault Kubeconfig)} (hrs : List.Forall₂ Alike rs rs') :
    Alike (mergeAll k rs) (mergeAll k' rs') := by
  induction hrs generalizing k k' with
  | nil => exact .configs h
  | cons hr _ ih =>
    cases hr with
    | fault f => exact .fault f
    | notYaml f f' => exact .notYaml f f'
    | @configs l l' hl =>
      have hmerge : (k.merge l).map withoutCurrent = (k'.merge l').map withoutCurrent := by
        rw [← merge_withoutCurrent, h, hl, merge_withoutCurrent]
      rw [mergeAll, mergeAll]
      cases hm : k.merge l with
      | error how =>
        cases hm' : k'.merge l' with
        | error how' =>
          rw [hm, hm'] at hmerge
          obtain rfl := Except.error.inj hmerge
          exact .fault _
        | ok m' =>
          rw [hm, hm'] at hmerge
          contradiction
      | ok m =>
        cases hm' : k'.merge l' with
        | error how' =>
          rw [hm, hm'] at hmerge
          contradiction
        | ok m' =>
          rw [hm, hm'] at hmerge
          exact ih (Except.ok.inj hmerge)

/-- Alike documents are read alike, one after the other. -/
theorem mapM_ofDocument {ds ds' : List (Except Yaml.Fault Yaml.Value)}
    (h : List.Forall₂ AlikeDocument ds ds') :
    (∃ ks ks', ds.mapM ofDocument = .ok ks ∧ ds'.mapM ofDocument = .ok ks' ∧
      List.Forall₂ (fun k k' => k.withoutCurrent = k'.withoutCurrent) ks ks') ∨
    ∃ f f', ds.mapM ofDocument = .error f ∧ ds'.mapM ofDocument = .error f' ∧
      Alike (.error f) (.error f') := by
  induction h with
  | nil => exact .inl ⟨[], [], rfl, rfl, .nil⟩
  | @cons d d' ds ds' hd _ ih =>
    have halike := alike_ofDocument hd
    rw [List.mapM_cons, List.mapM_cons]
    generalize ofDocument d = r at halike
    generalize ofDocument d' = r' at halike
    cases halike with
    | fault f => exact .inr ⟨f, f, rfl, rfl, .fault f⟩
    | notYaml f f' => exact .inr ⟨.notYaml f, .notYaml f', rfl, rfl, .notYaml f f'⟩
    | @configs k k' hk =>
      rcases ih with ⟨ks, ks', hks, hks', hall⟩ | ⟨f, f', hf, hf', halike⟩
      · rw [hks, hks']
        exact .inl ⟨k :: ks, k' :: ks', rfl, rfl, .cons hk hall⟩
      · rw [hf, hf']
        exact .inr ⟨f, f', rfl, rfl, halike⟩

/-- Two texts are alike if their documents are. -/
def AlikeText (text text' : String) : Prop :=
  List.Forall₂ AlikeDocument (Yaml.documents (unmarked text)) (Yaml.documents (unmarked text'))

theorem alikeText_refl (text : String) : AlikeText text text :=
  List.forall₂_same.mpr fun d _ => alikeDocument_refl d

/-- Alike texts are read alike. -/
theorem alike_ofText (path : String) {text text' : String} (h : AlikeText text text') :
    Alike (ofText path text) (ofText path text') := by
  rw [ofText, ofText, ofDocuments, ofDocuments]
  rcases mapM_ofDocument h with ⟨ks, ks', hks, hks', hall⟩ | ⟨f, f', hf, hf', halike⟩
  · rw [hks, hks']
    refine alike_mergeAll rfl ?_
    rw [List.forall₂_map_left_iff, List.forall₂_map_right_iff]
    refine hall.imp fun k k' hk => .configs ?_
    exact congrArg (locate (folder path)) hk
  · rw [hf, hf']
    exact halike

/-! ## Names -/

/-- Of two lists the first one that has a name says what it stands for. -/
theorem lookup_appendNew {α : Type} (base next : List (String × α)) (name : String) :
    (appendNew base next).lookup name = (base.lookup name).or (next.lookup name) := by
  rw [appendNew, List.lookup_append]
  cases hbase : base.lookup name with
  | some a => rfl
  | none =>
    have hnew : ∀ old ∈ base, old.1 ≠ name := by
      rintro old hold rfl
      exact absurd rfl (bne_iff_ne.mp (List.lookup_eq_none_iff.mp hbase old hold))
    rw [Option.none_or, Option.none_or]
    induction next with
    | nil => rfl
    | cons entry next ih =>
      obtain ⟨key, a⟩ := entry
      rw [List.filter_cons, List.lookup_cons]
      by_cases hkey : name = key
      · subst hkey
        have hany : (!base.any fun old => old.1 == name) = true := by
          rw [Bool.not_eq_true', List.any_eq_false]
          exact fun old hold => by simpa using hnew old hold
        rw [if_pos hany, List.lookup_cons, beq_self_eq_true]
      · rw [beq_eq_false_iff_ne.mpr hkey]
        split
        · rw [List.lookup_cons, beq_eq_false_iff_ne.mpr hkey, ih]
        · exact ih

/-- A list of names in a kubeconfig that is merged like the others. -/
structure Merges {α : Type} (entries : Kubeconfig → List (String × α)) : Prop where
  empty : entries .empty = []
  merge : ∀ {a b m : Kubeconfig}, a.merge b = .ok m → entries m = appendNew (entries a) (entries b)

theorem merge_ok {a b m : Kubeconfig} (h : a.merge b = .ok m) :
    m.clusters = appendNew a.clusters b.clusters ∧ m.contexts = appendNew a.contexts b.contexts := by
  rw [merge] at h
  have h := ok_of_guard (ok_of_guard h)
  obtain rfl := Except.ok.inj h
  exact ⟨rfl, rfl⟩

theorem merges_clusters : Merges clusters := ⟨rfl, fun h => (merge_ok h).1⟩

theorem merges_contexts : Merges contexts := ⟨rfl, fun h => (merge_ok h).2⟩

/-- What a name stands for in a reading, if it is there. -/
def entryIn? {α : Type} (entries : Kubeconfig → List (String × α)) (name : String) :
    Except Fault Kubeconfig → Option α
  | .ok k => (entries k).lookup name
  | .error _ => none

/-- Of several kubeconfigs the first one that has a name says what it stands for. -/
theorem lookup_mergeAll {α : Type} {entries : Kubeconfig → List (String × α)} (hmerges : Merges entries)
    {first k : Kubeconfig} {rs : List (Except Fault Kubeconfig)} (h : mergeAll first rs = .ok k)
    (name : String) :
    (entries k).lookup name = ((entries first).lookup name).or (rs.findSome? (entryIn? entries name)) := by
  induction rs generalizing first with
  | nil =>
    obtain rfl := Except.ok.inj h
    rw [List.findSome?_nil, Option.or_none]
  | cons r rs ih =>
    cases r with
    | error f => contradiction
    | ok next =>
      rw [mergeAll] at h
      cases hm : first.merge next with
      | error how =>
        rw [hm] at h
        contradiction
      | ok m =>
        rw [hm] at h
        have hentry : (entryIn? entries name (.ok next)) = (entries next).lookup name := rfl
        rw [ih h, hmerges.merge hm, lookup_appendNew, List.findSome?_cons, hentry, Option.or_assoc]
        cases (entries next).lookup name <;> rfl

end Cluster.Kubeconfig

end BackingServices
