import BackingServices.Proofs.Schema

/-!
# What a record is read as

A record that is read has the values that the document says of the fields it knows, read in their turn;
null is as good as nothing, and what is said of other fields is dropped (`Schema.get?_of_read`,
`Schema.get?_of_read_unknown`).  A record of members is read if what it says of known fields is and
nothing is missing (`Schema.exists_read`).
-/

namespace BackingServices

/-! ## Reading the fields -/

namespace Fields

variable {fields : Fields} {key : String} {s : Schema} {read : List (String × Json)}

/-- What a document says of a field: the last value of its key, or the value at its place. -/
def said? (fields : Fields) (key : String) : Json → Option Json
  | .object members => lastRead? key members
  | .array items => items[fields.names.idxOf key]?
  | _ => none

/-- The value of a known field is read. -/
theorem readMember_known (hs : fields.schema? key = some s) (v : Json) :
    fields.readMember key v = (s.read v).map fun w => some (key, w) := by
  induction fields using induct with
  | nil => contradiction
  | cons name presence schema rest ih =>
    rw [schema?] at hs
    rw [readMember]
    by_cases h : name = key
    · rw [if_pos h, Option.some.injEq] at hs
      rw [if_pos h, hs]
      rfl
    · rw [if_neg h] at hs
      rw [if_neg h, ih hs]

/-- The value of another field is not looked at. -/
theorem readMember_unknown (hs : fields.schema? key = none) (v : Json) :
    fields.readMember key v = .ok none := by
  induction fields using induct with
  | nil => rw [readMember]
  | cons name presence schema rest ih =>
    rw [schema?] at hs
    rw [readMember]
    by_cases h : name = key
    · rw [if_pos h] at hs
      contradiction
    · rw [if_neg h] at hs
      rw [if_neg h, ih hs]

/-- Members that are read are those of known fields, each under its key. -/
theorem readMember_cases {v : Json} {m? : Option (String × Json)}
    (h : fields.readMember key v = .ok m?) :
    fields.schema? key = none ∧ m? = none ∨
      ∃ s w, fields.schema? key = some s ∧ s.read v = .ok w ∧ m? = some (key, w) := by
  cases hs : fields.schema? key with
  | none =>
    rw [readMember_unknown hs] at h
    exact .inl ⟨rfl, (Except.ok.inj h).symm⟩
  | some s =>
    rw [readMember_known hs] at h
    cases hv : s.read v with
    | error e =>
      rw [hv] at h
      contradiction
    | ok w =>
      rw [hv] at h
      exact .inr ⟨s, w, rfl, hv, (Except.ok.inj h).symm⟩

/-- Of a known field the last value is read. -/
theorem lastRead?_readMembers {members : List (String × Json)}
    (h : members.filterMapM (fun (k, v) => fields.readMember k v) = .ok read)
    (hs : fields.schema? key = some s) :
    (lastRead? key members).map s.read = (lastRead? key read).map .ok := by
  induction members generalizing read with
  | nil =>
    obtain rfl := Except.ok.inj h
    rfl
  | cons m members ih =>
    obtain ⟨k, v⟩ := m
    rw [List.filterMapM_cons] at h
    obtain ⟨m?, hm, h⟩ := ok_of_bind h
    rcases readMember_cases hm with ⟨hk, rfl⟩ | ⟨t, w, hk, hv, rfl⟩
    · have hkey : k ≠ key := by
        rintro rfl
        rw [hk] at hs
        contradiction
      rw [lastRead?, if_neg hkey, Option.or_none, ih h]
    · obtain ⟨read', hread, h⟩ := ok_of_bind h
      obtain rfl := Except.ok.inj h
      rw [lastRead?, lastRead?, Option.map_or, Option.map_or, ih hread]
      by_cases hkey : k = key
      · subst hkey
        obtain rfl := Option.some.inj (hk.symm.trans hs)
        rw [if_pos rfl, if_pos rfl, Option.map_some, Option.map_some, hv]
      · rw [if_neg hkey, if_neg hkey]
        rfl

/-- A record's members are read if those of known fields are. -/
theorem exists_readMembers {members : List (String × Json)}
    (h : ∀ m ∈ members, ∀ s, fields.schema? m.1 = some s → ∃ w, s.read m.2 = .ok w) :
    ∃ read, members.filterMapM (fun (k, v) => fields.readMember k v) = .ok read := by
  induction members with
  | nil => exact ⟨[], rfl⟩
  | cons m members ih =>
    obtain ⟨k, v⟩ := m
    obtain ⟨read, hread⟩ := ih fun m hm => h m (.tail _ hm)
    rw [List.filterMapM_cons]
    cases hs : fields.schema? k with
    | none =>
      refine ⟨read, ?_⟩
      dsimp only
      rw [readMember_unknown hs]
      exact hread
    | some s =>
      obtain ⟨w, hw⟩ := h (k, v) (.head _) s hs
      refine ⟨(k, w) :: read, ?_⟩
      dsimp only
      rw [readMember_known hs, hw, hread]
      rfl

/-- A record that is written as a sequence is read in the order of its fields. -/
theorem names_of_readItems {expectation : String} {index : Nat} {items : List Json}
    (h : fields.readItems expectation index items = .ok read) : read.map Prod.fst = fields.names := by
  induction fields using induct generalizing index items read with
  | nil =>
    rw [readItems] at h
    obtain rfl := Except.ok.inj h
    rfl
  | cons name presence schema rest ih =>
    obtain ⟨w, read', hrest, rfl, -⟩ := readItems_cons_ok h
    rw [List.map_cons, ih hrest, names]

/-- A known field is read at its place, or its default is put in. -/
theorem lastRead?_readItems {expectation : String} {index : Nat} {items : List Json}
    (hnames : fields.names.Nodup) (h : fields.readItems expectation index items = .ok read)
    (hs : fields.schema? key = some s) :
    ∃ w? : Option Json, (items[fields.names.idxOf key]?).map s.read = w?.map .ok ∧
      ((lastRead? key read).bind Json.nonNull?).or (fields.default? key) =
        (w?.bind Json.nonNull?).or (fields.default? key) ∧ (fields.Requires key → w?.isSome) := by
  induction fields using induct generalizing index items read with
  | nil => contradiction
  | cons name presence schema rest ih =>
    obtain ⟨hname, hnames⟩ := List.nodup_cons.mp hnames
    obtain ⟨w, read', hrest, rfl, hhere⟩ := readItems_cons_ok h
    rw [schema?] at hs
    rw [names, default?, Requires, lastRead?]
    by_cases hkey : name = key
    · subst hkey
      rw [if_pos rfl, Option.some.injEq] at hs
      subst hs
      have hother : lastRead? name read' = none :=
        lastRead?_eq_none (names_of_readItems hrest ▸ hname)
      rw [if_pos rfl, if_pos rfl, if_pos rfl, List.idxOf_cons_self, hother, Option.none_or]
      rcases hhere with ⟨v, hv, hw⟩ | ⟨rfl, rfl⟩
      · refine ⟨some w, ?_, rfl, fun _ => rfl⟩
        rw [← List.head?_eq_getElem?, hv, Option.map_some, hw]
        rfl
      · refine ⟨none, rfl, by cases w <;> rfl, fun hrequired => ?_⟩
        cases hrequired.1
    · rw [if_neg hkey] at hs
      obtain ⟨w?, hw, hsettled, hrequires⟩ := ih hnames hrest hs
      rw [if_neg hkey, if_neg hkey, if_neg hkey, Option.or_none]
      refine ⟨w?, ?_, hsettled, hrequires⟩
      rw [List.idxOf_cons, beq_eq_false_iff_ne.mpr hkey, ← hw]
      cases items <;> rfl

/-- All fields that must be there are there if they are in members with the same known fields. -/
theorem Complete.congr {read read' : List (String × Json)} (h : fields.Complete read)
    (hsome : ∀ name ∈ fields.names, (lastRead? name read).isSome → (lastRead? name read').isSome) :
    fields.Complete read' := by
  induction fields using Fields.induct with
  | nil => trivial
  | cons name presence schema rest ih =>
    obtain ⟨hhere, hrest⟩ := h
    refine ⟨fun hrequired hschema => hsome name (.head _) (hhere hrequired hschema), ?_⟩
    exact ih hrest fun name hname => hsome name (.tail _ hname)

end Fields

/-- What a document says of a value that may be missing: nothing, null, or something that means it. -/
inductive Said {α : Type} (Means : Json → α → Prop) : Option Json → Option α → Prop
  | nothing : Said Means none none
  | null : Said Means (some .null) none
  | value {v : Json} {a : α} : Means v a → Said Means (some v) (some a)

/-! ## Reading a record -/

namespace Schema

variable {form : Form} {name key : String} {fields : Fields} {v w : Json} {s : Schema}

/-- A record has no value for a field that is not known. -/
theorem get?_of_read_unknown (hnames : fields.names.Nodup)
    (h : (record form name fields).read v = .ok w) (hkey : key ∉ fields.names) :
    w.get? key = none := by
  obtain ⟨read, out, hout, rfl, -⟩ := read_record_ok h
  rw [Json.get?_ofMembers, Fields.lastRead?_finish hnames hout, if_neg hkey]

/-- A record has the value of a known field that the document says, read, unless it is null; if there is
none, its default. -/
theorem get?_of_read (hnames : fields.names.Nodup) (h : (record form name fields).read v = .ok w)
    (hs : fields.schema? key = some s) :
    ∃ r? : Option Json, (fields.said? key v).map s.read = r?.map .ok ∧
      w.get? key = (r?.bind Json.nonNull?).or (fields.default? key) ∧
        (fields.Requires key → r?.isSome) := by
  obtain ⟨read, out, hout, rfl, hread⟩ := read_record_ok h
  have hcomplete := Fields.complete_of_finish hout
  rw [Json.get?_ofMembers, Fields.lastRead?_finish hnames hout,
    if_pos (Fields.mem_names_of_schema? hs)]
  rcases hread with ⟨members, rfl, hmembers⟩ | ⟨items, rfl, hitems⟩ | ⟨rfl, rfl⟩
  · exact ⟨lastRead? key read, Fields.lastRead?_readMembers hmembers hs, rfl, hcomplete.isSome⟩
  · exact Fields.lastRead?_readItems hnames hitems hs
  · exact ⟨none, rfl, rfl, hcomplete.isSome⟩

/-- Of an optional field a record has what the document says. -/
theorem said_of_read {α : Type} {Means : Json → α → Prop} {f : Json → Option α}
    (hnames : fields.names.Nodup) (h : (record form name fields).read v = .ok w)
    (hs : fields.schema? key = some (.optional s)) (hdefault : fields.default? key = none)
    (hmeans : ∀ u r, s.read u = .ok r → r ≠ .null ∧ ∃ a, f r = some a ∧ Means u a) :
    Said Means (fields.said? key v) ((w.get? key).bind f) := by
  obtain ⟨r?, hsaid, hget, -⟩ := get?_of_read hnames h hs
  rw [hdefault, Option.or_none] at hget
  rw [hget]
  cases hu : fields.said? key v with
  | none =>
    rw [hu] at hsaid
    cases r? with
    | none => exact .nothing
    | some r => contradiction
  | some u =>
    rw [hu] at hsaid
    cases r? with
    | none => contradiction
    | some r =>
      have hread : (optional s).read u = .ok r := Option.some.inj hsaid
      by_cases hnull : u = .null
      · subst hnull
        obtain rfl := Except.ok.inj hread
        exact .null
      · have hread : s.read u = .ok r := by
          cases u with
          | null => contradiction
          | bool | number | string | array | object => exact hread
        obtain ⟨hr, a, ha, hmeans⟩ := hmeans u r hread
        rw [Option.bind_some, Json.nonNull?_of_ne_null hr, Option.bind_some, ha]
        exact .value hmeans

/-- Of a field that must be there a document says something. -/
theorem said_of_read_required (hnames : fields.names.Nodup)
    (h : (record form name fields).read v = .ok w) (hs : fields.schema? key = some s)
    (hdefault : fields.default? key = none) (hrequired : fields.Requires key) :
    ∃ u r, fields.said? key v = some u ∧ s.read u = .ok r ∧ w.get? key = r.nonNull? := by
  obtain ⟨r?, hsaid, hget, hsome⟩ := get?_of_read hnames h hs
  obtain ⟨r, rfl⟩ := Option.isSome_iff_exists.mp (hsome hrequired)
  obtain ⟨u, hu, hread⟩ := Option.map_eq_some_iff.mp hsaid
  rw [hdefault, Option.or_none] at hget
  exact ⟨u, r, hu, hread, hget⟩

/-- A record of members is read if those of known fields are and all fields that must be there are. -/
theorem exists_read {members : List (String × Json)}
    (h : ∀ m ∈ members, ∀ s, fields.schema? m.1 = some s → ∃ w, s.read m.2 = .ok w)
    (hcomplete : fields.Complete members) :
    ∃ w, (record form name fields).read (.object members) = .ok w := by
  obtain ⟨read, hread⟩ := Fields.exists_readMembers h
  have hcomplete' : fields.Complete read := by
    refine hcomplete.congr fun name hname hsome => ?_
    obtain ⟨s, hs⟩ := Option.isSome_iff_exists.mp (Fields.schema?_isSome_iff.mpr hname)
    have hsaid := congrArg Option.isSome (Fields.lastRead?_readMembers hread hs)
    rwa [Option.isSome_map, Option.isSome_map, hsome, eq_comm] at hsaid
  obtain ⟨out, hout⟩ := Fields.exists_finish hcomplete'
  refine ⟨Json.ofMembers out, ?_⟩
  rw [Schema.read, hread]
  exact congrArg (· >>= fun out => .ok (Json.ofMembers out)) hout

/-- Members with values that are read as they are, and no null, are kept. -/
theorem exists_read_self {members : List (String × Json)} (hnames : fields.names.Nodup)
    (hkeys : (members.map Prod.fst).Nodup)
    (h : ∀ m ∈ members, m.2 ≠ .null ∧ ∀ s, fields.schema? m.1 = some s → s.read m.2 = .ok m.2)
    (hcomplete : fields.Complete members) :
    ∃ w, (record form name fields).read (.object members) = .ok w ∧
      ∀ key s, fields.schema? key = some s → fields.default? key = none →
        w.get? key = (Json.object members).get? key := by
  obtain ⟨w, hw⟩ : ∃ w, (record form name fields).read (.object members) = .ok w :=
    exists_read (fun m hm s hs => ⟨m.2, (h m hm).2 s hs⟩) hcomplete
  refine ⟨w, hw, fun key s hs hdefault => ?_⟩
  obtain ⟨r?, hsaid, hget, -⟩ := get?_of_read hnames hw hs
  rw [hget, hdefault, Option.or_none, Json.get?, ← lastRead?_eq_lookup hkeys]
  rw [Fields.said?] at hsaid
  cases hlast : lastRead? key members with
  | none =>
    rw [hlast] at hsaid
    cases r? with
    | none => rfl
    | some r => contradiction
  | some u =>
    obtain ⟨hu, hself⟩ := h (key, u) (lastRead?_mem hlast)
    rw [hlast, Option.map_some, hself s hs] at hsaid
    cases r? with
    | none => contradiction
    | some r =>
      obtain rfl := Except.ok.inj (Option.some.inj hsaid)
      exact Json.nonNull?_of_ne_null hu

end Schema

end BackingServices
