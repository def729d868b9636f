import BackingServices.Proofs.Members

/-!
# Normal forms of schemas

Reading a value under a schema gives a normal form of the schema (`Schema.normal_of_read`): a record in it
has its keys in rising order and no null, and each value is a normal form of its field or stands for it.
A record is finished if and only if none of the fields that must be there is missing
(`Fields.exists_finish`, `Fields.complete_of_finish`).
-/

namespace BackingServices

/-! ## Steps that may fail -/

/-- What is not refused goes on. -/
theorem ok_of_guard {ε α : Type} {c : Prop} [Decidable c] {e : ε} {r : Except ε α} {a : α}
    (h : (if c then .error e else r) = .ok a) : r = .ok a := by
  split at h
  · contradiction
  · exact h

/-- What passes a step comes from what passed before. -/
theorem ok_of_bind {ε α β : Type} {r : Except ε α} {f : α → Except ε β} {b : β}
    (h : r >>= f = .ok b) : ∃ a, r = .ok a ∧ f a = .ok b := by
  cases r with
  | error e => contradiction
  | ok a => exact ⟨a, rfl, h⟩

theorem mem_of_mapM {ε α β : Type} {f : α → Except ε β} {xs : List α} {ys : List β}
    (h : xs.mapM f = .ok ys) {y : β} (hy : y ∈ ys) : ∃ x ∈ xs, f x = .ok y := by
  induction xs generalizing ys with
  | nil =>
    obtain rfl := Except.ok.inj h
    contradiction
  | cons x xs ih =>
    rw [List.mapM_cons] at h
    obtain ⟨z, hx, h⟩ := ok_of_bind h
    obtain ⟨zs, hxs, h⟩ := ok_of_bind h
    obtain rfl := Except.ok.inj h
    rcases List.mem_cons.mp hy with rfl | hy
    · exact ⟨x, List.mem_cons_self, hx⟩
    · obtain ⟨x', hx', hfx'⟩ := ih hxs hy
      exact ⟨x', List.mem_cons_of_mem x hx', hfx'⟩

theorem mem_of_filterMapM {ε α β : Type} {f : α → Except ε (Option β)} {xs : List α} {ys : List β}
    (h : xs.filterMapM f = .ok ys) {y : β} (hy : y ∈ ys) : ∃ x ∈ xs, f x = .ok (some y) := by
  induction xs generalizing ys with
  | nil =>
    obtain rfl := Except.ok.inj h
    contradiction
  | cons x xs ih =>
    rw [List.filterMapM_cons] at h
    obtain ⟨y?, hx, h⟩ := ok_of_bind h
    cases y? with
    | none =>
      obtain ⟨x', hx', hfx'⟩ := ih h hy
      exact ⟨x', List.mem_cons_of_mem x hx', hfx'⟩
    | some z =>
      obtain ⟨zs, hxs, h⟩ := ok_of_bind h
      obtain rfl := Except.ok.inj h
      rcases List.mem_cons.mp hy with rfl | hy
      · exact ⟨x, List.mem_cons_self, hx⟩
      · obtain ⟨x', hx', hfx'⟩ := ih hxs hy
        exact ⟨x', List.mem_cons_of_mem x hx', hfx'⟩

/-! ## Finishing a record -/

/-- A value unless it is null. -/
def Json.nonNull? : Json → Option Json
  | .null => none
  | v => some v

/-- What stands for a field that is not there. -/
def Presence.default? : Presence → Option Json
  | .required => none
  | .absent v => v.nonNull?

namespace Fields

/-- Induction over the fields that follow. -/
@[elab_as_elim]
theorem induct {P : Fields → Prop} (nil : P .nil)
    (cons : ∀ name presence schema rest, P rest → P (.cons name presence schema rest)) :
    ∀ fields, P fields
  | .nil => nil
  | .cons name presence schema rest => cons name presence schema rest (induct nil cons rest)

/-- The names of the fields, in order. -/
def names : Fields → List String
  | .nil => []
  | .cons name _ _ rest => name :: rest.names

/-- What stands for a field that is not there, if it is known. -/
def default? (key : String) : Fields → Option Json
  | .nil => none
  | .cons name presence _ rest => if name = key then presence.default? else rest.default? key

/-- The value of a field in the end, from the fields that were read. -/
def settled? (read : List (String × Json)) (name : String) (presence : Presence) : Option Json :=
  ((lastRead? name read).bind Json.nonNull?).or presence.default?

variable {read out : List (String × Json)} {name : String} {presence : Presence} {schema : Schema}
  {rest fields : Fields}

/-- A field that is settled comes before those of the rest.  It is missing if it is required and was
not read at all, unless null would do. -/
theorem finish_cons (read : List (String × Json)) (name : String) (presence : Presence)
    (schema : Schema) (rest : Fields) :
    (cons name presence schema rest).finish read =
      match settled? read name presence with
      | some v => (rest.finish read).map ((name, v) :: ·)
      | none =>
        if presence matches .required ∧ (lastRead? name read).isNone ∧ schema.isOptional = false then
          .error (.missing name)
        else rest.finish read := by
  rw [finish.eq_def, settled?]
  dsimp only
  cases lastRead? name read with
  | none =>
    cases presence with
    | required => cases schema.isOptional <;> rfl
    | absent d => cases d <;> rfl
  | some w => cases w <;> cases presence with
    | required => rfl
    | absent d => cases d <;> rfl

/-- What was settled for a field comes first. -/
theorem finish_cons_ok (h : (cons name presence schema rest).finish read = .ok out) :
    ∃ out', rest.finish read = .ok out' ∧
      out = ((settled? read name presence).map (Prod.mk name)).toList ++ out' := by
  rw [finish_cons] at h
  cases hsettled : settled? read name presence with
  | some v =>
    rw [hsettled] at h
    cases hrest : rest.finish read with
    | error e =>
      rw [hrest] at h
      contradiction
    | ok out' =>
      rw [hrest] at h
      exact ⟨out', rfl, (Except.ok.inj h).symm⟩
  | none =>
    rw [hsettled] at h
    exact ⟨out, ok_of_guard h, rfl⟩

/-- The last read of a known field is what was settled for it. -/
theorem lastRead?_finish (hnames : fields.names.Nodup) (h : fields.finish read = .ok out)
    (key : String) : lastRead? key out =
      if key ∈ fields.names then
        ((lastRead? key read).bind Json.nonNull?).or (fields.default? key)
      else none := by
  induction fields using induct generalizing out with
  | nil =>
    obtain rfl := Except.ok.inj h
    rfl
  | cons name presence schema rest ih =>
    obtain ⟨out', hrest, rfl⟩ := finish_cons_ok h
    obtain ⟨hname, hnames⟩ := List.nodup_cons.mp hnames
    rw [lastRead?_append, ih hnames hrest, names, default?]
    by_cases hkey : name = key
    · subst hkey
      rw [if_neg hname, if_pos List.mem_cons_self, if_pos rfl, Option.none_or]
      change _ = settled? read name presence
      cases settled? read name presence with
      | none => rfl
      | some v => simp [lastRead?]
    · have hhere : lastRead? key ((settled? read name presence).map (Prod.mk name)).toList = none := by
        cases settled? read name presence with
        | none => rfl
        | some v => simp [lastRead?, hkey]
      rw [hhere, Option.or_none, if_neg hkey]
      simp only [List.mem_cons, Ne.symm hkey, false_or]

/-- A field is known and must be there; null would not do. -/
def Requires (key : String) : Fields → Prop
  | .nil => False
  | .cons name presence schema rest =>
    if name = key then presence = .required ∧ schema.isOptional = false else rest.Requires key

/-- All fields that must be there were read. -/
def Complete (read : List (String × Json)) : Fields → Prop
  | .nil => True
  | .cons name presence schema rest =>
    (presence = .required → schema.isOptional = false → (lastRead? name read).isSome) ∧
      rest.Complete read

/-- A record is finished if nothing is missing. -/
theorem exists_finish (h : fields.Complete read) : ∃ out, fields.finish read = .ok out := by
  induction fields using induct with
  | nil => exact ⟨[], rfl⟩
  | cons name presence schema rest ih =>
    obtain ⟨hhere, hrest⟩ := h
    obtain ⟨out, hout⟩ := ih hrest
    rw [finish_cons, hout]
    cases settled? read name presence with
    | some v => exact ⟨_, rfl⟩
    | none =>
      refine ⟨out, if_neg ?_⟩
      rintro ⟨hrequired, hnone, hschema⟩
      cases presence with
      | required =>
        have hsome := hhere rfl hschema
        rw [Option.isNone_iff_eq_none] at hnone
        rw [hnone] at hsome
        contradiction
      | absent d => contradiction

/-- In a record that is finished nothing is missing. -/
theorem complete_of_finish (h : fields.finish read = .ok out) : fields.Complete read := by
  induction fields using induct generalizing out with
  | nil => trivial
  | cons name presence schema rest ih =>
    obtain ⟨out', hrest, -⟩ := finish_cons_ok h
    refine ⟨?_, ih hrest⟩
    rintro rfl hschema
    rw [Option.isSome_iff_ne_none]
    intro hnone
    rw [finish_cons, settled?, hnone] at h
    simp [Presence.default?, hschema] at h

theorem Complete.isSome {key : String} (h : fields.Complete read) (hkey : fields.Requires key) :
    (lastRead? key read).isSome := by
  induction fields using Fields.induct with
  | nil => contradiction
  | cons name presence schema rest ih =>
    obtain ⟨hhere, hrest⟩ := h
    rw [Requires] at hkey
    split at hkey
    next hname => exact hname ▸ hhere hkey.1 hkey.2
    next => exact ih hrest hkey

end Fields

/-! ## How a record is read -/

/-- The fields of a record. -/
def Schema.fields : Schema → Fields
  | .record _ _ fields => fields
  | _ => .nil

namespace Fields

variable {expectation name : String} {presence : Presence} {schema : Schema} {rest : Fields}
  {index : Nat} {items : List Json} {read : List (String × Json)}

/-- A field of a record that is written as a sequence comes before the rest.  It is read from the next
value, or its default is put in if there is none. -/
theorem readItems_cons_ok
    (h : (cons name presence schema rest).readItems expectation index items = .ok read) :
    ∃ w read', rest.readItems expectation (index + 1) items.tail = .ok read' ∧
      read = (name, w) :: read' ∧ ((∃ v, items.head? = some v ∧ schema.read v = .ok w) ∨
        items = [] ∧ presence = .absent w) := by
  cases items with
  | nil =>
    cases presence with
    | required =>
      rw [readItems] at h
      contradiction
    | absent d =>
      rw [readItems] at h
      obtain ⟨read', hrest, h⟩ := ok_of_bind (ok_of_guard h)
      exact ⟨d, read', hrest, (Except.ok.inj h).symm, .inr ⟨rfl, rfl⟩⟩
  | cons v vs =>
    rw [readItems] at h
    obtain ⟨w, hw, h⟩ := ok_of_bind h
    obtain ⟨read', hrest, h⟩ := ok_of_bind h
    exact ⟨w, read', hrest, (Except.ok.inj h).symm, .inl ⟨v, rfl, hw⟩⟩

end Fields

/-- A record is read from the members of known fields, from a sequence or from null, and finished. -/
theorem Schema.read_record_ok {form : Form} {name : String} {fields : Fields} {v w : Json}
    (h : (Schema.record form name fields).read v = .ok w) :
    ∃ read out, fields.finish read = .ok out ∧ w = Json.ofMembers out ∧
      ((∃ members, v = .object members ∧
          members.filterMapM (fun (k, u) => fields.readMember k u) = .ok read) ∨
        (∃ items, v = .array items ∧
          fields.readItems (lengthExpectation name fields.count) 0 items = .ok read) ∨
        v = .null ∧ read = []) := by
  cases v with
  | object members =>
    rw [Schema.read] at h
    obtain ⟨read, hmembers, h⟩ := ok_of_bind h
    obtain ⟨out, hout, h⟩ := ok_of_bind h
    exact ⟨read, out, hout, (Except.ok.inj h).symm, .inl ⟨members, rfl, hmembers⟩⟩
  | array items =>
    cases form with
    | positional =>
      rw [Schema.read] at h
      obtain ⟨read, hitems, h⟩ := ok_of_bind h
      obtain ⟨out, hout, h⟩ := ok_of_bind (ok_of_guard h)
      exact ⟨read, out, hout, (Except.ok.inj h).symm, .inr (.inl ⟨items, rfl, hitems⟩)⟩
    | keyed | entry => contradiction
  | null =>
    cases form with
    | entry =>
      rw [Schema.read] at h
      obtain ⟨out, hout, h⟩ := ok_of_bind h
      exact ⟨[], out, hout, (Except.ok.inj h).symm, .inr (.inr ⟨rfl, rfl⟩)⟩
    | keyed | positional => contradiction
  | string | number | bool => contradiction

/-! ## Normal forms -/

mutual

/-- A value is a normal form of a schema. -/
def Schema.Normal : Schema → Json → Prop
  | .ignored, w | .constant _, w => w = .null
  | .anything, _ => True
  | .text, w | .instant, w => ∃ s, w = .string s
  | .flag, w => ∃ b, w = .bool b
  | .integer _ _ _, w => ∃ n, w = .number n
  | .choice words, w => ∃ word ∈ words, w = .string word
  | .optional s, w => w = .null ∨ s.Normal w
  | .list s, w => ∃ ws, w = .array ws ∧ ∀ v ∈ ws, s.Normal v
  | .dictionary s, w => ∃ ms, w = .object ms ∧ Json.KeysRise ms ∧ ∀ m ∈ ms, s.Normal m.2
  | .record _ _ fields, w => ∃ ms, w = .object ms ∧ Json.KeysRise ms ∧
    ∀ m ∈ ms, m.2 ≠ .null ∧ (fields.Takes m.1 m.2 ∨ fields.Fills m.1 m.2)

/-- A value is a normal form of the schema of a field. -/
def Fields.Takes : Fields → String → Json → Prop
  | .nil, _, _ => False
  | .cons name _ schema rest, key, v => name = key ∧ schema.Normal v ∨ rest.Takes key v

/-- A value stands for a field that is missing. -/
def Fields.Fills : Fields → String → Json → Prop
  | .nil, _, _ => False
  | .cons name presence _ rest, key, v => name = key ∧ presence = .absent v ∨ rest.Fills key v

end

theorem Json.nonNull?_of_ne_null {v : Json} (h : v ≠ .null) : v.nonNull? = some v := by
  cases v with
  | null => contradiction
  | bool | number | string | array | object => rfl

theorem Json.ne_null_of_nonNull? {v w : Json} (h : v.nonNull? = some w) : v = w ∧ w ≠ .null := by
  cases v with
  | null => contradiction
  | bool | number | string | array | object =>
    obtain rfl := Option.some.inj h
    exact ⟨rfl, by simp⟩

theorem Presence.eq_absent_of_default? {presence : Presence} {v : Json}
    (h : presence.default? = some v) : presence = .absent v ∧ v ≠ .null := by
  cases presence with
  | required => contradiction
  | absent d =>
    obtain ⟨rfl, hv⟩ := Json.ne_null_of_nonNull? h
    exact ⟨rfl, hv⟩

namespace Fields

variable {read out : List (String × Json)} {fields : Fields}

/-- What a record has in the end is not null, and was read or stands for a missing field. -/
theorem mem_of_finish (h : fields.finish read = .ok out) {m : String × Json} (hm : m ∈ out) :
    m.2 ≠ .null ∧ (m ∈ read ∨ fields.Fills m.1 m.2) := by
  induction fields using induct generalizing out with
  | nil =>
    obtain rfl := Except.ok.inj h
    contradiction
  | cons name presence schema rest ih =>
    obtain ⟨out', hrest, rfl⟩ := finish_cons_ok h
    rcases List.mem_append.mp hm with hm | hm
    · rw [Option.mem_toList, Option.map_eq_some_iff] at hm
      obtain ⟨v, hv, rfl⟩ := hm
      rcases Option.or_eq_some_iff.mp hv with hv | ⟨-, hv⟩
      · obtain ⟨w, hw, hv⟩ := Option.bind_eq_some_iff.mp hv
        obtain ⟨rfl, hv⟩ := Json.ne_null_of_nonNull? hv
        exact ⟨hv, .inl (lastRead?_mem hw)⟩
      · obtain ⟨hpresence, hv⟩ := Presence.eq_absent_of_default? hv
        exact ⟨hv, .inr (.inl ⟨rfl, hpresence⟩)⟩
    · obtain ⟨hv, hm⟩ := ih hrest hm
      exact ⟨hv, hm.imp_right .inr⟩

/-- A record that is finished is a normal form if what was read are normal forms. -/
theorem normal_of_finish {form : Form} {name : String} (h : fields.finish read = .ok out)
    (hread : ∀ m ∈ read, fields.Takes m.1 m.2 ∨ fields.Fills m.1 m.2) :
    (Schema.record form name fields).Normal (Json.ofMembers out) := by
  rw [Schema.Normal]
  refine ⟨Json.insertAll [] out, rfl, Json.keysRise_insertAll Json.keysRise_nil out, fun m hm => ?_⟩
  rcases Json.mem_insertAll hm with hm | hm
  · contradiction
  · obtain ⟨hv, hm⟩ := mem_of_finish h hm
    exact ⟨hv, hm.elim (hread m) .inr⟩

end Fields

namespace Fields

variable {fields : Fields} {key : String}

theorem schema?_isSome_iff : (fields.schema? key).isSome ↔ key ∈ fields.names := by
  induction fields using induct with
  | nil => simp [schema?, names]
  | cons name presence schema rest ih =>
    rw [schema?, names, List.mem_cons]
    by_cases h : name = key
    · simp [h]
    · simp [h, Ne.symm h, ih]

theorem mem_names_of_schema? {s : Schema} (h : fields.schema? key = some s) : key ∈ fields.names :=
  schema?_isSome_iff.mp (h ▸ rfl)

/-- A normal form of a field's schema is one of the field. -/
theorem takes_of_schema? {s : Schema} {v : Json} (h : fields.schema? key = some s) (hv : s.Normal v) :
    fields.Takes key v := by
  induction fields using induct with
  | nil => contradiction
  | cons name presence schema rest ih =>
    rw [schema?] at h
    by_cases hname : name = key
    · rw [if_pos hname, Option.some.injEq] at h
      exact .inl ⟨hname, h ▸ hv⟩
    · rw [if_neg hname] at h
      exact .inr (ih h)

theorem Takes.mem_names {v : Json} (h : fields.Takes key v) : key ∈ fields.names := by
  induction fields using Fields.induct with
  | nil => contradiction
  | cons name presence schema rest ih =>
    rcases h with ⟨rfl, -⟩ | h
    · exact List.mem_cons_self
    · exact .tail _ (ih h)

theorem Fills.mem_names {v : Json} (h : fields.Fills key v) : key ∈ fields.names := by
  induction fields using Fields.induct with
  | nil => contradiction
  | cons name presence schema rest ih =>
    rcases h with ⟨rfl, -⟩ | h
    · exact List.mem_cons_self
    · exact .tail _ (ih h)

/-- The normal forms of a field are those of its schema. -/
theorem normal_of_takes {s : Schema} {v : Json} (hnames : fields.names.Nodup)
    (h : fields.schema? key = some s) (hv : fields.Takes key v) : s.Normal v := by
  induction fields using induct with
  | nil => contradiction
  | cons name presence schema rest ih =>
    obtain ⟨hname, hnames⟩ := List.nodup_cons.mp hnames
    rw [schema?] at h
    rcases hv with ⟨rfl, hv⟩ | hv
    · rw [if_pos rfl, Option.some.injEq] at h
      exact h ▸ hv
    · by_cases hkey : name = key
      · exact absurd hv.mem_names (hkey ▸ hname)
      · rw [if_neg hkey] at h
        exact ih hnames h hv

/-- What stands for a missing field is its default. -/
theorem default?_of_fills {v : Json} (hnames : fields.names.Nodup) (h : fields.Fills key v) :
    fields.default? key = v.nonNull? := by
  induction fields using induct with
  | nil => contradiction
  | cons name presence schema rest ih =>
    obtain ⟨hname, hnames⟩ := List.nodup_cons.mp hnames
    rw [default?]
    rcases h with ⟨rfl, rfl⟩ | h
    · rw [if_pos rfl]
      rfl
    · have hkey : name ≠ key := by
        rintro rfl
        exact hname h.mem_names
      rw [if_neg hkey, ih hnames h]

end Fields

/-- The values in a record's normal form are normal forms of the fields without a default. -/
theorem Schema.Normal.get? {form : Form} {name key : String} {fields : Fields} {s : Schema} {v w : Json}
    (h : (Schema.record form name fields).Normal w) (hnames : fields.names.Nodup)
    (hs : fields.schema? key = some s) (hdefault : fields.default? key = none)
    (hget : w.get? key = some v) : v ≠ .null ∧ s.Normal v := by
  obtain ⟨ms, rfl, hrise, hms⟩ := h
  rw [Json.get?, ← lastRead?_eq_lookup (Json.nodup_of_keysRise hrise)] at hget
  obtain ⟨hv, htakes | hfills⟩ := hms (key, v) (lastRead?_mem hget)
  · exact ⟨hv, Fields.normal_of_takes hnames hs htakes⟩
  · have hnone := hdefault.symm.trans (Fields.default?_of_fills hnames hfills)
    rw [Json.nonNull?_of_ne_null hv] at hnone
    contradiction

/-! ## Reading gives normal forms -/

section
variable {w : Json}

theorem normal_of_readInteger {name : String} {least greatest : Int} {n : Number}
    (h : readInteger name least greatest n = .ok w) :
    (Schema.integer name least greatest).Normal w := by
  cases n with
  | integer n hlower hupper =>
    rw [readInteger] at h
    split at h
    · exact ⟨_, (Except.ok.inj h).symm⟩
    · contradiction
  | real x => contradiction

theorem normal_of_readConstant {expected found : String}
    (h : readConstant expected found = .ok w) : (Schema.constant expected).Normal w := by
  rw [readConstant] at h
  split at h
  · exact (Except.ok.inj h).symm
  · contradiction

theorem normal_of_readChoice {words : List String} {found : String}
    (h : readChoice words found = .ok w) : (Schema.choice words).Normal w := by
  rw [readChoice] at h
  split at h
  next hfound => exact ⟨found, hfound, (Except.ok.inj h).symm⟩
  next => contradiction

theorem normal_of_readInstant {s : String} (h : readInstant s = .ok w) :
    Schema.instant.Normal w := by
  rw [readInstant] at h
  split at h
  · exact ⟨_, (Except.ok.inj h).symm⟩
  · contradiction

theorem normal_ofMembers {s : Schema} {ms : List (String × Json)} (h : ∀ m ∈ ms, s.Normal m.2) :
    (Schema.dictionary s).Normal (Json.ofMembers ms) := by
  refine ⟨Json.insertAll [] ms, rfl, Json.keysRise_insertAll Json.keysRise_nil ms, fun m hm => ?_⟩
  exact h m ((Json.mem_insertAll hm).resolve_left List.not_mem_nil)

end

mutual

/-- What reading gives is a normal form. -/
theorem Schema.normal_of_read : ∀ (s : Schema) {v w : Json}, s.read v = .ok w → s.Normal w
  | .ignored, v, w, h => by
    rw [Schema.read] at h
    exact (Except.ok.inj h).symm
  | .anything, v, w, h => trivial
  | .text, v, w, h => by
    cases v with
    | string s => exact ⟨s, (Except.ok.inj h).symm⟩
    | null | bool | number | array | object => contradiction
  | .flag, v, w, h => by
    cases v with
    | bool b => exact ⟨b, (Except.ok.inj h).symm⟩
    | null | string | number | array | object => contradiction
  | .integer _ _ _, v, w, h => by
    cases v with
    | number n => exact normal_of_readInteger h
    | null | string | bool | array | object => contradiction
  | .constant _, v, w, h => by
    cases v with
    | string s => exact normal_of_readConstant h
    | null | number | bool | array | object => contradiction
  | .choice words, v, w, h => by
    cases v with
    | string s => exact normal_of_readChoice h
    | null | number | bool | array | object => contradiction
  | .instant, v, w, h => by
    cases v with
    | string s => exact normal_of_readInstant h
    | null | number | bool | array | object => contradiction
  | .optional s, v, w, h => by
    cases v with
    | null => exact .inl (Except.ok.inj h).symm
    | string | number | bool | array | object => exact .inr (Schema.normal_of_read s h)
  | .list s, v, w, h => by
    cases v with
    | array items =>
      rw [Schema.read] at h
      obtain ⟨ws, hitems, h⟩ := ok_of_bind h
      refine ⟨ws, (Except.ok.inj h).symm, fun u hu => ?_⟩
      obtain ⟨v, -, hv⟩ := mem_of_mapM hitems hu
      exact Schema.normal_of_read s hv
    | null | string | number | bool | object => contradiction
  | .dictionary s, v, w, h => by
    cases v with
    | object members =>
      rw [Schema.read] at h
      obtain ⟨ms, hmembers, h⟩ := ok_of_bind h
      obtain rfl := Except.ok.inj h
      refine normal_ofMembers fun m hm => ?_
      obtain ⟨m', -, hm'⟩ := mem_of_mapM hmembers hm
      obtain ⟨r, hr, hm'⟩ := ok_of_bind hm'
      obtain rfl := Except.ok.inj hm'
      exact Schema.normal_of_read s hr
    | null | string | number | bool | array => contradiction
  | .record form name fields, v, w, h => by
    obtain ⟨read, out, hout, rfl, hread⟩ := Schema.read_record_ok h
    refine Fields.normal_of_finish hout fun m hm => ?_
    rcases hread with ⟨members, -, hmembers⟩ | ⟨items, -, hitems⟩ | ⟨-, rfl⟩
    · obtain ⟨m', -, hm'⟩ := mem_of_filterMapM hmembers hm
      exact .inl (Fields.takes_of_readMember fields hm')
    · exact Fields.takes_of_readItems fields hitems hm
    · contradiction

theorem Fields.takes_of_readMember : ∀ (fields : Fields) {key : String} {v : Json}
    {m : String × Json}, fields.readMember key v = .ok (some m) → fields.Takes m.1 m.2
  | .nil, key, v, m, h => by
    rw [Fields.readMember] at h
    simp at h
  | .cons name presence schema rest, key, v, m, h => by
    rw [Fields.readMember] at h
    split at h
    next hname =>
      obtain ⟨w, hw, h⟩ := ok_of_bind h
      obtain rfl := Option.some.inj (Except.ok.inj h)
      exact .inl ⟨hname, Schema.normal_of_read schema hw⟩
    next => exact .inr (Fields.takes_of_readMember rest h)

theorem Fields.takes_of_readItems {expectation : String} : ∀ (fields : Fields) {index : Nat}
    {items : List Json} {read : List (String × Json)},
    fields.readItems expectation index items = .ok read →
      ∀ {m : String × Json}, m ∈ read → fields.Takes m.1 m.2 ∨ fields.Fills m.1 m.2
  | .nil, index, items, read, h, m, hm => by
    rw [Fields.readItems] at h
    obtain rfl := Except.ok.inj h
    contradiction
  | .cons name presence schema rest, index, items, read, h, m, hm => by
    obtain ⟨w, read', hrest, rfl, hhere⟩ := Fields.readItems_cons_ok h
    rcases List.mem_cons.mp hm with rfl | hm
    · rcases hhere with ⟨v, -, hw⟩ | ⟨-, hpresence⟩
      · exact .inl (.inl ⟨rfl, Schema.normal_of_read schema hw⟩)
      · exact .inr (.inl ⟨rfl, hpresence⟩)
    · exact (Fields.takes_of_readItems rest hrest hm).imp .inr .inr

end

end BackingServices
