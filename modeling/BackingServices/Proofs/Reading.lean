import BackingServices.Json.Document
import BackingServices.Proofs.Schema

/-!
# Texts are read as normal forms

Whatever a text is read as under a schema is a normal form of the schema (`Schema.normal_of_readText`),
as it is for a value.  The reader recurses on its fuel, so the statement about values, items, entries,
members and positions is proved for one amount of fuel after the other.
-/

namespace BackingServices

namespace Reading

/-! ## What a reader gives -/

/-- Whatever a reader takes from a text has a property. -/
def Gives {α : Type} (r : Reading α) (P : α → Prop) : Prop :=
  ∀ c c' a, r c = .ok a c' → P a

section
variable {α β : Type} {P Q : α → Prop} {r : Reading α}

theorem gives_pure {a : α} (h : P a) : Gives (pure a) P := by
  intro c c' b hb
  obtain ⟨rfl, -⟩ := EStateM.Result.ok.inj hb
  exact h

theorem gives_throw (e : PlacedError) : Gives (throw e : Reading α) P := by
  intro c c' a h
  contradiction

theorem gives_true (r : Reading α) : Gives r fun _ => True := fun _ _ _ _ => trivial

theorem Gives.bind {R : β → Prop} {f : α → Reading β} (hr : Gives r P)
    (hf : ∀ a, P a → Gives (f a) R) : Gives (r >>= f) R := by
  intro c c' b h
  change EStateM.bind r f c = .ok b c' at h
  rw [EStateM.bind] at h
  split at h
  next a c'' ha => exact hf a (hr c c'' a ha) c'' c' b h
  next => contradiction

/-- A step of which only the move counts. -/
theorem gives_after {R : β → Prop} {f : α → Reading β} (hf : ∀ a, Gives (f a) R) :
    Gives (r >>= f) R :=
  (gives_true r).bind fun a _ => hf a

theorem gives_failHere (how : Malformed) : Gives (failHere how : Reading α) P :=
  gives_after fun _ => gives_throw _

theorem gives_failNext (how : Malformed) : Gives (failNext how : Reading α) P :=
  gives_after fun _ => gives_throw _

theorem gives_failLater (e : DecodeError) : Gives (failLater e : Reading α) P := gives_throw _

theorem Gives.placed (h : Gives r P) : Gives (placed r) P := by
  intro c c' a ha
  rw [Reading.placed] at ha
  split at ha
  next => contradiction
  next v c'' hv =>
    obtain ⟨rfl, -⟩ := EStateM.Result.ok.inj ha
    exact h c c'' v hv

theorem Gives.closedBy (h : Gives r P) (close : Reading Unit) : Gives (closedBy r close) P := by
  intro c c' a ha
  rw [Reading.closedBy] at ha
  split at ha
  next v c'' hv =>
    split at ha
    · obtain ⟨rfl, -⟩ := EStateM.Result.ok.inj ha
      exact h c c'' v hv
    · contradiction
  next => split at ha <;> contradiction

theorem gives_lift {d : Except DecodeError α} (h : ∀ a, d = .ok a → P a) : Gives (lift d) P := by
  cases d with
  | ok a => exact gives_pure (h a rfl)
  | error e => exact gives_failLater e

theorem gives_ite {c : Prop} [Decidable c] {r' : Reading α} (h : Gives r P) (h' : Gives r' P) :
    Gives (if c then r else r') P := by
  split
  · exact h
  · exact h'

/-- A value of a wrong type is not read. -/
theorem gives_failType (c : Char) (expected : String) : Gives (failType c expected : Reading α) P := by
  refine Gives.placed ?_
  refine gives_ite (gives_after fun _ => gives_after fun _ => gives_failLater _) ?_
  refine gives_ite (gives_after fun _ => gives_after fun _ => gives_failLater _) ?_
  refine gives_ite (gives_after fun _ => gives_after fun _ => gives_failLater _) ?_
  refine gives_ite (gives_after fun _ => gives_after fun n => ?_) (gives_ite (gives_after fun n => ?_) ?_)
  · cases n <;> exact gives_failLater _
  · cases n <;> exact gives_failLater _
  refine gives_ite (gives_after fun _ => gives_after fun _ => gives_failLater _) ?_
  exact gives_ite (gives_failLater _) (gives_ite (gives_failLater _) (gives_failNext _))

end

/-! ## Normal forms -/

/-- What the readers of values, and of what is between brackets, give with so much fuel. -/
structure Normalises (fuel : Nat) : Prop where
  value : ∀ depth schema, Gives (value fuel depth schema) schema.Normal
  items : ∀ depth (schema : Schema) first,
    Gives (items fuel depth schema first) fun ws => ∀ w ∈ ws, schema.Normal w
  entries : ∀ depth (schema : Schema) first,
    Gives (entries fuel depth schema first) fun ms => ∀ m ∈ ms, schema.Normal m.2
  record : ∀ depth form name fields,
    Gives (record fuel depth form fields) (Schema.record form name fields).Normal
  members : ∀ depth form (fields : Fields) first read, (∀ m ∈ read, fields.Takes m.1 m.2) →
    Gives (members fuel depth form fields first read) fun ms => ∀ m ∈ ms, fields.Takes m.1 m.2
  positions : ∀ depth expectation (fields : Fields) index,
    Gives (positions fuel depth expectation fields index)
      fun ms => ∀ m ∈ ms, fields.Takes m.1 m.2 ∨ fields.Fills m.1 m.2

theorem normalises_zero : Normalises 0 where
  value _ _ := by
    rw [Reading.value]
    exact gives_failHere _
  items _ _ _ := by
    rw [Reading.items]
    exact gives_failHere _
  entries _ _ _ := by
    rw [Reading.entries]
    exact gives_failHere _
  record _ _ _ _ := by
    rw [Reading.record]
    exact gives_failHere _
  members _ _ _ _ _ _ := by
    rw [Reading.members]
    exact gives_failHere _
  positions _ _ _ _ := by
    rw [Reading.positions.eq_def]
    exact gives_failHere _

variable {fuel : Nat}

theorem Normalises.items_succ (h : Normalises fuel) (depth : Nat) (schema : Schema) (first : Bool) :
    Gives (Reading.items (fuel + 1) depth schema first) fun ws => ∀ w ∈ ws, schema.Normal w := by
  rw [Reading.items]
  refine gives_after fun next => gives_ite ?_ (gives_pure fun _ hw => absurd hw List.not_mem_nil)
  refine (h.value depth schema).bind fun w hw => (h.items depth schema false).bind fun ws hws => ?_
  exact gives_pure (List.forall_mem_cons.mpr ⟨hw, hws⟩)

theorem Normalises.entries_succ (h : Normalises fuel) (depth : Nat) (schema : Schema) (first : Bool) :
    Gives (Reading.entries (fuel + 1) depth schema first) fun ms => ∀ m ∈ ms, schema.Normal m.2 := by
  rw [Reading.entries]
  refine gives_after fun next => gives_ite ?_ (gives_pure fun _ hm => absurd hm List.not_mem_nil)
  refine gives_after fun key => gives_after fun _ => (h.value depth schema).bind fun w hw => ?_
  refine (h.entries depth schema false).bind fun ms hms => ?_
  exact gives_pure (List.forall_mem_cons.mpr ⟨hw, hms⟩)

theorem Normalises.record_succ (h : Normalises fuel) (depth : Nat) (form : Form) (name : String)
    (fields : Fields) :
    Gives (Reading.record (fuel + 1) depth form fields) (Schema.record form name fields).Normal := by
  rw [Reading.record]
  refine (h.members depth form fields true [] fun m hm => absurd hm List.not_mem_nil).bind
    fun read hread => ?_
  refine (gives_lift fun _ hout => hout).bind fun out hout => gives_pure ?_
  exact Fields.normal_of_finish hout fun m hm => .inl (hread m hm)

theorem Normalises.members_succ (h : Normalises fuel) (depth : Nat) (form : Form) (fields : Fields)
    (first : Bool) (read : List (String × Json)) (hread : ∀ m ∈ read, fields.Takes m.1 m.2) :
    Gives (Reading.members (fuel + 1) depth form fields first read)
      fun ms => ∀ m ∈ ms, fields.Takes m.1 m.2 := by
  rw [Reading.members]
  refine gives_after fun next => gives_ite (gives_after fun key => ?_) (gives_pure hread)
  cases hs : fields.schema? key with
  | none =>
    exact gives_after fun _ => gives_after fun _ => h.members depth form fields false read hread
  | some schema =>
    refine gives_ite (gives_failLater _) (gives_after fun _ => ?_)
    refine (h.value depth schema).bind fun w hw => h.members depth form fields false _ fun m hm => ?_
    rcases List.mem_append.mp hm with hm | hm
    · exact hread m hm
    · obtain rfl := List.mem_singleton.mp hm
      exact Fields.takes_of_schema? hs hw

theorem Normalises.positions_succ (h : Normalises fuel) (depth : Nat) (expectation : String)
    (fields : Fields) (index : Nat) :
    Gives (Reading.positions (fuel + 1) depth expectation fields index)
      fun ms => ∀ m ∈ ms, fields.Takes m.1 m.2 ∨ fields.Fills m.1 m.2 := by
  cases fields with
  | nil =>
    rw [Reading.positions.eq_def]
    exact gives_pure fun m hm => absurd hm List.not_mem_nil
  | cons name presence schema rest =>
    rw [Reading.positions.eq_def]
    have hrest {w : Json} (hw : schema.Normal w ∨ presence = .absent w) :
        Gives (Reading.positions fuel depth expectation rest (index + 1) >>= fun ms =>
          pure ((name, w) :: ms)) fun ms => ∀ m ∈ ms,
            (Fields.cons name presence schema rest).Takes m.1 m.2 ∨
              (Fields.cons name presence schema rest).Fills m.1 m.2 := by
      refine (h.positions depth expectation rest (index + 1)).bind fun ms hms => gives_pure ?_
      refine List.forall_mem_cons.mpr ⟨?_, fun m hm => (hms m hm).imp .inr .inr⟩
      exact hw.imp (.inl ⟨rfl, ·⟩) (.inl ⟨rfl, ·⟩)
    refine gives_after fun next => gives_ite ?_ ?_
    · exact (h.value depth schema).bind fun w hw => hrest (.inl hw)
    · cases presence with
      | required => exact gives_failLater _
      | absent d => exact gives_ite (gives_failLater _) (hrest (.inr rfl))

/-- A record is read by its keys, by the places of a sequence or, as an entry, from null. -/
theorem Normalises.value_record (h : Normalises fuel) (depth : Nat) (form : Form) (name : String)
    (fields : Fields) :
    Gives (Reading.value (fuel + 1) depth (.record form name fields))
      (Schema.record form name fields).Normal := by
  have hfinish {read : List (String × Json)}
      (hread : ∀ m ∈ read, fields.Takes m.1 m.2 ∨ fields.Fills m.1 m.2) :
      Gives (lift (fields.finish read) >>= fun out => pure (Json.ofMembers out))
        (Schema.record form name fields).Normal :=
    (gives_lift fun _ hout => hout).bind fun out hout =>
      gives_pure (Fields.normal_of_finish hout hread)
  rw [Reading.value.eq_def]
  refine Gives.placed (gives_after fun c => gives_ite (gives_after fun _ => ?_) (gives_ite
    (gives_after fun _ => ?_) (gives_ite (gives_after fun _ => gives_after fun _ => ?_)
      (gives_failType _ _))))
  · exact (h.record _ form name fields).closedBy endObject
  · refine Gives.closedBy ?_ endList
    cases form with
    | keyed | entry => exact gives_failLater _
    | positional => exact (h.positions _ _ fields 0).bind fun read => hfinish
  · exact hfinish fun m hm => absurd hm List.not_mem_nil

theorem Normalises.value_succ (h : Normalises fuel) (depth : Nat) (schema : Schema) :
    Gives (Reading.value (fuel + 1) depth schema) schema.Normal := by
  cases schema with
  | ignored =>
    rw [Reading.value]
    exact gives_after fun _ => gives_pure rfl
  | anything =>
    rw [Reading.value]
    exact fun _ _ _ _ => trivial
  | text =>
    rw [Reading.value]
    exact gives_after fun s => gives_pure ⟨s, rfl⟩
  | flag =>
    rw [Reading.value]
    refine gives_after fun c => ?_
    split
    · exact gives_after fun _ => gives_after fun _ => gives_pure ⟨true, rfl⟩
    · exact gives_after fun _ => gives_after fun _ => gives_pure ⟨false, rfl⟩
    · exact gives_failType _ _
  | integer name least greatest =>
    rw [Reading.value]
    have hnumber (n : Number) : Gives (lift (readInteger name least greatest n))
        (Schema.integer name least greatest).Normal := gives_lift fun _ => normal_of_readInteger
    refine Gives.placed (gives_after fun c => ?_)
    refine gives_ite (gives_after fun _ => gives_after hnumber) ?_
    exact gives_ite (gives_after hnumber) (gives_failType _ _)
  | constant expected =>
    rw [Reading.value]
    exact gives_after fun s => gives_lift fun _ => normal_of_readConstant
  | choice words =>
    rw [Reading.value]
    exact gives_after fun s => gives_lift fun _ => normal_of_readChoice
  | instant =>
    rw [Reading.value]
    exact Gives.placed (gives_after fun s => gives_lift fun _ => normal_of_readInstant)
  | optional s =>
    rw [Reading.value]
    refine gives_after fun c? => gives_ite ?_ ?_
    · exact gives_after fun _ => gives_after fun _ => gives_pure (.inl rfl)
    · exact fun c c' w hw => .inr (h.value depth s c c' w hw)
  | list s =>
    rw [Reading.value]
    refine Gives.placed (gives_after fun c => gives_ite (gives_after fun _ => ?_) (gives_failType _ _))
    exact ((h.items _ s true).closedBy endList).bind fun ws hws => gives_pure ⟨ws, rfl, hws⟩
  | dictionary s =>
    rw [Reading.value]
    refine Gives.placed (gives_after fun c => gives_ite (gives_after fun _ => ?_) (gives_failType _ _))
    exact ((h.entries _ s true).closedBy endObject).bind fun ms hms => gives_pure (normal_ofMembers hms)
  | record form name fields =>
    exact h.value_record depth form name fields

theorem normalises (fuel : Nat) : Normalises fuel := by
  induction fuel with
  | zero => exact normalises_zero
  | succ fuel ih =>
    exact ⟨ih.value_succ, ih.items_succ, ih.entries_succ, ih.record_succ, ih.members_succ,
      ih.positions_succ⟩

end Reading

/-- What a text is read as is a normal form. -/
theorem Schema.normal_of_readText {depth : Nat} {schema : Schema} {text : String} {w : Json}
    (h : schema.readText depth text = .ok w) : schema.Normal w := by
  rw [Schema.readText] at h
  have hgives : Reading.Gives (do
      let v ← Reading.value (4 * text.toList.length + 16) depth schema
      Reading.atEnd
      return v) schema.Normal :=
    ((Reading.normalises _).value depth schema).bind fun w hw =>
      Reading.gives_after fun _ => Reading.gives_pure hw
  split at h
  next v c hv =>
    obtain rfl := Except.ok.inj h
    exact hgives _ _ _ hv
  next => contradiction

end BackingServices
