import BackingServices.Proofs.Yaml.Parsing
import BackingServices.Yaml.Value

/-!
# Rendered values are read back

From the events of a value the value is built again (`value_builds`), and with what is
known of tokens and events a rendered value is read as itself, provided that it has no
key twice (`readWithin?_render`).

A reader that follows collections only so deep refuses what is nested deeper, and
nothing else.
-/

namespace BackingServices.Yaml

/-! ## JSON values as values of documents -/

mutual

/-- A JSON value as the value of a document. -/
def Value.ofJson : Json → Value
  | .null => .null
  | .bool b => .bool b
  | .number n => .number n
  | .string s => .string s
  | .array items => .sequence (ofJsonItems items)
  | .object members => .mapping (ofJsonMembers members)

/-- The values of a sequence as values of a document. -/
def Value.ofJsonItems : List Json → List Value
  | [] => []
  | v :: vs => ofJson v :: ofJsonItems vs

/-- The members of an object as members of a mapping. -/
def Value.ofJsonMembers : List (String × Json) → List (Value × Value)
  | [] => []
  | (key, v) :: ms => (.string key, ofJson v) :: ofJsonMembers ms

end

mutual

/-- No JSON value is lost in a document. -/
theorem Value.toJson?_ofJson : ∀ v : Json, (ofJson v).toJson? = some v
  | .null | .bool _ | .number _ | .string _ => rfl
  | .array items => by simp [ofJson, toJson?, toJsonItems?_ofJson items]
  | .object members => by simp [ofJson, toJson?, toJsonMembers?_ofJson members]

theorem Value.toJsonItems?_ofJson : ∀ vs : List Json, toJsonItems? (ofJsonItems vs) = some vs
  | [] => rfl
  | v :: vs => by simp [ofJsonItems, toJsonItems?, toJson?_ofJson v, toJsonItems?_ofJson vs]

theorem Value.toJsonMembers?_ofJson :
    ∀ ms : List (String × Json), toJsonMembers? (ofJsonMembers ms) = some ms
  | [] => rfl
  | (key, v) :: ms => by
    simp [ofJsonMembers, toJsonMembers?, toJson?_ofJson v, toJsonMembers?_ofJson ms]

end

/-! ## Scalars -/

/-- A text that is written plain is read as a text. -/
theorem resolve_of_style {s : String} (h : Style.ofText s = .plain) : resolve s = .text := by
  have hwanted : Style.wanted s = .plain := by
    simp only [Style.ofText] at h
    split at h
    · split at h <;> contradiction
    · assumption
    · split at h <;> contradiction
    · contradiction
  unfold Style.wanted at hwanted
  split at hwanted
  · contradiction
  split at hwanted
  · contradiction
  · rename_i hplain
    simp only [Bool.or_eq_true, decide_eq_true_eq, not_or, Decidable.not_not] at hplain
    exact hplain.1

theorem ofText_textEvent (s : String) :
    Value.ofText none (String.ofList s.toList) (Style.ofText s == .plain) = .ok (.string s) := by
  rw [String.ofList_toList, Value.ofText]
  split
  · rename_i h
    rw [resolve_of_style (by simpa using h)]
    rfl
  · rfl

/-! ## Steps of the builder -/

/-- The progress behind so many events more. -/
def Progress.past (p : Progress) (k : Nat) : Progress := { p with position := p.position + k }

@[simp] theorem Progress.past_past (p : Progress) (k l : Nat) : (p.past k).past l = p.past (k + l) := by
  simp [past, Nat.add_assoc]

@[simp] theorem Progress.past_position (p : Progress) (k : Nat) :
    (p.past k).position = p.position + k := rfl

/-- A step builds something and goes on behind it if it fits, and fails if it does not. -/
def Builds {α : Type} (x : Build α) (p : Progress) (fits : Prop) (a : α) (p' : Progress) : Prop :=
  (fits → x.run p = .ok a p') ∧ (¬ fits → ∃ fault p'', x.run p = .error fault p'')

theorem Builds.of_run {α : Type} {x : Build α} {p p' : Progress} {a : α} (h : x.run p = .ok a p') :
    Builds x p True a p' := ⟨fun _ => h, fun hfalse => absurd trivial hfalse⟩

theorem Builds.of_eq {α : Type} {x y : Build α} {p p' : Progress} {fits : Prop} {a : α}
    (h : x.run p = y.run p) (hy : Builds y p fits a p') : Builds x p fits a p' := by
  rwa [Builds, h]

theorem Builds.congr {α : Type} {x : Build α} {p p' : Progress} {fits fits' : Prop} {a : α}
    (h : Builds x p fits a p') (hfits : fits' ↔ fits) : Builds x p fits' a p' :=
  ⟨fun hf => h.1 (hfits.mp hf), fun hf => h.2 fun hf' => hf (hfits.mpr hf')⟩

theorem Builds.bind {α β : Type} {x : Build α} {f : α → Build β} {p p' p'' : Progress}
    {fits fits' : Prop} {a : α} {b : β} (hx : Builds x p fits a p') (hf : Builds (f a) p' fits' b p'') :
    Builds (x >>= f) p (fits ∧ fits') b p'' := by
  refine ⟨fun h => ?_, fun h => ?_⟩
  · rw [EStateM.run_bind, hx.1 h.1]
    exact hf.1 h.2
  · rw [EStateM.run_bind]
    by_cases hfits : fits
    · rw [hx.1 hfits]
      exact hf.2 fun hfits' => h ⟨hfits, hfits'⟩
    · obtain ⟨fault, q, hrun⟩ := hx.2 hfits
      rw [hrun]
      exact ⟨fault, q, rfl⟩

namespace Document

/-- The events of a document from an index on. -/
def Shows (d : Document) (position : Nat) (events : List Event) : Prop :=
  ∃ front back, d.events.toList.map Prod.fst = front ++ (events ++ back) ∧ front.length = position

theorem Shows.append {d : Document} {position : Nat} {events events' : List Event}
    (h : d.Shows position (events ++ events')) :
    d.Shows position events ∧ d.Shows (position + events.length) events' := by
  obtain ⟨front, back, hevents, rfl⟩ := h
  exact ⟨⟨front, events' ++ back, by simpa using hevents, rfl⟩,
    ⟨front ++ events, back, by simpa using hevents, by simp⟩⟩

theorem Shows.cons {d : Document} {position : Nat} {event : Event} {events : List Event}
    (h : d.Shows position (event :: events)) :
    (∃ mark, d.events[position]? = some (event, mark)) ∧ d.Shows (position + 1) events := by
  obtain ⟨hfirst, hrest⟩ : d.Shows position [event] ∧ d.Shows (position + [event].length) events :=
    Shows.append h
  refine ⟨?_, hrest⟩
  obtain ⟨front, back, hevents, rfl⟩ := hfirst
  obtain ⟨es, es', hes, hfront, hback⟩ := List.map_eq_append_iff.mp hevents
  obtain ⟨⟨e, mark⟩, es'', rfl, rfl, -⟩ := List.map_eq_cons_iff.mp hback
  refine ⟨mark, ?_⟩
  rw [← Array.getElem?_toList, hes, ← hfront, List.length_map,
    List.getElem?_append_right (Nat.le_refl _), Nat.sub_self]
  rfl

section Steps

variable {d : Document} {p : Progress} {event : Event} {mark : Mark} {n depth : Nat} {path : List Step}
  (h : d.events[p.position]? = some (event, mark))
include h

theorem peek_run : d.peek.run p = .ok (event, mark) p := by simp [peek, h]

end Steps

theorem skip_run (p : Progress) : skip.run p = .ok () (p.past 1) := rfl

section Values

variable {d : Document} {p : Progress} {mark : Mark} {n depth : Nat} {path : List Step}

/-- A scalar is built from its event. -/
theorem value_scalar {text : List Char} {plain : Bool} {v : Value}
    (h : d.events[p.position]? = some (.scalar none text plain, mark))
    (hv : Value.ofText none (String.ofList text) plain = .ok v) :
    Builds (d.value (n + 1) depth false path) p True v (p.past 1) := by
  refine .of_run ?_
  rw [value]
  simp only [EStateM.run_bind, peek_run h, Bool.false_eq_true, if_false, Option.bind_none, skip_run, hv,
    accept, EStateM.run_pure]

/-- What is built inside a collection is built if the collection is not too deep. -/
theorem value_collection {α : Type} (mark : Mark) {x : Nat → Build α} {f : α → Value} {a : α}
    {fits : Prop} {p' : Progress}
    (hrun : (d.value (n + 1) depth false path).run p =
      (if depth = 0 then throw (Fault.tooDeep mark) else do return f (← x (depth - 1)) : Build Value).run
        (p.past 1))
    (hx : 0 < depth → Builds (x (depth - 1)) (p.past 1) fits a p') :
    Builds (d.value (n + 1) depth false path) p (0 < depth ∧ fits) (f a) p' := by
  rw [Builds, hrun]
  by_cases hdepth : depth = 0
  · rw [if_pos hdepth]
    exact ⟨fun h => absurd hdepth (Nat.ne_of_gt h.1), fun _ => ⟨_, _, rfl⟩⟩
  · have hpos : 0 < depth := Nat.pos_of_ne_zero hdepth
    rw [if_neg hdepth]
    have hmap := (hx hpos).bind (f := fun a => pure (f a)) (.of_run rfl)
    exact hmap.congr (by simp [hpos])

/-- A sequence is built from its items, unless it is too deep. -/
theorem value_sequence {vs : List Value} {fits : Prop} {p' : Progress}
    (h : d.events[p.position]? = some (.sequence none, mark))
    (hitems : 0 < depth → Builds (d.items n (depth - 1) path 0) (p.past 1) fits vs p') :
    Builds (d.value (n + 1) depth false path) p (0 < depth ∧ fits) (.sequence vs) p' := by
  refine value_collection mark (x := fun depth => d.items n depth path 0) ?_ hitems
  rw [value]
  simp only [EStateM.run_bind, peek_run h, Bool.false_eq_true, if_false, Option.bind_none, skip_run]
  split <;> rfl

/-- A mapping is built from its members, unless it is too deep. -/
theorem value_mapping {ms : List (Value × Value)} {fits : Prop} {p' : Progress}
    (h : d.events[p.position]? = some (.mapping none, mark))
    (hmembers : 0 < depth →
      Builds (d.members n (depth - 1) false path mark []) (p.past 1) fits ms p') :
    Builds (d.value (n + 1) depth false path) p (0 < depth ∧ fits) (.mapping ms) p' := by
  refine value_collection mark (x := fun depth => d.members n depth false path mark []) ?_ hmembers
  rw [value]
  simp only [EStateM.run_bind, peek_run h, Bool.false_eq_true, if_false, Option.bind_none, skip_run]
  split <;> rfl

/-- The mark of the end ends a sequence. -/
theorem items_close {index : Nat} (h : d.events[p.position]? = some (.close, mark)) :
    Builds (d.items (n + 1) depth path index) p True [] (p.past 1) := by
  refine .of_run ?_
  rw [items]
  simp only [EStateM.run_bind, peek_run h, if_true, skip_run, EStateM.run_pure]

/-- An item is built in front of the others. -/
theorem items_cons {event : Event} {index : Nat} {v : Value} {vs : List Value} {fits fits' : Prop}
    {p' p'' : Progress} (h : d.events[p.position]? = some (event, mark)) (hevent : event ≠ .close)
    (hv : Builds (d.value n depth false (.index index :: path)) p fits v p')
    (hvs : Builds (d.items n depth path (index + 1)) p' fits' vs p'') :
    Builds (d.items (n + 1) depth path index) p (fits ∧ fits') (v :: vs) p'' := by
  have hothers := hvs.bind (f := fun vs => pure (v :: vs)) (.of_run rfl)
  refine .of_eq (y := do
    let v ← d.value n depth false (.index index :: path)
    return v :: (← d.items n depth path (index + 1))) ?_ ((hv.bind hothers).congr (by simp))
  rw [items]
  simp only [EStateM.run_bind, peek_run h, if_neg hevent]

/-- The mark of the end ends a mapping. -/
theorem members_close {begun : Mark} {found : List (Value × Value)}
    (h : d.events[p.position]? = some (.close, mark)) :
    Builds (d.members (n + 1) depth false path begun found) p True found (p.past 1) := by
  refine .of_run ?_
  rw [members]
  simp only [EStateM.run_bind, peek_run h, if_true, skip_run, EStateM.run_pure]

/-- A member with a new key is built in front of the others. -/
theorem members_cons {event : Event} {begun : Mark} {found ms : List (Value × Value)} {key v : Value}
    {fits fits' : Prop} {p₁ p₂ p₃ : Progress} (h : d.events[p.position]? = some (event, mark))
    (hevent : event ≠ .close) (hkey : Builds (d.value n depth false path) p True key p₁)
    (hnew : ∀ k ∈ found, Value.same k.1 key = false)
    (hv : Builds (d.value n depth false (keyStep event :: path)) p₁ fits v p₂)
    (hms : Builds (d.members n depth false path begun (found ++ [(key, v)])) p₂ fits' ms p₃) :
    Builds (d.members (n + 1) depth false path begun found) p (fits ∧ fits') ms p₃ := by
  have hmember := hv.bind (f := fun v => d.members n depth false path begun (found ++ [(key, v)])) hms
  refine .of_eq (y := do
    let _ ← d.value n depth false path
    let v ← d.value n depth false (keyStep event :: path)
    d.members n depth false path begun (found ++ [(key, v)])) ?_
    ((hkey.bind (f := fun _ => _) hmember).congr (by simp))
  rw [members]
  simp only [EStateM.run_bind, peek_run h, if_neg hevent, hkey.1 trivial]
  rw [if_neg]
  · rfl
  · intro hany
    obtain ⟨k, hk, hsame⟩ := List.any_eq_true.mp hany
    exact absurd hsame (by simp [hnew k hk])

end Values

/-! ## Building a value -/

/-- A value is built from its events, if it is not too deep. -/
def NodeBuilds (d : Document) (v : Json) : Prop :=
  ∀ (p : Progress) (n depth : Nat) (path : List Step), d.Shows p.position (nodeEvents v) →
    (nodeEvents v).length ≤ n →
      Builds (d.value n depth false path) p (v.nesting ≤ depth) (.ofJson v)
        (p.past (nodeEvents v).length)

theorem exists_event (v : Json) : ∃ event events, nodeEvents v = event :: events ∧ event ≠ .close := by
  cases v <;> exact ⟨_, _, rfl, by simp [textEvent]⟩

section Collections

variable {d : Document} {p : Progress} {n depth : Nat} {path : List Step}

theorem items_builds (vs : List Json) (hvs : ∀ v ∈ vs, NodeBuilds d v) (index : Nat)
    (h : d.Shows p.position (elementEvents vs ++ [.close])) (hn : (elementEvents vs).length + 1 ≤ n) :
    Builds (d.items n depth path index) p (Json.nestingItems vs ≤ depth) (Value.ofJsonItems vs)
      (p.past ((elementEvents vs).length + 1)) := by
  obtain ⟨n, rfl⟩ : ∃ k, n = k + 1 := ⟨n - 1, by omega⟩
  induction vs generalizing p n index with
  | nil =>
    obtain ⟨⟨mark, hclose⟩, -⟩ := h.cons
    exact (items_close hclose).congr (by simp [Json.nestingItems])
  | cons v vs ih =>
    rw [elementEvents, List.append_assoc] at h
    simp only [elementEvents, List.length_append] at hn ⊢
    obtain ⟨hnode, hothers⟩ := h.append
    obtain ⟨event, events, hevents, hevent⟩ := exists_event v
    obtain ⟨⟨mark, hfirst⟩, -⟩ := (hevents ▸ hnode).cons
    have hlength : 0 < (nodeEvents v).length := by rw [hevents]; exact Nat.succ_pos _
    obtain ⟨n, rfl⟩ : ∃ k, n = k + 1 := ⟨n - 1, by omega⟩
    have hv := hvs v (by simp) p (n + 1) depth (.index index :: path) hnode (by omega)
    have hrest := ih (fun w hw => hvs w (by simp [hw])) (index + 1) (p := p.past (nodeEvents v).length)
      hothers n (by omega)
    rw [Progress.past_past, ← Nat.add_assoc] at hrest
    exact (items_cons hfirst hevent hv hrest).congr (by simp only [Json.nestingItems, Nat.max_le])

theorem members_builds (ms : List (String × Json)) (hms : ∀ m ∈ ms, NodeBuilds d m.2)
    (hkeys : (ms.map Prod.fst).Nodup) {begun : Mark} {found : List (Value × Value)}
    (hfound : ∀ k ∈ found, ∀ m ∈ ms, Value.same k.1 (.string m.1) = false)
    (h : d.Shows p.position (entryEvents ms ++ [.close])) (hn : (entryEvents ms).length + 1 ≤ n) :
    Builds (d.members n depth false path begun found) p (Json.nestingMembers ms ≤ depth)
      (found ++ Value.ofJsonMembers ms) (p.past ((entryEvents ms).length + 1)) := by
  obtain ⟨n, rfl⟩ : ∃ k, n = k + 1 := ⟨n - 1, by omega⟩
  induction ms generalizing p n found with
  | nil =>
    obtain ⟨⟨mark, hclose⟩, -⟩ := h.cons
    rw [Value.ofJsonMembers, List.append_nil]
    exact (members_close hclose).congr (by simp [Json.nestingMembers])
  | cons m ms ih =>
    obtain ⟨key, v⟩ := m
    rw [entryEvents, List.append_assoc] at h
    simp only [entryEvents, List.length_append, List.length_cons] at hn ⊢
    obtain ⟨hmember, hothers⟩ := h.append
    obtain ⟨⟨mark, hfirst⟩, hnode⟩ := hmember.cons
    rw [List.map_cons, List.nodup_cons] at hkeys
    obtain ⟨n, rfl⟩ : ∃ k, n = k + 1 := ⟨n - 1, by omega⟩
    have hkey : Builds (d.value (n + 1) depth false path) p True (.string key) (p.past 1) :=
      value_scalar hfirst (ofText_textEvent key)
    have hv : NodeBuilds d v := hms (key, v) (by simp)
    have hv := hv (p.past 1) (n + 1) depth (keyStep (textEvent key) :: path) hnode (by omega)
    have hnew : ∀ k ∈ found, Value.same k.1 (.string key) = false :=
      fun k hk => hfound k hk (key, v) (by simp)
    have hfound' : ∀ k ∈ found ++ [(.string key, .ofJson v)], ∀ m ∈ ms,
        Value.same k.1 (.string m.1) = false := by
      intro k hk m hm
      rcases List.mem_append.mp hk with hk | hk
      · exact hfound k hk m (by simp [hm])
      · obtain rfl := List.mem_singleton.mp hk
        have hne : key ≠ m.1 := fun heq => hkeys.1 (List.mem_map.mpr ⟨m, hm, heq.symm⟩)
        simpa [Value.same] using hne
    have hrest := ih (fun m hm => hms m (by simp [hm])) hkeys.2 hfound'
      (p := (p.past 1).past (nodeEvents v).length) (by simpa [Nat.add_assoc, Nat.add_comm] using hothers)
      n (by omega)
    have hmember := members_cons hfirst (by simp [textEvent]) hkey hnew hv hrest
    rw [List.append_assoc, Progress.past_past, Progress.past_past] at hmember
    have hlength : 1 + ((nodeEvents v).length + ((entryEvents ms).length + 1)) =
        (nodeEvents v).length + 1 + (entryEvents ms).length + 1 := by omega
    rw [hlength] at hmember
    exact hmember.congr (by simp only [Json.nestingMembers, Nat.max_le])

end Collections

/-- The event of a value that is no collection has this value. -/
theorem leaf_builds {d : Document} {v : Json} {text : List Char} {plain : Bool}
    (hevents : nodeEvents v = [.scalar none text plain])
    (hv : Value.ofText none (String.ofList text) plain = .ok (.ofJson v)) (hnesting : v.nesting = 0) :
    NodeBuilds d v := by
  intro p n depth path h hn
  rw [hevents] at h hn ⊢
  obtain ⟨n, rfl⟩ : ∃ k, n = k + 1 := ⟨n - 1, by rw [List.length_singleton] at hn; omega⟩
  obtain ⟨⟨mark, hfirst⟩, -⟩ := h.cons
  exact (value_scalar hfirst hv).congr (by simp [hnesting])

/-- A value is built from its events. -/
theorem value_builds {d : Document} (v : Json) (hv : v.KeysDistinct) : NodeBuilds d v := by
  induction v using Json.induct with
  | null => exact leaf_builds rfl rfl rfl
  | bool b => cases b <;> exact leaf_builds rfl rfl rfl
  | number n => exact leaf_builds rfl (by rw [Value.ofText, resolve_numberChars]; rfl) rfl
  | string s => exact leaf_builds rfl (ofText_textEvent s) rfl
  | array vs ih =>
    intro p n depth path h hn
    simp only [nodeEvents, List.cons_append, List.length_cons, List.length_append, List.length_nil,
      Json.KeysDistinct] at h hn hv ⊢
    obtain ⟨n, rfl⟩ : ∃ k, n = k + 1 := ⟨n - 1, by omega⟩
    obtain ⟨⟨mark, hfirst⟩, hrest⟩ := h.cons
    have hvs : ∀ v ∈ vs, NodeBuilds d v := fun v hmem => ih v hmem (hv.of_mem hmem)
    have hitems : Builds (d.items n (depth - 1) path 0) (p.past 1) _ _ _ :=
      items_builds vs hvs 0 hrest (by omega)
    have hbuilds := value_sequence hfirst fun _ => hitems
    rw [Progress.past_past, Nat.add_comm 1] at hbuilds
    exact hbuilds.congr (by simp only [Json.nesting]; omega)
  | object ms ih =>
    intro p n depth path h hn
    simp only [nodeEvents, List.cons_append, List.length_cons, List.length_append, List.length_nil,
      Json.KeysDistinct] at h hn hv ⊢
    obtain ⟨n, rfl⟩ : ∃ k, n = k + 1 := ⟨n - 1, by omega⟩
    obtain ⟨⟨mark, hfirst⟩, hrest⟩ := h.cons
    have hms : ∀ m ∈ ms, NodeBuilds d m.2 := fun m hmem => ih m hmem (hv.2.of_mem hmem)
    have hmembers : Builds (d.members n (depth - 1) false path mark []) (p.past 1) _ _ _ :=
      members_builds ms hms hv.1 (by simp) hrest (by omega)
    have hbuilds := value_mapping hfirst fun _ => hmembers
    rw [Progress.past_past, Nat.add_comm 1, List.nil_append] at hbuilds
    exact hbuilds.congr (by simp only [Json.nesting]; omega)

end Document

/-! ## Reading a rendered value -/

/-- The document of a value is built as this value, if it is not too deep. -/
theorem Document.toValue_of_holds {d : Document} {v : Json} (h : d.Holds v) (hv : v.KeysDistinct)
    (limit : Nat) :
    (v.nesting ≤ limit → d.toValue limit = .ok (.ofJson v)) ∧
      (¬ v.nesting ≤ limit → ∃ fault, d.toValue limit = .error fault) := by
  obtain ⟨hevents, -, hfault⟩ := h
  have hshows : d.Shows 0 (nodeEvents v) := ⟨[], [], by simpa using hevents, rfl⟩
  have hlength : (nodeEvents v).length ≤ 2 * (d.events.size + 2) * (limit + 2) := by
    rw [← hevents, List.length_map, Array.length_toList]
    have := Nat.le_mul_of_pos_right (2 * (d.events.size + 2)) (show 0 < limit + 2 by omega)
    omega
  obtain ⟨hfits, hdeep⟩ := value_builds v hv ⟨0, 0⟩ _ limit [] hshows hlength
  simp only [EStateM.run] at hfits hdeep
  refine ⟨fun hle => ?_, fun hgt => ?_⟩
  · simp only [toValue, hfits hle, hfault]
  · obtain ⟨fault, p, hrun⟩ := hdeep hgt
    exact ⟨fault, by simp only [toValue, hrun]⟩

theorem readWithin?_of_holds {text : String} {v : Json} (hv : v.KeysDistinct)
    (h : ∃ d, Document.ofText text = [d] ∧ d.Holds v) (limit : Nat) :
    readWithin? limit text = if v.nesting ≤ limit then some v else none := by
  obtain ⟨d, htext, hd⟩ := h
  obtain ⟨hfits, hdeep⟩ := d.toValue_of_holds hd hv limit
  simp only [readWithin?, documentsWithin, htext, List.map_cons, List.map_nil]
  by_cases hle : v.nesting ≤ limit
  · rw [hfits hle, if_pos hle]
    exact Value.toJson?_ofJson v
  · obtain ⟨fault, hfault⟩ := hdeep hle
    rw [hfault, if_neg hle]

/-- A value without a key twice is read back from its rendered text, whatever its texts and numbers
are, by every reader that follows its nesting. -/
theorem readWithin?_render {v : Json} (hv : v.KeysDistinct) (limit : Nat) :
    readWithin? limit (render v) = if v.nesting ≤ limit then some v else none :=
  readWithin?_of_holds hv (ofText_render v) limit

/-- So it is behind the line that begins a document. -/
theorem readWithin?_marked {v : Json} (hv : v.KeysDistinct) (limit : Nat) :
    readWithin? limit ("---\n" ++ render v) = if v.nesting ≤ limit then some v else none :=
  readWithin?_of_holds hv (ofText_marked v) limit

/-- A rendered value behind the line that begins a document is one document. -/
theorem documents_marked {v : Json} (hv : v.KeysDistinct) (hnesting : v.nesting ≤ documentDepth) :
    documents ("---\n" ++ render v) = [.ok (.ofJson v)] := by
  obtain ⟨d, htext, hd⟩ := ofText_marked v
  rw [documents, documentsWithin, htext, List.map_singleton, (d.toValue_of_holds hd hv _).1 hnesting]

end BackingServices.Yaml
