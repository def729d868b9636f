import BackingServices.Proofs.Json
import BackingServices.Proofs.Yaml.Layout
import BackingServices.Yaml.Event

/-!
# The events of a rendered value

The grammar reads the tokens of a value as its events (`node_yields`), and the tokens of
a rendered value as one document with these events (`ofText_render`).

A step of the reader takes some tokens and adds some events; `Reader.Yields` says which.
Whether a sequence is written below a simple key is not seen in its events.
-/

namespace BackingServices.Yaml

/-! ## The events of a value -/

/-- The event of a text. -/
def textEvent (s : String) : Event := .scalar none s.toList (Style.ofText s == .plain)

mutual

/-- The events of a value. -/
def nodeEvents : Json → List Event
  | .null => [.scalar none "null".toList true]
  | .bool b => [.scalar none (if b then "true" else "false").toList true]
  | .number n => [.scalar none (numberChars n) true]
  | .string s => [textEvent s]
  | .array vs => .sequence none :: elementEvents vs ++ [.close]
  | .object ms => .mapping none :: entryEvents ms ++ [.close]

/-- The events of elements. -/
def elementEvents : List Json → List Event
  | [] => []
  | v :: vs => nodeEvents v ++ elementEvents vs

/-- The events of members. -/
def entryEvents : List (String × Json) → List Event
  | [] => []
  | (key, v) :: ms => textEvent key :: nodeEvents v ++ entryEvents ms

end

/-- A document with the events of a value, without anchors and faults. -/
def Document.Holds (d : Document) (v : Json) : Prop :=
  d.events.toList.map Prod.fst = nodeEvents v ∧ d.anchors = [] ∧ d.fault? = none

namespace Reader

/-! ## Steps of the reader -/

/-- Tokens that begin with tokens of some kinds, and those behind them. -/
def Splits (ts : List Token) (kinds : List TokenKind) (us : List Token) : Prop :=
  ∃ front, ts = front ++ us ∧ front.map Token.kind = kinds

theorem Splits.nil {ts us : List Token} (h : Splits ts [] us) : ts = us := by
  obtain ⟨front, rfl, hfront⟩ := h
  rw [List.map_eq_nil_iff.mp hfront, List.nil_append]

theorem Splits.cons {ts us : List Token} {kind : TokenKind} {kinds : List TokenKind}
    (h : Splits ts (kind :: kinds) us) : ∃ m ts', ts = ⟨kind, m⟩ :: ts' ∧ Splits ts' kinds us := by
  obtain ⟨front, rfl, hfront⟩ := h
  obtain ⟨t, front, rfl, rfl, rfl⟩ := List.map_eq_cons_iff.mp hfront
  exact ⟨t.mark, front ++ us, rfl, front, rfl, rfl⟩

theorem Splits.single {ts us : List Token} {kind : TokenKind} (h : Splits ts [kind] us) :
    ∃ m, ts = ⟨kind, m⟩ :: us := by
  obtain ⟨m, ts', rfl, hnil⟩ := h.cons
  exact ⟨m, by rw [hnil.nil]⟩

theorem Splits.append {ts us : List Token} {kinds kinds' : List TokenKind}
    (h : Splits ts (kinds ++ kinds') us) : ∃ ts', Splits ts kinds ts' ∧ Splits ts' kinds' us := by
  obtain ⟨front, rfl, hfront⟩ := h
  obtain ⟨front, front', rfl, rfl, rfl⟩ := List.map_eq_append_iff.mp hfront
  exact ⟨front' ++ us, ⟨front, by simp, rfl⟩, front', rfl, rfl⟩

/-- The reader with other tokens left and some events more. -/
def extend (r : Reader) (us : List Token) (es : List (Event × Mark)) : Reader :=
  { r with tokens := us, current := { r.current with events := r.current.events ++ es.toArray } }

@[simp] theorem extend_tokens (r : Reader) (us : List Token) (es : List (Event × Mark)) :
    (r.extend us es).tokens = us := rfl

@[simp] theorem extend_extend (r : Reader) (us us' : List Token) (es es' : List (Event × Mark)) :
    (r.extend us es).extend us' es' = r.extend us' (es ++ es') := by
  simp [extend, Array.append_assoc]

/-- A step adds some events and leaves some tokens. -/
def Yields (x : Step Unit) (r : Reader) (events : List Event) (us : List Token) : Prop :=
  ∃ es, es.map Prod.fst = events ∧ x.run r = .ok () (r.extend us es)

theorem Yields.bind {x y : Step Unit} {r : Reader} {events events' : List Event} {ts us : List Token}
    (hx : Yields x r events ts) (hy : ∀ es, Yields y (r.extend ts es) events' us) :
    Yields (x >>= fun _ => y) r (events ++ events') us := by
  obtain ⟨es, hes, hrun⟩ := hx
  obtain ⟨es', hes', hrun'⟩ := hy es
  refine ⟨es ++ es', by rw [List.map_append, hes, hes'], ?_⟩
  rw [EStateM.run_bind, hrun]
  simp only [hrun', extend_extend]

section Steps

variable {r : Reader} {t : Token} {ts : List Token} (h : r.tokens = t :: ts)
include h

theorem peek_run : peek.run r = .ok t r := by simp [peek, h]

theorem peekKind_run : peekKind.run r = .ok t.kind r := by
  simp only [peekKind, EStateM.run_bind, peek_run h, EStateM.run_pure]

theorem skip_yields : Yields skip r [] ts := ⟨[], rfl, by simp [skip, extend, h]⟩

/-- A token that is neither an anchor nor a tag is a node without properties. -/
theorem properties_run (hanchor : ∀ name, t.kind ≠ .anchor name) (htag : ∀ tag, t.kind ≠ .tag tag) :
    properties.run r = .ok (none, none) r := by
  obtain ⟨kind, m⟩ := t
  have hanchor? : anchor?.run r = .ok none r := by
    simp only [anchor?, EStateM.run_bind, peekKind_run h]
    cases kind with
    | anchor name => exact absurd rfl (hanchor name)
    | _ => rfl
  have htag? : tag?.run r = .ok none r := by
    simp only [tag?, EStateM.run_bind, peek_run h]
    cases kind with
    | tag tag => exact absurd rfl (htag tag)
    | _ => rfl
  simp only [properties, EStateM.run_bind, peek_run h, hanchor?, htag?, Option.isSome_none,
    Bool.false_eq_true, if_false, EStateM.run_pure, resolveTag]

end Steps

theorem emit_yields (r : Reader) (event : Event) (mark : Mark) :
    Yields (emit event mark) r [event] r.tokens :=
  ⟨[(event, mark)], rfl, by simp [emit, extend]⟩

theorem Yields.of_run {x y : Step Unit} {r : Reader} {events : List Event} {us : List Token}
    (h : x.run r = y.run r) (hy : Yields y r events us) : Yields x r events us := by
  obtain ⟨es, hes, hrun⟩ := hy
  exact ⟨es, hes, h.trans hrun⟩

/-- Passing a token adds no event. -/
theorem Yields.skip_bind {y : Step Unit} {r : Reader} {t : Token} {ts us : List Token}
    {events : List Event} (h : r.tokens = t :: ts)
    (hy : ∀ es, Yields y (r.extend ts es) events us) : Yields (skip >>= fun _ => y) r events us :=
  (skip_yields h).bind hy

/-- An event is added before what follows is read. -/
theorem Yields.emit_bind {y : Step Unit} {r : Reader} {us : List Token} {events : List Event}
    {event : Event} {mark : Mark} (hy : ∀ es, Yields y (r.extend r.tokens es) events us) :
    Yields (emit event mark >>= fun _ => y) r (event :: events) us :=
  (emit_yields r event mark).bind hy

theorem emitNode_none (event : Event) (mark : Mark) : emitNode none event mark = emit event mark := rfl

section Nodes

variable {r : Reader} {m : Mark} {ts us : List Token} {n : Nat} {block below : Bool}

/-- A scalar token is a node. -/
theorem node_scalar {text : List Char} {plain : Bool} (h : r.tokens = ⟨.scalar text plain, m⟩ :: ts) :
    Yields (node (n + 1) block below) r [.scalar none text plain] ts := by
  refine .of_run (y := emit (.scalar none text plain) m >>= fun _ => skip) ?_ ?_
  · rw [node]
    simp only [EStateM.run_bind, peek_run h, properties_run h (by simp) (by simp), emitNode_none]
    rfl
  · exact .emit_bind fun es => skip_yields h

theorem node_text {s : String} (h : r.tokens = ⟨textToken s, m⟩ :: ts) :
    Yields (node (n + 1) block below) r [textEvent s] ts := node_scalar h

/-- A collection that begins with a token of its own is a node. -/
theorem node_opened {kind : TokenKind} {event : Event} {rest : Step Unit} {events : List Event}
    (h : r.tokens = ⟨kind, m⟩ :: ts)
    (hnode : (node (n + 1) block below).run r =
      (emit event m >>= fun _ => skip >>= fun _ => rest).run r)
    (hrest : ∀ es, Yields rest (r.extend ts es) events us) :
    Yields (node (n + 1) block below) r (event :: events) us := by
  refine .of_run hnode (.emit_bind fun es => .skip_bind h fun es' => ?_)
  rw [extend_extend]
  exact hrest _

theorem node_blockSequence {events : List Event} (h : r.tokens = ⟨.blockSequence, m⟩ :: ts)
    (hrest : ∀ es, Yields (blockSequence n m) (r.extend ts es) events us) :
    Yields (node (n + 1) true below) r (.sequence none :: events) us := by
  refine node_opened h ?_ hrest
  rw [node]
  simp only [EStateM.run_bind, peek_run h, properties_run h (by simp) (by simp), emitNode_none, if_true]

theorem node_blockMapping {events : List Event} (h : r.tokens = ⟨.blockMapping, m⟩ :: ts)
    (hrest : ∀ es, Yields (blockMapping n m) (r.extend ts es) events us) :
    Yields (node (n + 1) true below) r (.mapping none :: events) us := by
  refine node_opened h ?_ hrest
  rw [node]
  simp only [EStateM.run_bind, peek_run h, properties_run h (by simp) (by simp), emitNode_none, if_true]

/-- A sequence whose dashes are at the column of the key above begins with its first dash. -/
theorem node_dashes {events : List Event} (h : r.tokens = ⟨.dash, m⟩ :: ts)
    (hrest : ∀ es, Yields (dashes n) (r.extend r.tokens es) events us) :
    Yields (node (n + 1) block true) r (.sequence none :: events) us := by
  refine .of_run (y := emit (.sequence none) m >>= fun _ => dashes n) ?_ (.emit_bind hrest)
  rw [node]
  simp only [EStateM.run_bind, peek_run h, properties_run h (by simp) (by simp), emitNode_none, if_true]

/-- The closing token of a collection adds its event. -/
theorem closeAndSkip_yields {t : Token} (h : r.tokens = t :: ts) :
    Yields closeAndSkip r [.close] ts := by
  refine .of_run (y := emit .close t.mark >>= fun _ => skip) ?_ (.emit_bind fun es => skip_yields h)
  simp only [closeAndSkip, EStateM.run_bind, peek_run h]

/-- Two brackets are an empty sequence. -/
theorem node_flowSequence {m' : Mark}
    (h : r.tokens = ⟨.flowSequence, m⟩ :: ⟨.flowSequenceEnd, m'⟩ :: ts) :
    Yields (node (n + 2) block below) r [.sequence none, .close] ts := by
  suffices hrest : ∀ es, Yields (flowSequence (n + 1) m true)
      (r.extend (⟨.flowSequenceEnd, m'⟩ :: ts) es) [.close] ts by
    refine node_opened h ?_ hrest
    rw [node]
    simp only [EStateM.run_bind, peek_run h, properties_run h (by simp) (by simp), emitNode_none]
  intro es
  refine .of_run ?_ (closeAndSkip_yields rfl)
  rw [flowSequence]
  simp only [EStateM.run_bind, peekKind_run (extend_tokens r _ es), if_true]

/-- Two braces are an empty mapping. -/
theorem node_flowMapping {m' : Mark}
    (h : r.tokens = ⟨.flowMapping, m⟩ :: ⟨.flowMappingEnd, m'⟩ :: ts) :
    Yields (node (n + 2) block below) r [.mapping none, .close] ts := by
  suffices hrest : ∀ es, Yields (flowMapping (n + 1) m true)
      (r.extend (⟨.flowMappingEnd, m'⟩ :: ts) es) [.close] ts by
    refine node_opened h ?_ hrest
    rw [node]
    simp only [EStateM.run_bind, peek_run h, properties_run h (by simp) (by simp), emitNode_none]
  intro es
  refine .of_run ?_ (closeAndSkip_yields rfl)
  rw [flowMapping]
  simp only [EStateM.run_bind, peekKind_run (extend_tokens r _ es), if_true]

end Nodes

/-! ## Sequences and mappings -/

section Blocks

variable {r : Reader} {m m' : Mark} {t : Token} {ts us : List Token} {n : Nat}

theorem skip_run (h : r.tokens = t :: ts) : skip.run r = .ok () (r.extend ts []) := by
  simp [skip, extend, h]

/-- Behind the dash of a block sequence its element is read. -/
theorem blockSequence_dash (h : r.tokens = ⟨.dash, m'⟩ :: t :: ts) (hdash : t.kind ≠ .dash)
    (hend : t.kind ≠ .blockEnd) :
    (blockSequence (n + 1) m).run r =
      (skip >>= fun _ => node n true false >>= fun _ => blockSequence n m).run r := by
  obtain ⟨kind, mark⟩ := t
  rw [blockSequence]
  simp only [EStateM.run_bind, peekKind_run h, skip_run h, peekKind_run (extend_tokens r _ [])]

/-- So it is where the dashes are at the column of the key above. -/
theorem dashes_dash (h : r.tokens = ⟨.dash, m'⟩ :: t :: ts) (hdash : t.kind ≠ .dash)
    (hend : endsBlockPart t.kind = false) :
    (dashes (n + 1)).run r = (skip >>= fun _ => node n true false >>= fun _ => dashes n).run r := by
  obtain ⟨kind, mark⟩ := t
  rw [dashes]
  simp only [EStateM.run_bind, peekKind_run h, skip_run h, peekKind_run (extend_tokens r _ [])]
  cases kind with
  | dash => contradiction
  | key => contradiction
  | value => contradiction
  | blockEnd => contradiction
  | _ => rfl

/-- What is no dash ends such a sequence and stays. -/
theorem dashes_end (h : r.tokens = t :: ts) (hdash : t.kind ≠ .dash) :
    Yields (dashes (n + 1)) r [.close] r.tokens := by
  refine .of_run (y := emit .close t.mark) ?_ (emit_yields r .close t.mark)
  obtain ⟨kind, mark⟩ := t
  rw [dashes]
  simp only [EStateM.run_bind, peekKind_run h]
  cases kind with
  | dash => contradiction
  | _ => simp only [peek_run h]

/-- What is read behind the key of a member. -/
def behindKey (n : Nat) (beginning : Mark) : Step Unit := do
  if (← peekKind) = .value then
    skip
    if endsBlockPart (← peekKind) then emitEmpty else node n true true
  else emitEmpty
  blockMapping n beginning

/-- Behind the sign of a key the key is read. -/
theorem blockMapping_key (h : r.tokens = ⟨.key, m'⟩ :: t :: ts) (hpart : endsBlockPart t.kind = false) :
    (blockMapping (n + 1) m).run r =
      (skip >>= fun _ => node n true true >>= fun _ => behindKey n m).run r := by
  rw [blockMapping]
  simp only [EStateM.run_bind, peekKind_run h, skip_run h, peekKind_run (extend_tokens r _ []), hpart,
    Bool.false_eq_true, if_false]
  rfl

/-- Behind the sign of a value the value is read. -/
theorem behindKey_value (h : r.tokens = ⟨.value, m'⟩ :: t :: ts)
    (hpart : endsBlockPart t.kind = false) :
    (behindKey n m).run r =
      (skip >>= fun _ => node n true true >>= fun _ => blockMapping n m).run r := by
  simp only [behindKey, EStateM.run_bind, peekKind_run h, if_true, skip_run h,
    peekKind_run (extend_tokens r _ []), hpart, Bool.false_eq_true, if_false]

end Blocks

/-- A node begins with a token that begins one. -/
theorem exists_first (v : Json) (below : Bool) : ∃ kind rest, nodeTokens below v = kind :: rest ∧
    endsBlockPart kind = false ∧ endsDocument kind = false ∧ (kind = .dash → below = true) := by
  rcases leaf_or_nested 0 v with ⟨text, hv⟩ | ⟨w, ws, rfl⟩ | ⟨key, w, ms, rfl⟩
  · cases hv <;> exact ⟨_, _, rfl, rfl, rfl, by simp [textToken]⟩
  · cases below with
    | true => exact ⟨.dash, _, by simp [nodeTokens, elementTokens]; rfl, rfl, rfl, fun _ => rfl⟩
    | false => exact ⟨.blockSequence, _, by simp [nodeTokens]; rfl, rfl, rfl, by simp⟩
  · exact ⟨.blockMapping, _, by simp [nodeTokens]; rfl, rfl, rfl, by simp⟩

/-- Behind a node below a simple key there is a token that is no dash. -/
def EndsNode (below : Bool) (us : List Token) : Prop :=
  below = true → ∃ t ts, us = t :: ts ∧ t.kind ≠ .dash

/-- The tokens of a value are read as its events. -/
def NodeYields (v : Json) : Prop :=
  ∀ {below place : Bool}, (below = true → place = true) → ∀ {r : Reader} {us : List Token},
    Splits r.tokens (nodeTokens below v) us → EndsNode below us →
      ∀ {n : Nat}, (nodeTokens below v).length + (if below then 2 else 0) ≤ n →
        Yields (node n true place) r (nodeEvents v) us

section Elements

variable {r : Reader} {us : List Token} {n : Nat}

theorem blockSequence_yields (vs : List Json) (hvs : ∀ v ∈ vs, NodeYields v) (m : Mark)
    (h : Splits r.tokens (elementTokens vs ++ [.blockEnd]) us)
    (hn : (elementTokens vs).length + 1 ≤ n) :
    Yields (blockSequence n m) r (elementEvents vs ++ [.close]) us := by
  obtain ⟨n, rfl⟩ : ∃ k, n = k + 1 := ⟨n - 1, by omega⟩
  induction vs generalizing r n with
  | nil =>
    obtain ⟨m', hts⟩ := Splits.single h
    refine .of_run ?_ (closeAndSkip_yields hts)
    rw [blockSequence]
    simp only [EStateM.run_bind, peekKind_run hts]
  | cons v vs ih =>
    simp only [elementTokens, List.cons_append, List.append_assoc, List.length_cons,
      List.length_append] at h hn
    obtain ⟨m', ts, hts, hrest⟩ := h.cons
    obtain ⟨ts', hnode, hothers⟩ := hrest.append
    obtain ⟨kind, rest, hfirst, hpart, -, hdash⟩ := exists_first v false
    obtain ⟨m'', ts'', rfl, -⟩ := (hfirst ▸ hnode).cons
    have hstep := blockSequence_dash (n := n) (m := m) hts (fun heq => by simpa using hdash heq)
      (fun heq => by simp only at heq; subst heq; contradiction)
    refine .of_run hstep (.skip_bind hts fun es => ?_)
    rw [elementEvents, List.append_assoc]
    obtain ⟨n, rfl⟩ : ∃ k, n = k + 1 := ⟨n - 1, by omega⟩
    have hv : NodeYields v := hvs v (by simp)
    refine .bind (hv (by simp) hnode (by simp [EndsNode]) (by simp; omega)) fun es => ?_
    refine ih (fun w hw => hvs w (by simp [hw])) ?_ n (by simp [hfirst] at hn; omega)
    exact hothers

theorem dashes_yields (vs : List Json) (hvs : ∀ v ∈ vs, NodeYields v)
    (h : Splits r.tokens (elementTokens vs) us) (hus : EndsNode true us)
    (hn : (elementTokens vs).length + 1 ≤ n) :
    Yields (dashes n) r (elementEvents vs ++ [.close]) us := by
  obtain ⟨n, rfl⟩ : ∃ k, n = k + 1 := ⟨n - 1, by omega⟩
  induction vs generalizing r n with
  | nil =>
    obtain ⟨t, ts, rfl, hdash⟩ := hus rfl
    have hyields := dashes_end (n := n) h.nil hdash
    rwa [h.nil] at hyields
  | cons v vs ih =>
    simp only [elementTokens, List.cons_append, List.length_cons, List.length_append] at h hn
    obtain ⟨m', ts, hts, hrest⟩ := h.cons
    obtain ⟨ts', hnode, hothers⟩ := hrest.append
    obtain ⟨kind, rest, hfirst, hpart, -, hdash⟩ := exists_first v false
    obtain ⟨m'', ts'', rfl, -⟩ := (hfirst ▸ hnode).cons
    have hstep := dashes_dash (n := n) hts (fun heq => by simpa using hdash heq) hpart
    refine .of_run hstep (.skip_bind hts fun es => ?_)
    rw [elementEvents, List.append_assoc]
    obtain ⟨n, rfl⟩ : ∃ k, n = k + 1 := ⟨n - 1, by omega⟩
    have hv : NodeYields v := hvs v (by simp)
    refine .bind (hv (by simp) hnode (by simp [EndsNode]) (by simp; omega)) fun es => ?_
    refine ih (fun w hw => hvs w (by simp [hw])) ?_ n (by simp [hfirst] at hn; omega)
    exact hothers

theorem blockMapping_yields (ms : List (String × Json)) (hms : ∀ m ∈ ms, NodeYields m.2) (m : Mark)
    (h : Splits r.tokens (entryTokens ms ++ [.blockEnd]) us)
    (hn : (entryTokens ms).length + 1 ≤ n) :
    Yields (blockMapping n m) r (entryEvents ms ++ [.close]) us := by
  obtain ⟨n, rfl⟩ : ∃ k, n = k + 1 := ⟨n - 1, by omega⟩
  induction ms generalizing r n with
  | nil =>
    obtain ⟨m', hts⟩ := Splits.single h
    refine .of_run ?_ (closeAndSkip_yields hts)
    rw [blockMapping]
    simp only [EStateM.run_bind, peekKind_run hts]
  | cons member ms ih =>
    obtain ⟨key, v⟩ := member
    simp only [entryTokens, List.cons_append, List.append_assoc, List.length_cons,
      List.length_append] at h hn
    obtain ⟨m', ts, hts, hrest⟩ := h.cons
    obtain ⟨mkey, ts', rfl, hvalue⟩ := hrest.cons
    obtain ⟨mvalue, ts'', rfl, hnode⟩ := hvalue.cons
    obtain ⟨us', hnode, hothers⟩ := hnode.append
    obtain ⟨kind, rest, hfirst, hpart, -, -⟩ := exists_first v (isSimpleKey key)
    obtain ⟨mfirst, ts, rfl, -⟩ := (hfirst ▸ hnode).cons
    obtain ⟨n, rfl⟩ : ∃ k, n = k + 1 := ⟨n - 1, by omega⟩
    simp only [entryEvents, List.cons_append, List.append_assoc]
    refine .of_run (blockMapping_key hts rfl) (.skip_bind hts fun es => ?_)
    refine .bind (node_text rfl) fun es => ?_
    refine .of_run (behindKey_value rfl hpart) (.skip_bind rfl fun es => ?_)
    have hus : EndsNode (isSimpleKey key) us' := by
      intro _
      cases ms with
      | nil =>
        obtain ⟨mend, ts, rfl, -⟩ := hothers.cons
        exact ⟨_, _, rfl, by simp⟩
      | cons member ms =>
        obtain ⟨mend, ts, rfl, -⟩ := Splits.cons hothers
        exact ⟨_, _, rfl, by simp⟩
    have hv : NodeYields v := hms (key, v) (by simp)
    refine .bind (hv (by simp) hnode hus (by split <;> omega)) fun es => ?_
    refine ih (fun m hm => hms m (by simp [hm])) ?_ n (by omega)
    exact hothers

end Elements

theorem exists_fuel {v : Json} {below : Bool} {n k : Nat}
    (hn : (nodeTokens below v).length + k ≤ n) : ∃ m, n = m + 1 := by
  obtain ⟨kind, rest, hfirst, -, -, -⟩ := exists_first v below
  rw [hfirst, List.length_cons] at hn
  exact ⟨n - 1, by omega⟩

theorem node_yields (v : Json) : NodeYields v := by
  induction v using Json.induct with
  | null | bool | number | string =>
    intro below place hplace r us h hus n hn
    obtain ⟨n, rfl⟩ := exists_fuel hn
    obtain ⟨m, hts⟩ := Splits.single h
    exact node_scalar hts
  | array vs ih =>
    intro below place hplace r us h hus n hn
    obtain ⟨n, rfl⟩ := exists_fuel hn
    match vs with
    | [] =>
      obtain ⟨m, ts, hts, hrest⟩ := Splits.cons h
      obtain ⟨m', rfl⟩ := Splits.single hrest
      obtain ⟨n, rfl⟩ : ∃ k, n = k + 1 := ⟨n - 1, by simp [nodeTokens] at hn; omega⟩
      exact node_flowSequence hts
    | w :: ws =>
      cases below with
      | true =>
        obtain rfl := hplace rfl
        simp only [nodeTokens, if_true] at h hn
        obtain ⟨m, ts, hts, -⟩ := Splits.cons h
        refine node_dashes hts fun es => dashes_yields (w :: ws) ih ?_ hus (by omega)
        exact h
      | false =>
        simp only [nodeTokens, Bool.false_eq_true, if_false, List.cons_append, List.length_cons,
          List.length_append] at h hn
        obtain ⟨m, ts, hts, hrest⟩ := h.cons
        refine node_blockSequence hts fun es => blockSequence_yields (w :: ws) ih m ?_ (by omega)
        exact hrest
  | object ms ih =>
    intro below place hplace r us h hus n hn
    obtain ⟨n, rfl⟩ := exists_fuel hn
    match ms with
    | [] =>
      obtain ⟨m, ts, hts, hrest⟩ := Splits.cons h
      obtain ⟨m', rfl⟩ := Splits.single hrest
      obtain ⟨n, rfl⟩ : ∃ k, n = k + 1 := ⟨n - 1, by simp [nodeTokens] at hn; omega⟩
      exact node_flowMapping hts
    | m :: ms =>
      simp only [nodeTokens, List.cons_append, List.length_cons, List.length_append] at h hn
      obtain ⟨mark, ts, hts, hrest⟩ := h.cons
      refine node_blockMapping hts fun es => blockMapping_yields (m :: ms) ih mark ?_ (by omega)
      exact hrest

/-! ## Documents -/

section Documents

variable {r : Reader} {v : Json} {m : Mark} {n : Nat}

/-- The node of a document is below no key. -/
theorem node_top {us : List Token} (h : Splits r.tokens (nodeTokens false v) us)
    (hn : (nodeTokens false v).length ≤ n) : Yields (node n true false) r (nodeEvents v) us :=
  node_yields v (by simp) h (by simp [EndsNode]) (by simpa using hn)

/-- Without a directive only the usual handles are known. -/
theorem directives_run {t : Token} {ts : List Token} (h : r.tokens = t :: ts)
    (hdirective : ∀ directive, t.kind ≠ .directive directive) (versioned : Bool) :
    (directives (n + 1) versioned []).run r = .ok () { r with handles := defaultHandles } := by
  obtain ⟨kind, m⟩ := t
  simp only [directives, EStateM.run_bind, peek_run h]
  cases kind with
  | directive directive => exact absurd rfl (hdirective directive)
  | _ => rfl

/-- A document without a mark is its node. -/
theorem document_node (h : Splits r.tokens (nodeTokens false v) [⟨.streamEnd, m⟩])
    (hn : (nodeTokens false v).length ≤ n) :
    ∃ es, es.map Prod.fst = nodeEvents v ∧ (document n true).run r =
      .ok true (extend { r with handles := defaultHandles } [⟨.streamEnd, m⟩] es) := by
  obtain ⟨n, rfl⟩ := exists_fuel (k := 0) hn
  obtain ⟨kind, rest, hfirst, -, hkind, -⟩ := exists_first v false
  obtain ⟨mfirst, ts, hts, -⟩ := (hfirst ▸ h).cons
  obtain ⟨es, hes, hnode⟩ := node_top (r := { r with handles := defaultHandles }) h hn
  have hdirective : ∀ directive, kind ≠ .directive directive := by
    rintro directive rfl
    contradiction
  have hbegins : beginsDocument kind = false := by
    cases kind with
    | directive | documentStart => contradiction
    | _ => rfl
  have hend : kind ≠ .streamEnd := by
    rintro rfl
    contradiction
  refine ⟨es, hes, ?_⟩
  simp only [document, EStateM.run_bind, Bool.not_true, Bool.false_eq_true, if_false, EStateM.run_pure,
    peekKind_run hts, if_neg hend, directives_run hts hdirective, hbegins, Bool.not_false,
    Bool.and_true, if_true, hnode, peekKind_run (extend_tokens _ _ es), reduceCtorEq]

/-- The line that begins a document is not seen in it. -/
theorem document_marked {mstart : Mark} {ts : List Token}
    (hr : r.tokens = ⟨.documentStart, mstart⟩ :: ts)
    (h : Splits ts (nodeTokens false v) [⟨.streamEnd, m⟩]) (hn : (nodeTokens false v).length ≤ n) :
    ∃ es, es.map Prod.fst = nodeEvents v ∧ (document n true).run r =
      .ok true (extend { r with handles := defaultHandles } [⟨.streamEnd, m⟩] es) := by
  obtain ⟨n, rfl⟩ := exists_fuel (k := 0) hn
  obtain ⟨kind, rest, hfirst, -, hkind, -⟩ := exists_first v false
  obtain ⟨mfirst, ts', hts, -⟩ := (hfirst ▸ h).cons
  obtain ⟨es, hes, hnode⟩ := node_top (r := extend { r with handles := defaultHandles } ts []) h hn
  have hskip := skip_run (r := { r with handles := defaultHandles }) hr
  refine ⟨es, hes, ?_⟩
  simp only [document, EStateM.run_bind, Bool.not_true, Bool.false_eq_true, if_false, EStateM.run_pure,
    peekKind_run hr, directives_run hr (by simp), beginsDocument, Bool.and_false, reduceCtorEq,
    peekKind_run (r := { r with handles := defaultHandles }) hr, if_true, hskip,
    peekKind_run (r := extend { r with handles := defaultHandles } ts []) hts, hkind, hnode,
    extend_extend, List.nil_append, peekKind_run (extend_tokens _ _ es)]

/-- There is no document behind the last one. -/
theorem document_end (h : r.tokens = [⟨.streamEnd, m⟩]) :
    (document (n + 1) false).run r = .ok false r := by
  simp only [document, Bool.not_false, if_true, skipEnds, EStateM.run_bind, peekKind_run h,
    reduceCtorEq, if_false, EStateM.run_pure]

/-- A reader that finds one document and then the end finds only this one. -/
theorem documentsFuel_one {es : List (Event × Mark)}
    (h : (document n true).run { r with names := [], current := .empty } =
      .ok true (extend { r with names := [], current := .empty, handles := defaultHandles }
        [⟨.streamEnd, m⟩] es)) (hn : 2 ≤ n) :
    documentsFuel n n true r = [⟨es.toArray, [], none⟩] := by
  obtain ⟨n, rfl⟩ : ∃ k, n = k + 2 := ⟨n - 2, by omega⟩
  have hend : ∀ r : Reader, r.tokens = [⟨.streamEnd, m⟩] → document (n + 2) false r = .ok false r :=
    fun r hr => document_end hr
  rw [EStateM.run] at h
  rw [documentsFuel, h]
  simp only [documentsFuel]
  rw [hend _ rfl]
  simp [extend, Document.empty]

end Documents

theorem exists_streamEnd {ts : List Token} {kinds : List TokenKind}
    (h : ts.map Token.kind = kinds ++ [.streamEnd]) : ∃ m, Splits ts kinds [⟨.streamEnd, m⟩] := by
  obtain ⟨front, back, rfl, hfront, hback⟩ := List.map_eq_append_iff.mp h
  obtain ⟨t, back, rfl, hkind, hnil⟩ := List.map_eq_cons_iff.mp hback
  obtain rfl := List.map_eq_nil_iff.mp hnil
  exact ⟨t.mark, front, by rw [← hkind], hfront⟩

/-- A text whose tokens are read as one document, with which they end, is this document. -/
theorem ofText_of_document {text : String} {ts : List Token} {v : Json} {m : Mark}
    (htext : Yaml.tokens text = (ts, none))
    (hdocument : ∀ r : Reader, r.tokens = ts → ∀ n, ts.length ≤ n →
      ∃ es, es.map Prod.fst = nodeEvents v ∧ (document n true).run r =
        .ok true (extend { r with handles := defaultHandles } [⟨.streamEnd, m⟩] es)) :
    ∃ d, Document.ofText text = [d] ∧ d.Holds v := by
  obtain ⟨es, hes, hrun⟩ := hdocument
    ⟨ts, .malformed .noDocument .start none, [], [], .empty⟩ rfl (4 * ts.length + 8) (by omega)
  refine ⟨⟨es.toArray, [], none⟩, ?_, by simpa using hes, rfl, rfl⟩
  rw [Document.ofText, htext]
  exact documentsFuel_one hrun (by omega)

end Reader

/-! ## The document of a text -/

open Reader

/-- A rendered value is one document. -/
theorem ofText_render (v : Json) : ∃ d, Document.ofText (render v) = [d] ∧ d.Holds v := by
  obtain ⟨hkinds, hfault⟩ := tokens_render v
  rcases htext : tokens (render v) with ⟨ts, fault?⟩
  rw [htext] at hkinds hfault
  obtain rfl : fault? = none := hfault
  obtain ⟨m, hsplits⟩ := exists_streamEnd hkinds
  have hlength : ts.length = (nodeTokens false v).length + 1 := by
    simpa using congrArg List.length hkinds
  exact ofText_of_document htext fun r hr n hn => Reader.document_node (hr ▸ hsplits) (by omega)

/-- So it is behind the line that begins a document. -/
theorem ofText_marked (v : Json) : ∃ d, Document.ofText ("---\n" ++ render v) = [d] ∧ d.Holds v := by
  obtain ⟨hkinds, hfault⟩ := tokens_marked v
  rcases htext : tokens ("---\n" ++ render v) with ⟨ts, fault?⟩
  rw [htext] at hkinds hfault
  obtain rfl : fault? = none := hfault
  obtain ⟨⟨kind, mstart⟩, ts, rfl, rfl, hback⟩ := List.map_eq_cons_iff.mp hkinds
  obtain ⟨m, hsplits⟩ := exists_streamEnd hback
  have hlength : ts.length = (nodeTokens false v).length + 1 := by
    simpa using congrArg List.length hback
  refine ofText_of_document htext fun r hr n hn => document_marked hr hsplits ?_
  rw [List.length_cons] at hn
  omega

end BackingServices.Yaml
