import BackingServices.Proofs.Cluster.Dialogue

/-!
# Interleavings

Dialogues that are side by side need not take turns: their requests may be sent and
answered in any order, with any answers.  Only after one of them has failed nothing is
sent or answered any more.

What holds of a part alone holds of it in every interleaving, as its own moves are those
it would make alone (`Interleaving.progress`).
-/

namespace BackingServices.Cluster

open Dialogue (Application conversation)

variable {ε : Type}

/-! ## Parts -/

/-- One of some dialogues that are side by side. -/
inductive Part (ε : Type) where
  /-- It is about to send a request. -/
  | asking (request : Request) (next : Answer → Dialogue (Except ε Unit))
  /-- It is waiting for the answer to a request. -/
  | waiting (request : Request) (next : Answer → Dialogue (Except ε Unit))
  /-- It has a result. -/
  | finished (result : Except ε Unit)

/-- What a part does to the outside. -/
inductive Move where
  /-- It sends a request. -/
  | send (request : Request)
  /-- It receives the answer to a request. -/
  | receive (request : Request) (answer : Answer)

namespace Part

/-- The part that a dialogue is up to its first request. -/
def of : Dialogue (Except ε Unit) → Part ε
  | .done result => .finished result
  | .log _ d => of d
  | .ask _ request next => .asking request next

/-- The moves of a part.  It may receive any answer. -/
inductive Step : Part ε → Move → Part ε → Prop where
  | send (request : Request) (next : Answer → Dialogue (Except ε Unit)) :
      Step (.asking request next) (.send request) (.waiting request next)
  | receive (request : Request) (next : Answer → Dialogue (Except ε Unit)) (answer : Answer) :
      Step (.waiting request next) (.receive request answer) (.of (next answer))

/-- The failure of a part, if it failed. -/
def failure? : Part ε → Option ε
  | .finished (.error e) => some e
  | _ => none

/-- Whether a part is finished without a failure. -/
def succeeded : Part ε → Bool
  | .finished (.ok ()) => true
  | _ => false

/-- A part that has no result has a move. -/
theorem exists_step {p : Part ε} (hfailure : p.failure? = none) (hsuccess : p.succeeded = false) :
    ∃ m p', Step p m p' := by
  cases p with
  | asking request next => exact ⟨_, _, .send request next⟩
  | waiting request next => exact ⟨_, _, .receive request next (.broken "" [])⟩
  | finished result =>
    cases result with
    | ok _ => simp [succeeded] at hsuccess
    | error e => simp [failure?] at hfailure

end Part

/-! ## Runs side by side -/

/-- Some moves of parts side by side, each with the place of its part, and the parts that they lead to.
There are no moves behind a failure. -/
inductive Interleaving (start : List (Part ε)) : List (Nat × Move) → List (Part ε) → Prop where
  | start : Interleaving start [] start
  | move {moves : List (Nat × Move)} {parts : List (Part ε)} {i : Nat} {p p' : Part ε} {m : Move}
      (h : Interleaving start moves parts) (hgoes : ∀ q ∈ parts, q.failure? = none)
      (hpart : parts[i]? = some p) (hstep : p.Step m p') :
      Interleaving start (moves ++ [(i, m)]) (parts.set i p')

/-- What has come of parts side by side: the failure of one, or success if all succeeded. -/
def jointResult? (parts : List (Part ε)) : Option (Except ε Unit) :=
  match parts.findSome? Part.failure? with
  | some e => some (.error e)
  | none => if parts.all Part.succeeded then some (.ok ()) else none

/-- The moves of the part at a place. -/
def own (i : Nat) (moves : List (Nat × Move)) : List Move :=
  (moves.filter fun m => m.1 == i).map Prod.snd

/-- The requests that were sent. -/
def sends (moves : List Move) : List Request :=
  moves.filterMap fun
    | .send request => some request
    | .receive _ _ => none

/-- The requests that were answered. -/
def answered (moves : List Move) : List Request :=
  moves.filterMap fun
    | .send _ => none
    | .receive request _ => some request

@[simp]
theorem own_append (i : Nat) (moves moves' : List (Nat × Move)) :
    own i (moves ++ moves') = own i moves ++ own i moves' := by simp [own]

@[simp]
theorem own_nil (i : Nat) : own i [] = [] := rfl

theorem own_cons_self (i : Nat) (m : Move) (moves : List (Nat × Move)) :
    own i ((i, m) :: moves) = m :: own i moves := by simp [own]

theorem own_cons_other {i j : Nat} (h : j ≠ i) (m : Move) (moves : List (Nat × Move)) :
    own i ((j, m) :: moves) = own i moves := by simp [own, h]

theorem mem_own {i : Nat} {m : Move} {moves : List (Nat × Move)} :
    m ∈ own i moves ↔ (i, m) ∈ moves := by
  simp [own]

/-- The moves of the parts together are all moves. -/
theorem own_perm {n : Nat} {moves : List (Nat × Move)} (h : ∀ m ∈ moves, m.1 < n) :
    ((List.range n).flatMap fun i => own i moves).Perm (moves.map Prod.snd) := by
  have hfirst : ∀ k, ((List.range k).flatMap fun i => own i moves).Perm
      ((moves.filter fun m => decide (m.1 < k)).map Prod.snd) := by
    intro k
    induction k with
    | zero => simp
    | succ k ih =>
      have hsplit := List.filter_append_perm (fun m : Nat × Move => decide (m.1 < k))
        (moves.filter fun m => decide (m.1 < k + 1))
      rw [List.filter_filter, List.filter_filter] at hsplit
      have hbelow : (moves.filter fun m => decide (m.1 < k) && decide (m.1 < k + 1)) =
          moves.filter fun m => decide (m.1 < k) :=
        List.filter_congr fun m _ => by simp; omega
      have hself : (moves.filter fun m => !decide (m.1 < k) && decide (m.1 < k + 1)) =
          moves.filter fun m => m.1 == k :=
        List.filter_congr fun m _ => by
          rw [Bool.eq_iff_iff]
          simp
          omega
      rw [hbelow, hself] at hsplit
      rw [List.range_succ, List.flatMap_append]
      refine .trans (.append ih (.of_eq ?_)) (List.map_append ▸ hsplit.map Prod.snd)
      simp [own]
  refine (hfirst n).trans (.of_eq ?_)
  rw [List.filter_eq_self.mpr fun m hm => decide_eq_true (h m hm)]

/-! ## What a part has done -/

/-- What follows an answer to an application, if other applications are left. -/
def Continues (x : Application ε) (xs : List (Application ε))
    (next : Answer → Dialogue (Except ε Unit)) : Prop :=
  ∀ a, (next a).quiet =
    match x.check a with
    | .ok () => conversation xs
    | .error e => .done (.error e)

/-- The moves that a part has made of a conversation, and the part that it is then. -/
inductive Progress : List (Application ε) → List Move → Part ε → Prop where
  | finished : Progress [] [] (.finished (.ok ()))
  | asking {x : Application ε} {xs : List (Application ε)}
      {next : Answer → Dialogue (Except ε Unit)} (h : Continues x xs next) :
      Progress (x :: xs) [] (.asking x.request next)
  | waiting {x : Application ε} {xs : List (Application ε)}
      {next : Answer → Dialogue (Except ε Unit)} (h : Continues x xs next) :
      Progress (x :: xs) [.send x.request] (.waiting x.request next)
  | refused {x : Application ε} {xs : List (Application ε)} {a : Answer} {e : ApiError}
      (h : a.read x.schema = .error e) :
      Progress (x :: xs) [.send x.request, .receive x.request a] (.finished (.error (x.failure e)))
  | accepted {x : Application ε} {xs : List (Application ε)} {a : Answer} {moves : List Move}
      {p : Part ε} (ha : a.Accepts x.schema) (h : Progress xs moves p) :
      Progress (x :: xs) (.send x.request :: .receive x.request a :: moves) p

namespace Progress

variable {xs : List (Application ε)} {moves : List Move} {p : Part ε}

/-- A dialogue that holds a conversation has not made a move of it. -/
theorem of_quiet {d : Dialogue (Except ε Unit)} (h : d.quiet = conversation xs) :
    Progress xs [] (.of d) := by
  induction d with
  | done result =>
    cases xs with
    | nil =>
      obtain rfl : result = .ok () := by simpa [Dialogue.quiet, conversation] using h
      exact .finished
    | cons x xs => simp [Dialogue.quiet, conversation] at h
  | log e d ih => exact ih h
  | ask s r k _ =>
    cases xs with
    | nil => simp [Dialogue.quiet, conversation] at h
    | cons x xs =>
      simp only [Dialogue.quiet, conversation, Dialogue.ask.injEq, true_and] at h
      obtain ⟨rfl, hk⟩ := h
      exact .asking fun a => congrFun hk a

theorem of_failed {d : Dialogue (Except ε Unit)} {e : ε} (h : d.quiet = .done (.error e)) :
    Part.of d = .finished (.error e) := by
  induction d with
  | done result =>
    obtain rfl : result = .error e := by simpa [Dialogue.quiet] using h
    rfl
  | log _ d ih => exact ih h
  | ask s r k _ => simp [Dialogue.quiet] at h

/-- A move goes on with the conversation. -/
theorem step {m : Move} {p' : Part ε} (h : Progress xs moves p) (hstep : p.Step m p') :
    Progress xs (moves ++ [m]) p' := by
  induction h with
  | finished => contradiction
  | refused => contradiction
  | asking h =>
    cases hstep
    exact .waiting h
  | @waiting x xs next h =>
    cases hstep with
    | receive _ _ a =>
      have hnext := h a
      cases hread : a.read x.schema with
      | ok v =>
        have ha := Answer.accepts_iff.mpr ⟨v, hread⟩
        rw [Application.check_ok_iff.mpr ha] at hnext
        exact .accepted ha (of_quiet hnext)
      | error e =>
        rw [Application.check, hread] at hnext
        rw [of_failed hnext]
        exact .refused hread
  | accepted ha _ ih => exact .accepted ha (ih hstep)

/-- The requests are sent in their order. -/
theorem sends_sublist (h : Progress xs moves p) :
    (sends moves).Sublist (xs.map Application.request) := by
  induction h with
  | finished => exact .slnil
  | asking => exact List.nil_sublist _
  | waiting => exact .cons_cons _ (List.nil_sublist _)
  | refused => exact .cons_cons _ (List.nil_sublist _)
  | accepted _ _ ih => exact .cons_cons _ ih

/-- There are two moves for an application. -/
theorem length_le (h : Progress xs moves p) : moves.length ≤ 2 * xs.length := by
  induction h <;> simp only [List.length_cons, List.length_nil] <;> omega

/-- A part that succeeded has sent all requests, and all were answered. -/
theorem of_succeeded (h : Progress xs moves p) (hp : p.succeeded = true) :
    sends moves = xs.map Application.request ∧ answered moves = xs.map Application.request := by
  induction h with
  | finished => exact ⟨rfl, rfl⟩
  | accepted ha _ ih =>
    obtain ⟨hsends, hanswered⟩ := ih hp
    exact ⟨congrArg (_ :: ·) hsends, congrArg (_ :: ·) hanswered⟩
  | _ => contradiction

/-- A part that failed did so at the answer it received last. -/
theorem of_failure {e : ε} (h : Progress xs moves p) (hp : p.failure? = some e) :
    ∃ x ∈ xs, ∃ a reason, moves.getLast? = some (.receive x.request a) ∧
      a.read x.schema = .error reason ∧ e = x.failure reason := by
  induction h with
  | @refused x xs a reason h =>
    obtain rfl : x.failure reason = e := by simpa [Part.failure?] using hp
    exact ⟨x, List.mem_cons_self, a, reason, rfl, h, rfl⟩
  | accepted _ _ ih =>
    obtain ⟨x, hx, a, reason, hlast, hrest⟩ := ih hp
    refine ⟨x, List.mem_cons_of_mem _ hx, a, reason, ?_, hrest⟩
    simp [List.getLast?_cons, hlast]
  | _ => simp [Part.failure?] at hp

/-- An answer that a part received was accepted, or the part failed. -/
theorem of_received {request : Request} {a : Answer} (h : Progress xs moves p)
    (hmem : .receive request a ∈ moves) :
    ∃ x ∈ xs, x.request = request ∧
      (a.Accepts x.schema ∨ ∃ reason, a.read x.schema = .error reason ∧
        p.failure? = some (x.failure reason)) := by
  induction h with
  | finished => contradiction
  | asking => contradiction
  | waiting => simp at hmem
  | @refused x xs a' reason h =>
    obtain ⟨rfl, rfl⟩ : request = x.request ∧ a = a' := by simpa using hmem
    exact ⟨x, List.mem_cons_self, rfl, .inr ⟨reason, h, rfl⟩⟩
  | @accepted x xs a' moves p ha h ih =>
    rcases List.mem_cons.mp hmem with hmem | hmem
    · contradiction
    rcases List.mem_cons.mp hmem with hmem | hmem
    · obtain ⟨rfl, rfl⟩ : request = x.request ∧ a = a' := by simpa using hmem
      exact ⟨x, List.mem_cons_self, rfl, .inl ha⟩
    · obtain ⟨y, hy, hrest⟩ := ih hmem
      exact ⟨y, List.mem_cons_of_mem _ hy, hrest⟩

/-- A request is sent only after all before it were accepted. -/
theorem of_sent {before after : List Move} {request : Request} (h : Progress xs moves p)
    (hmoves : moves = before ++ .send request :: after) :
    ∃ done x left, xs = done ++ x :: left ∧ x.request = request ∧
      ∀ y ∈ done, ∃ a, .receive y.request a ∈ before ∧ a.Accepts y.schema := by
  induction h generalizing before with
  | finished => simp at hmoves
  | asking => simp at hmoves
  | @waiting x xs next h =>
    cases before with
    | nil =>
      obtain ⟨rfl, -⟩ : x.request = request ∧ _ := by simpa using hmoves
      exact ⟨[], x, xs, rfl, rfl, by simp⟩
    | cons m before => simp at hmoves
  | @refused x xs a reason h =>
    rcases before with _ | ⟨m, _ | ⟨m', before⟩⟩
    · obtain ⟨rfl, -⟩ : x.request = request ∧ _ := by simpa using hmoves
      exact ⟨[], x, xs, rfl, rfl, by simp⟩
    · simp at hmoves
    · simp at hmoves
  | @accepted x xs a moves p ha h ih =>
    rcases before with _ | ⟨m, _ | ⟨m', before⟩⟩
    · obtain ⟨rfl, -⟩ : x.request = request ∧ _ := by simpa using hmoves
      exact ⟨[], x, xs, rfl, rfl, by simp⟩
    · simp at hmoves
    · simp only [List.cons_append, List.cons.injEq] at hmoves
      obtain ⟨rfl, rfl, hmoves⟩ := hmoves
      obtain ⟨done, y, left, rfl, hrequest, hdone⟩ := ih hmoves
      refine ⟨x :: done, y, left, rfl, hrequest, fun z hz => ?_⟩
      rcases List.mem_cons.mp hz with rfl | hz
      · exact ⟨a, by simp, ha⟩
      · obtain ⟨b, hb, hbaccepts⟩ := hdone z hz
        exact ⟨b, by simp [hb], hbaccepts⟩

end Progress

/-! ## What comes of the parts -/

/-- A part that succeeded has no failure. -/
theorem Part.failure?_of_succeeded {p : Part ε} (h : p.succeeded = true) : p.failure? = none := by
  cases p with
  | finished result =>
    cases result with
    | ok _ => rfl
    | error e => simp [succeeded] at h
  | _ => rfl

theorem jointResult?_ok_iff {parts : List (Part ε)} :
    jointResult? parts = some (.ok ()) ↔ ∀ p ∈ parts, p.succeeded = true := by
  rw [jointResult?]
  cases hfailure : parts.findSome? Part.failure? with
  | some e =>
    obtain ⟨p, hp, he⟩ := List.exists_of_findSome?_eq_some hfailure
    refine ⟨fun h => by simp at h, fun h => ?_⟩
    rw [Part.failure?_of_succeeded (h p hp)] at he
    contradiction
  | none => simp [List.all_eq_true]

theorem jointResult?_error {parts : List (Part ε)} {e : ε}
    (h : jointResult? parts = some (.error e)) : ∃ p ∈ parts, p.failure? = some e := by
  rw [jointResult?] at h
  cases hfailure : parts.findSome? Part.failure? with
  | some e' =>
    obtain rfl : e' = e := by simpa [hfailure] using h
    exact List.exists_of_findSome?_eq_some hfailure
  | none =>
    rw [hfailure] at h
    split at h
    · contradiction
    · split at h
      · simp at h
      · contradiction

/-- As long as nothing has come of the parts, one of them has a move. -/
theorem Interleaving.exists_move {start parts : List (Part ε)} {moves : List (Nat × Move)}
    (h : Interleaving start moves parts) (hnone : jointResult? parts = none) :
    ∃ m parts', Interleaving start (moves ++ [m]) parts' := by
  rw [jointResult?] at hnone
  cases hfailure : parts.findSome? Part.failure? with
  | some e => simp [hfailure] at hnone
  | none =>
    have hgoes := List.findSome?_eq_none_iff.mp hfailure
    obtain ⟨p, hp, hsuccess⟩ : ∃ p ∈ parts, p.succeeded = false := by
      simpa [hfailure, List.all_eq_true] using hnone
    obtain ⟨i, hi⟩ := List.mem_iff_getElem?.mp hp
    obtain ⟨m, p', hstep⟩ := Part.exists_step (hgoes p hp) hsuccess
    exact ⟨(i, m), _, h.move hgoes hi hstep⟩

namespace Interleaving

variable {ds : List (Dialogue (Except ε Unit))} {xss : List (List (Application ε))}
  {moves : List (Nat × Move)} {parts : List (Part ε)}

/-- Every part has made its own moves of its own conversation. -/
theorem progress (hhold : Dialogue.Hold ds xss) (h : Interleaving (ds.map .of) moves parts) :
    parts.length = xss.length ∧ ∀ i xs, xss[i]? = some xs →
      ∃ p, parts[i]? = some p ∧ Progress xs (own i moves) p := by
  induction h with
  | start =>
    induction hhold with
    | nil => exact ⟨rfl, by simp⟩
    | @cons d ds xs xss hd _ ih =>
      obtain ⟨hlength, hparts⟩ := ih
      refine ⟨congrArg (· + 1) hlength, fun i ys hi => ?_⟩
      cases i with
      | zero =>
        obtain rfl : xs = ys := by simpa using hi
        exact ⟨.of d, rfl, .of_quiet hd⟩
      | succ i => exact hparts i ys hi
  | @move moves parts j p p' m _ _ hpart hstep ih =>
    obtain ⟨hlength, hparts⟩ := ih
    refine ⟨(List.length_set ..).trans hlength, fun i xs hi => ?_⟩
    obtain ⟨q, hq, hprogress⟩ := hparts i xs hi
    rw [own_append]
    by_cases hij : j = i
    · subst hij
      obtain rfl : q = p := Option.some.inj (hq.symm.trans hpart)
      refine ⟨p', by simp [(List.getElem?_eq_some_iff.mp hpart).1], ?_⟩
      rw [own_cons_self]
      exact hprogress.step hstep
    · refine ⟨q, by rw [List.getElem?_set_ne hij, hq], ?_⟩
      rw [own_cons_other hij]
      simpa [own] using hprogress

/-- So has the part at a place. -/
theorem progress_at (hhold : Dialogue.Hold ds xss) (h : Interleaving (ds.map .of) moves parts)
    {i : Nat} {p : Part ε} (hp : parts[i]? = some p) :
    ∃ xs, xss[i]? = some xs ∧ Progress xs (own i moves) p := by
  obtain ⟨hlength, hparts⟩ := progress hhold h
  have hi : i < xss.length := hlength ▸ (List.getElem?_eq_some_iff.mp hp).1
  obtain ⟨q, hq, hprogress⟩ := hparts i _ (List.getElem?_eq_getElem hi)
  obtain rfl : p = q := Option.some.inj (hp.symm.trans hq)
  exact ⟨_, List.getElem?_eq_getElem hi, hprogress⟩

/-- Moves are made by the parts. -/
theorem lt_of_mem (hhold : Dialogue.Hold ds xss) (h : Interleaving (ds.map .of) moves parts) :
    ∀ m ∈ moves, m.1 < xss.length := by
  induction h with
  | start => simp
  | move h _ hpart _ ih =>
    intro m hm
    rcases List.mem_append.mp hm with hm | hm
    · exact ih m hm
    · rw [List.mem_singleton.mp hm, ← (progress hhold h).1]
      exact (List.getElem?_eq_some_iff.mp hpart).1

/-- What relates the own moves of the parts to their conversations relates all of them. -/
theorem own_rel {β γ : Type} {R : List β → List γ → Prop} (hnil : R [] [])
    (happend : ∀ {as bs cs ds}, R as bs → R cs ds → R (as ++ cs) (bs ++ ds)) {f : Nat → List β}
    {g : List (Application ε) → List γ} (h : ∀ i xs, xss[i]? = some xs → R (f i) (g xs)) :
    R ((List.range xss.length).flatMap f) (xss.flatMap g) := by
  induction xss generalizing f with
  | nil => exact hnil
  | cons xs xss ih =>
    rw [List.length_cons, List.range_succ_eq_map, List.flatMap_cons, List.flatMap_map,
      List.flatMap_cons]
    exact happend (h 0 xs rfl) (ih fun i ys hi => h (i + 1) ys hi)

/-- There are two moves at most for an application. -/
theorem length_le (hhold : Dialogue.Hold ds xss) (h : Interleaving (ds.map .of) moves parts) :
    moves.length ≤ 2 * xss.flatten.length := by
  have hown : ((List.range xss.length).flatMap fun i => own i moves).length ≤
      2 * (xss.flatMap id).length := by
    refine own_rel (R := fun ms xs => ms.length ≤ 2 * xs.length) (Nat.le_refl 0) ?_ fun i xs hi => ?_
    · intro as bs cs ds hleft hright
      simp only [List.length_append]
      omega
    · obtain ⟨p, -, hprogress⟩ := (progress hhold h).2 i xs hi
      exact hprogress.length_le
  rwa [(own_perm (lt_of_mem hhold h)).length_eq, List.length_map, List.flatMap_id] at hown

/-- Every request is sent once at most. -/
theorem sends_perm (hhold : Dialogue.Hold ds xss) (h : Interleaving (ds.map .of) moves parts) :
    ∃ requests, (sends (moves.map Prod.snd)).Perm requests ∧
      requests.Sublist (xss.flatten.map Application.request) := by
  refine ⟨_, ((own_perm (lt_of_mem hhold h)).filterMap _).symm, ?_⟩
  rw [List.filterMap_flatMap, List.map_flatten, ← List.flatMap_def]
  refine own_rel .slnil .append fun i xs hi => ?_
  obtain ⟨p, -, hprogress⟩ := (progress hhold h).2 i xs hi
  exact hprogress.sends_sublist

/-- If all parts succeeded, all requests were sent and answered. -/
theorem perm_of_ok (hhold : Dialogue.Hold ds xss) (h : Interleaving (ds.map .of) moves parts)
    (hok : jointResult? parts = some (.ok ())) :
    (sends (moves.map Prod.snd)).Perm (xss.flatten.map Application.request) ∧
      (answered (moves.map Prod.snd)).Perm (xss.flatten.map Application.request) := by
  have hparts : ∀ i xs, xss[i]? = some xs → sends (own i moves) = xs.map Application.request ∧
      answered (own i moves) = xs.map Application.request := by
    intro i xs hi
    obtain ⟨p, hp, hprogress⟩ := (progress hhold h).2 i xs hi
    exact hprogress.of_succeeded (jointResult?_ok_iff.mp hok p (List.mem_of_getElem? hp))
  have happend : ∀ {as bs cs ds : List Request}, as = bs → cs = ds → as ++ cs = bs ++ ds :=
    fun hleft hright => by rw [hleft, hright]
  constructor
  · refine ((own_perm (lt_of_mem hhold h)).filterMap _).symm.trans (.of_eq ?_)
    rw [List.filterMap_flatMap, List.map_flatten, ← List.flatMap_def]
    exact own_rel rfl happend fun i xs hi => (hparts i xs hi).1
  · refine ((own_perm (lt_of_mem hhold h)).filterMap _).symm.trans (.of_eq ?_)
    rw [List.filterMap_flatMap, List.map_flatten, ← List.flatMap_def]
    exact own_rel rfl happend fun i xs hi => (hparts i xs hi).2

/-- The part that failed made the last move. -/
theorem last_of_failure (hhold : Dialogue.Hold ds xss) (h : Interleaving (ds.map .of) moves parts)
    {i : Nat} {p : Part ε} {e : ε} (hp : parts[i]? = some p) (he : p.failure? = some e) :
    ∃ before m, moves = before ++ [(i, m)] := by
  cases h with
  | start =>
    obtain ⟨xs, -, hprogress⟩ := progress_at hhold .start hp
    obtain ⟨x, -, a, reason, hlast, -⟩ := hprogress.of_failure he
    simp at hlast
  | @move moves parts j q q' m _ hgoes hpart hstep =>
    by_cases hij : j = i
    · exact ⟨moves, m, by rw [hij]⟩
    · rw [List.getElem?_set_ne hij] at hp
      rw [hgoes p (List.mem_of_getElem? hp)] at he
      contradiction

/-- The failure of a part is what comes of all. -/
theorem jointResult?_of_failure (hhold : Dialogue.Hold ds xss)
    (h : Interleaving (ds.map .of) moves parts) {i : Nat} {p : Part ε} {e : ε}
    (hp : parts[i]? = some p) (he : p.failure? = some e) :
    jointResult? parts = some (.error e) := by
  cases hjoint : jointResult? parts with
  | none =>
    rw [jointResult?] at hjoint
    cases hfailure : parts.findSome? Part.failure? with
    | some e' => simp [hfailure] at hjoint
    | none =>
      rw [List.findSome?_eq_none_iff.mp hfailure p (List.mem_of_getElem? hp)] at he
      contradiction
  | some result =>
    cases result with
    | ok _ =>
      have hsuccess := jointResult?_ok_iff.mp hjoint p (List.mem_of_getElem? hp)
      rw [Part.failure?_of_succeeded hsuccess] at he
      contradiction
    | error e' =>
      obtain ⟨q, hq, he'⟩ := jointResult?_error hjoint
      obtain ⟨j, hj⟩ := List.mem_iff_getElem?.mp hq
      obtain ⟨before, m, hmoves⟩ := last_of_failure hhold h hp he
      obtain ⟨before', m', hmoves'⟩ := last_of_failure hhold h hj he'
      obtain ⟨rfl, -⟩ : i = j ∧ m = m' := by
        have hlast := (List.append_inj' (hmoves.symm.trans hmoves') rfl).2
        simpa using hlast
      obtain rfl : p = q := Option.some.inj (hp.symm.trans hj)
      obtain rfl : e' = e := Option.some.inj (he'.symm.trans he)
      rfl

/-- A failure is the answer that was received last: the application it answers was not accepted. -/
theorem of_error (hhold : Dialogue.Hold ds xss) (h : Interleaving (ds.map .of) moves parts) {e : ε}
    (herror : jointResult? parts = some (.error e)) :
    ∃ before i xs x a reason, moves = before ++ [(i, .receive x.request a)] ∧ xss[i]? = some xs ∧
      x ∈ xs ∧ a.read x.schema = .error reason ∧ e = x.failure reason := by
  obtain ⟨p, hp, he⟩ := jointResult?_error herror
  obtain ⟨i, hi⟩ := List.mem_iff_getElem?.mp hp
  obtain ⟨before, m, rfl⟩ := last_of_failure hhold h hi he
  obtain ⟨xs, hxs, hprogress⟩ := progress_at hhold h hi
  obtain ⟨x, hx, a, reason, hlast, hread, rfl⟩ := hprogress.of_failure he
  obtain rfl : m = .receive x.request a := by simpa [own_cons_self] using hlast
  exact ⟨before, i, xs, x, a, reason, rfl, hxs, hx, hread, rfl⟩

/-- An answer that was received was accepted, or its failure is what comes of all. -/
theorem of_received (hhold : Dialogue.Hold ds xss) (h : Interleaving (ds.map .of) moves parts)
    {i : Nat} {request : Request} {a : Answer} (hmem : (i, .receive request a) ∈ moves) :
    ∃ xs x, xss[i]? = some xs ∧ x ∈ xs ∧ x.request = request ∧
      (a.Accepts x.schema ∨ ∃ reason, a.read x.schema = .error reason ∧
        jointResult? parts = some (.error (x.failure reason))) := by
  have hxs := List.getElem?_eq_getElem (lt_of_mem hhold h _ hmem)
  obtain ⟨p, hp, hprogress⟩ := (progress hhold h).2 i _ hxs
  obtain ⟨x, hx, hrequest, haccepts⟩ := hprogress.of_received (mem_own.mpr hmem)
  refine ⟨_, x, hxs, hx, hrequest, haccepts.imp id ?_⟩
  intro ⟨reason, hread, he⟩
  exact ⟨reason, hread, jointResult?_of_failure hhold h hp he⟩

/-- If all parts succeeded, every answer was accepted. -/
theorem accepts_of_ok (hhold : Dialogue.Hold ds xss) (h : Interleaving (ds.map .of) moves parts)
    (hok : jointResult? parts = some (.ok ())) {i : Nat} {request : Request} {a : Answer}
    (hmem : (i, .receive request a) ∈ moves) :
    ∃ x ∈ xss.flatten, x.request = request ∧ a.Accepts x.schema := by
  obtain ⟨xs, x, hi, hx, hrequest, haccepts | ⟨reason, -, herror⟩⟩ := h.of_received hhold hmem
  · exact ⟨x, List.mem_flatten.mpr ⟨xs, List.mem_of_getElem? hi, hx⟩, hrequest, haccepts⟩
  · simp [hok] at herror

/-- A part sends a request only after it has received accepting answers to all those before. -/
theorem of_sent (hhold : Dialogue.Hold ds xss) (h : Interleaving (ds.map .of) moves parts) {i : Nat}
    {request : Request} {before after : List (Nat × Move)}
    (hmoves : moves = before ++ (i, .send request) :: after) :
    ∃ xs done x left, xss[i]? = some xs ∧ xs = done ++ x :: left ∧ x.request = request ∧
      ∀ y ∈ done, ∃ a, (i, .receive y.request a) ∈ before ∧ a.Accepts y.schema := by
  subst hmoves
  have hxs := List.getElem?_eq_getElem (lt_of_mem hhold h (i, .send request) (by simp))
  obtain ⟨p, hp, hprogress⟩ := (progress hhold h).2 i _ hxs
  rw [own_append, own_cons_self] at hprogress
  obtain ⟨done, x, left, hsplit, hrequest, hdone⟩ := hprogress.of_sent rfl
  refine ⟨_, done, x, left, hxs, hsplit, hrequest, fun y hy => ?_⟩
  obtain ⟨a, ha, haccepts⟩ := hdone y hy
  exact ⟨a, mem_own.mp ha, haccepts⟩

end Interleaving

end BackingServices.Cluster
