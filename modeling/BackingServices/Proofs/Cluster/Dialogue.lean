import BackingServices.Cluster.Call

/-!
# What dialogues ask

The result of a dialogue and its requests do not depend on what it logs.
`Dialogue.quiet` leaves that out.

The dialogues of this library are *conversations*: requests in a fixed order, of which
each one is sent only if the answer to the one before was accepted.  Conversations that
take turns are again one conversation, in the order of the rounds (`rounds_run`).
-/

namespace BackingServices.Cluster

/-! ## Answers that are accepted -/

/-- An answer is accepted under a schema: the connection held, the status is not that of a failure, and
the body is a text that reads as a document of the schema. -/
def Answer.Accepts (schema : Schema) : Answer → Prop
  | .broken _ _ => False
  | .response status body =>
    ¬ (400 ≤ status ∧ status ≤ 599) ∧
      ∃ text v, Text.decode? body = .ok text ∧ schema.readText documentDepth text = .ok v

theorem Answer.accepts_iff {schema : Schema} {a : Answer} :
    a.Accepts schema ↔ ∃ v, a.read schema = .ok v := by
  cases a with
  | broken reason deeper => simp [Accepts, read]
  | response status body =>
    simp only [Accepts, read, isFailure]
    cases hbody : Text.decode? body with
    | error fault => simp
    | ok text =>
      cases hread : schema.readText documentDepth text with
      | error e => by_cases h : 400 ≤ status ∧ status ≤ 599 <;> simp [h, hread]
      | ok v => by_cases h : 400 ≤ status ∧ status ≤ 599 <;> simp [h, hread]

namespace Dialogue

variable {α β ε : Type}

/-! ## Dialogues without their events -/

/-- A dialogue without its events and spans. -/
def quiet : Dialogue α → Dialogue α
  | .done a => .done a
  | .log _ d => d.quiet
  | .ask _ r k => .ask [] r fun a => (k a).quiet

theorem quiet_bind (d : Dialogue α) (f : α → Dialogue β) :
    (d.bind f).quiet = d.quiet.bind fun a => (f a).quiet := by
  induction d with
  | done a => rfl
  | log e d ih => exact ih
  | ask s r k ih => simp only [bind, quiet, ih]

theorem quiet_within (span : Span) (d : Dialogue α) : (d.within span).quiet = d.quiet := by
  induction d with
  | done a => rfl
  | log e d ih => exact ih
  | ask s r k ih => simp only [within, quiet, ih]

theorem quiet_andThen (d : Dialogue (Except ε α)) (f : α → Dialogue (Except ε β)) :
    (d.andThen f).quiet = d.quiet.andThen fun a => (f a).quiet := by
  rw [andThen, andThen, quiet_bind]
  congr
  funext r
  cases r <;> rfl

theorem quiet_mapError {ε' : Type} (f : ε → ε') (d : Dialogue (Except ε α)) :
    (d.mapError f).quiet = d.quiet.mapError f := quiet_bind d _

/-- Without its events a dialogue has the same result and the same requests. -/
theorem run_quiet (server : Server) (history : List Request) (d : Dialogue α) :
    (d.quiet.run server history).result = (d.run server history).result ∧
      (d.quiet.run server history).requests = (d.run server history).requests := by
  induction d generalizing history with
  | done a => exact ⟨rfl, rfl⟩
  | log e d ih => exact ih history
  | ask s r k ih =>
    obtain ⟨hresult, hrequests⟩ := ih (server history r) (history ++ [r])
    exact ⟨hresult, congrArg (r :: ·) hrequests⟩

/-- What is bound runs behind the requests before. -/
theorem run_bind (server : Server) (history : List Request) (d : Dialogue α) (f : α → Dialogue β) :
    let r := d.run server history
    let r' := (f r.result).run server (history ++ r.requests)
    ((d.bind f).run server history).result = r'.result ∧
      ((d.bind f).run server history).requests = r.requests ++ r'.requests := by
  induction d generalizing history with
  | done a => simp [bind, run]
  | log e d ih => exact ih history
  | ask s r k ih =>
    obtain ⟨hresult, hrequests⟩ := ih (server history r) (history ++ [r])
    simp only [bind, run, List.append_assoc, List.singleton_append] at hresult hrequests ⊢
    exact ⟨hresult, by rw [hrequests, List.cons_append]⟩

/-- What a dialogue asks in a span it asks without it. -/
theorem run_within (server : Server) (history : List Request) (span : Span) (d : Dialogue α) :
    ((d.within span).run server history).result = (d.run server history).result ∧
      ((d.within span).run server history).requests = (d.run server history).requests := by
  obtain ⟨hresult, hrequests⟩ := run_quiet server history (d.within span)
  obtain ⟨hresult', hrequests'⟩ := run_quiet server history d
  rw [quiet_within] at hresult hrequests
  exact ⟨hresult.symm.trans hresult', hrequests.symm.trans hrequests'⟩

/-- What follows a result, unless it is a failure. -/
def orFail (f : α → Dialogue (Except ε β)) : Except ε α → Dialogue (Except ε β)
  | .ok a => f a
  | .error e => .done (.error e)

theorem andThen_eq (d : Dialogue (Except ε α)) (f : α → Dialogue (Except ε β)) :
    d.andThen f = d.bind (orFail f) := by
  rw [andThen]
  congr

/-- What one dialogue and then another ask, one of them asks. -/
theorem mem_requests_andThen {server : Server} {history : List Request} {d : Dialogue (Except ε α)}
    {f : α → Dialogue (Except ε β)} {request : Request}
    (h : request ∈ ((d.andThen f).run server history).requests) :
    request ∈ (d.run server history).requests ∨
      ∃ a later, request ∈ ((f a).run server later).requests := by
  rw [andThen_eq, (run_bind server history d (orFail f)).2] at h
  rcases List.mem_append.mp h with h | h
  · exact .inl h
  · cases hresult : (d.run server history).result with
    | ok a =>
      rw [hresult] at h
      exact .inr ⟨a, _, h⟩
    | error e =>
      rw [hresult] at h
      contradiction

theorem mem_requests_mapError {ε' : Type} {server : Server} {history : List Request}
    {d : Dialogue (Except ε α)} {f : ε → ε'} {request : Request}
    (h : request ∈ ((d.mapError f).run server history).requests) :
    request ∈ (d.run server history).requests := by
  obtain ⟨-, hrequests⟩ := run_bind server history d fun r => .done (r.mapError f)
  have h : request ∈ _ := hrequests ▸ h
  simpa [run] using h

/-- Applying an object asks for nothing else. -/
theorem mem_requests_apply {server : Server} {history : List Request} {schema : Schema}
    {collection name : String} {object : Json} {request : Request}
    (h : request ∈ ((apply schema collection name object).run server history).requests) :
    applyRequest collection name object = .ok request := by
  rw [apply] at h
  cases hrequest : applyRequest collection name object with
  | error e =>
    rw [hrequest] at h
    contradiction
  | ok r =>
    rw [hrequest] at h
    obtain rfl : request = r := by simpa [call, send, bind, run] using h
    rfl

section AndThen

variable {server : Server} {history : List Request} {d : Dialogue (Except ε α)}
  (f : α → Dialogue (Except ε β))

theorem run_andThen_ok {a : α} {requests : List Request} (h : (d.run server history).result = .ok a)
    (hrequests : (d.run server history).requests = requests) :
    ((d.andThen f).run server history).result = ((f a).run server (history ++ requests)).result ∧
      ((d.andThen f).run server history).requests =
        requests ++ ((f a).run server (history ++ requests)).requests := by
  obtain ⟨hresult, hall⟩ := run_bind server history d (orFail f)
  rw [h, hrequests] at hresult hall
  rw [andThen_eq]
  exact ⟨hresult, hall⟩

theorem run_andThen_error {e : ε} {requests : List Request}
    (h : (d.run server history).result = .error e)
    (hrequests : (d.run server history).requests = requests) :
    ((d.andThen f).run server history).result = .error e ∧
      ((d.andThen f).run server history).requests = requests := by
  obtain ⟨hresult, hall⟩ := run_bind server history d (orFail f)
  rw [h, hrequests] at hresult hall
  rw [andThen_eq]
  exact ⟨hresult, hall.trans (List.append_nil requests)⟩

end AndThen

/-! ## Conversations -/

/-- An object that is applied: the request, what its answer must read as, and what it means if the
answer does not. -/
structure Application (ε : Type) where
  /-- The request. -/
  request : Request
  /-- What the answer reads as. -/
  schema : Schema
  /-- The failure, given why the answer is not accepted. -/
  failure : ApiError → ε

/-- What an answer makes of an application. -/
def Application.check (x : Application ε) (a : Answer) : Except ε Unit :=
  match a.read x.schema with
  | .ok _ => .ok ()
  | .error e => .error (x.failure e)

theorem Application.check_ok_iff {x : Application ε} {a : Answer} :
    x.check a = .ok () ↔ a.Accepts x.schema := by
  rw [Answer.accepts_iff, check]
  cases a.read x.schema <;> simp

/-- Applies one object after the other, up to the first that is not accepted. -/
def conversation : List (Application ε) → Dialogue (Except ε Unit)
  | [] => .done (.ok ())
  | x :: xs => .ask [] x.request fun a =>
    match x.check a with
    | .ok () => conversation xs
    | .error e => .done (.error e)

theorem conversation_append (xs ys : List (Application ε)) :
    conversation (xs ++ ys) = (conversation xs).andThen fun () => conversation ys := by
  induction xs with
  | nil => rfl
  | cons x xs ih =>
    simp only [List.cons_append, conversation, andThen, bind]
    congr
    funext a
    cases x.check a with
    | ok _ => exact ih
    | error e => rfl

/-- A server that was asked some requests before accepts each of some applications in turn. -/
def Accepted (server : Server) : List Request → List (Application ε) → Prop
  | _, [] => True
  | history, x :: xs =>
    (server history x.request).Accepts x.schema ∧ Accepted server (history ++ [x.request]) xs

/-- A conversation ends well if all applications are accepted.  Else it ends with the failure of the
first that is not, and no other is sent. -/
theorem conversation_run (server : Server) (history : List Request) (xs : List (Application ε)) :
    let run := (conversation xs).run server history
    run.result = .ok () ∧ Accepted server history xs ∧ run.requests = xs.map Application.request ∨
      ∃ before x after e, xs = before ++ x :: after ∧ run.result = .error (x.failure e) ∧
        Accepted server history before ∧
          (server (history ++ before.map Application.request) x.request).read x.schema = .error e ∧
            run.requests = before.map Application.request ++ [x.request] := by
  induction xs generalizing history with
  | nil => exact .inl ⟨rfl, trivial, rfl⟩
  | cons x xs ih =>
    simp only [conversation, run]
    cases hread : (server history x.request).read x.schema with
    | error e =>
      have hcheck : x.check (server history x.request) = .error (x.failure e) := by
        rw [Application.check, hread]
      rw [hcheck]
      exact .inr ⟨[], x, xs, e, rfl, rfl, trivial, by simpa using hread, rfl⟩
    | ok v =>
      have haccepts := Answer.accepts_iff.mpr ⟨v, hread⟩
      rw [Application.check_ok_iff.mpr haccepts]
      rcases ih (history ++ [x.request]) with
        ⟨hresult, hall, hrequests⟩ | ⟨before, y, after, e, rfl, hresult, hall, hy, hrequests⟩
      · exact .inl ⟨hresult, ⟨haccepts, hall⟩, congrArg (x.request :: ·) hrequests⟩
      · refine .inr ⟨x :: before, y, after, e, rfl, hresult, ⟨haccepts, hall⟩, ?_,
          congrArg (x.request :: ·) hrequests⟩
        simpa using hy

/-- Applying an object is a conversation about it. -/
theorem quiet_apply {schema : Schema} {collection name : String} {object : Json} {request : Request}
    (h : applyRequest collection name object = .ok request) (f : ApiError → ε)
    (k : Json → Dialogue (Except ε Unit)) (xs : List (Application ε))
    (hk : ∀ v, (k v).quiet = conversation xs) :
    (((apply schema collection name object).mapError f).andThen k).quiet =
      conversation (⟨request, schema, f⟩ :: xs) := by
  rw [quiet_andThen, quiet_mapError, apply, h]
  simp only [call, send, bind, quiet, mapError, andThen, conversation, Application.check]
  congr
  funext a
  cases a.read schema with
  | ok v => exact hk v
  | error e => rfl

/-! ## Taking turns -/

/-- Dialogues that hold conversations, each its own. -/
inductive Hold : List (Dialogue (Except ε Unit)) → List (List (Application ε)) → Prop where
  | nil : Hold [] []
  | cons {d : Dialogue (Except ε Unit)} {ds : List (Dialogue (Except ε Unit))}
      {xs : List (Application ε)} {xss : List (List (Application ε))} (hd : d.quiet = conversation xs)
      (hds : Hold ds xss) : Hold (d :: ds) (xs :: xss)

/-- What is left of a conversation holds what is left of the applications, if any are. -/
inductive Leaves : Option (Dialogue (Except ε Unit)) → List (Application ε) → Prop where
  | none : Leaves none []
  | some {d : Dialogue (Except ε Unit)} {x : Application ε} {xs : List (Application ε)}
      (hd : d.quiet = conversation (x :: xs)) : Leaves (some d) (x :: xs)

/-- Up to the next request nothing is asked. -/
theorem settle_run {d : Dialogue (Except ε Unit)} {xs : List (Application ε)}
    (h : d.quiet = conversation xs) (server : Server) (history : List Request) :
    ∃ left?, (d.settle.run server history).result = .ok left? ∧
      (d.settle.run server history).requests = [] ∧ Leaves left? xs := by
  induction d with
  | done r =>
    cases xs with
    | nil =>
      obtain rfl : r = .ok () := by simpa [quiet, conversation] using h
      exact ⟨none, rfl, rfl, .none⟩
    | cons x xs => simp [quiet, conversation] at h
  | log e d ih => exact ih h
  | ask s r k _ =>
    cases xs with
    | nil => simp [quiet, conversation] at h
    | cons x xs => exact ⟨some (.ask s r k), rfl, rfl, .some h⟩

theorem settle_failed {d : Dialogue (Except ε Unit)} {e : ε} (h : d.quiet = .done (.error e))
    (server : Server) (history : List Request) :
    (d.settle.run server history).result = .error e ∧ (d.settle.run server history).requests = [] := by
  induction d with
  | done r =>
    obtain rfl : r = .error e := by simpa [quiet] using h
    exact ⟨rfl, rfl⟩
  | log _ d ih => exact ih h
  | ask s r k _ => simp [quiet] at h

/-- The turn of a dialogue that is finished asks nothing. -/
theorem turn_finished {d : Dialogue (Except ε Unit)} (h : d.quiet = .done (.ok ()))
    (server : Server) (history : List Request) :
    (d.turn.run server history).result = .ok none ∧ (d.turn.run server history).requests = [] := by
  induction d with
  | done r =>
    obtain rfl : r = .ok () := by simpa [quiet] using h
    exact ⟨rfl, rfl⟩
  | log _ d ih => exact ih h
  | ask s r k _ => simp [quiet] at h

/-- A turn is one application, and leaves the others. -/
theorem turn_run {d : Dialogue (Except ε Unit)} {x : Application ε} {xs : List (Application ε)}
    (h : d.quiet = conversation (x :: xs)) (server : Server) (history : List Request) :
    (d.turn.run server history).requests = [x.request] ∧
      match x.check (server history x.request) with
      | .ok () => ∃ left?, (d.turn.run server history).result = .ok left? ∧ Leaves left? xs
      | .error e => (d.turn.run server history).result = .error e := by
  induction d with
  | done r => simp [quiet, conversation] at h
  | log e d ih => exact ih h
  | ask s r k _ =>
    simp only [quiet, conversation, ask.injEq, true_and] at h
    obtain ⟨rfl, hk⟩ := h
    have hnext := congrFun hk (server history x.request)
    simp only [turn, run]
    cases hcheck : x.check (server history x.request) with
    | ok _ =>
      rw [hcheck] at hnext
      obtain ⟨left?, hresult, hrequests, hleaves⟩ := settle_run hnext server (history ++ [x.request])
      exact ⟨by rw [hrequests], left?, hresult, hleaves⟩
    | error e =>
      rw [hcheck] at hnext
      obtain ⟨hresult, hrequests⟩ := settle_failed hnext server (history ++ [x.request])
      exact ⟨by rw [hrequests], hresult⟩

/-- The first applications of some conversations. -/
def heads (xss : List (List (Application ε))) : List (Application ε) := xss.filterMap List.head?

/-- What is left of some conversations behind their first applications. -/
def tails (xss : List (List (Application ε))) : List (List (Application ε)) :=
  (xss.map List.tail).filter fun xs => !xs.isEmpty

theorem Hold.of_leaves {left? : Option (Dialogue (Except ε Unit))} {xs : List (Application ε)}
    {ds : List (Dialogue (Except ε Unit))} {xss : List (List (Application ε))} (h : Leaves left? xs)
    (hds : Hold ds xss) :
    Hold (left?.toList ++ ds) (if xs.isEmpty then xss else xs :: xss) := by
  cases h with
  | none => exact hds
  | some hd => exact .cons hd hds

/-- What comes of a conversation in a round: some dialogues are left that hold others, or it fails. -/
def Outcome (result : Except ε (List (Dialogue (Except ε Unit)))) (xss : List (List (Application ε))) :
    Except ε Unit → Prop
  | .ok () => ∃ left, result = .ok left ∧ Hold left xss
  | .error e => result = .error e

/-- What is left of one dialogue, and behind it what a round leaves of the others. -/
def roundBehind (ds : List (Dialogue (Except ε Unit))) (left? : Option (Dialogue (Except ε Unit))) :
    Dialogue (Except ε (List (Dialogue (Except ε Unit)))) :=
  (round ds).andThen fun left => .done (.ok (left?.toList ++ left))

theorem roundBehind_run {ds : List (Dialogue (Except ε Unit))} {xs : List (Application ε)}
    {xss : List (List (Application ε))} {left? : Option (Dialogue (Except ε Unit))}
    (h : Leaves left? xs) {server : Server} {history requests : List Request} {result : Except ε Unit}
    (hrequests : ((round ds).run server history).requests = requests)
    (houtcome : Outcome ((round ds).run server history).result xss result) :
    let r := (roundBehind ds left?).run server history
    r.requests = requests ∧ Outcome r.result (if xs.isEmpty then xss else xs :: xss) result := by
  intro r
  cases result with
  | error e =>
    obtain ⟨hresult, hall⟩ := run_andThen_error
      (fun left => Dialogue.done (.ok (left?.toList ++ left))) houtcome hrequests
    exact ⟨hall, hresult⟩
  | ok _ =>
    obtain ⟨left, hleft, hhold⟩ := houtcome
    obtain ⟨hresult, hall⟩ := run_andThen_ok
      (fun left => Dialogue.done (.ok (left?.toList ++ left))) hleft hrequests
    exact ⟨hall.trans (List.append_nil requests), _, hresult, .of_leaves h hhold⟩

/-- A round is one conversation about the first applications, and leaves the others. -/
theorem round_run {ds : List (Dialogue (Except ε Unit))} {xss : List (List (Application ε))}
    (h : Hold ds xss) (server : Server) (history : List Request) :
    let r := (conversation (heads xss)).run server history
    ((round ds).run server history).requests = r.requests ∧
      Outcome ((round ds).run server history).result (tails xss) r.result := by
  induction h generalizing history with
  | nil => exact ⟨rfl, [], rfl, .nil⟩
  | @cons d ds xs xss hd hds ih =>
    rw [show round (d :: ds) = d.turn.andThen (roundBehind ds) from rfl]
    cases xs with
    | nil =>
      obtain ⟨hresult, hrequests⟩ := turn_finished hd server history
      obtain ⟨hresult', hall⟩ := run_andThen_ok (roundBehind ds) hresult hrequests
      rw [List.append_nil] at hresult' hall
      rw [hresult', hall]
      obtain ⟨hround, houtcome⟩ := ih history
      exact roundBehind_run .none hround houtcome
    | cons x xs =>
      obtain ⟨hrequests, hturn⟩ := turn_run hd server history
      simp only [heads, List.filterMap_cons, List.head?_cons, conversation, run]
      cases hcheck : x.check (server history x.request) with
      | error e =>
        rw [hcheck] at hturn
        obtain ⟨hresult, hall⟩ := run_andThen_error (roundBehind ds) hturn hrequests
        exact ⟨hall, hresult⟩
      | ok _ =>
        rw [hcheck] at hturn
        obtain ⟨left?, hturn, hleaves⟩ := hturn
        obtain ⟨hresult, hall⟩ := run_andThen_ok (roundBehind ds) hturn hrequests
        rw [hresult, hall]
        obtain ⟨hround, houtcome⟩ := ih (history ++ [x.request])
        obtain ⟨hrest, houtcome⟩ := roundBehind_run hleaves hround houtcome
        refine ⟨congrArg (x.request :: ·) hrest, ?_⟩
        have htails : tails ((x :: xs) :: xss) = if xs.isEmpty then tails xss else xs :: tails xss := by
          cases xs <;> rfl
        rw [htails]
        exact houtcome

/-- The order of so many rounds, and of what is then left. -/
def inRounds : Nat → List (List (Application ε)) → List (Application ε)
  | 0, xss => xss.flatten
  | n + 1, xss => heads xss ++ inRounds n (tails xss)

/-- Conversations one after the other are one conversation. -/
theorem quiet_oneByOne {ds : List (Dialogue (Except ε Unit))} {xss : List (List (Application ε))}
    (h : Hold ds xss) : (oneByOne ds).quiet = conversation xss.flatten := by
  induction h with
  | nil => rfl
  | cons hd hds ih =>
    rw [oneByOne, quiet_andThen, hd, List.flatten_cons, conversation_append]
    simp only [ih]

/-- Conversations that take turns are one conversation in the order of the rounds. -/
theorem rounds_run (n : Nat) {ds : List (Dialogue (Except ε Unit))}
    {xss : List (List (Application ε))} (h : Hold ds xss) (server : Server) (history : List Request) :
    let r := (conversation (inRounds n xss)).run server history
    ((rounds n ds).run server history).result = r.result ∧
      ((rounds n ds).run server history).requests = r.requests := by
  induction n generalizing ds xss history with
  | zero =>
    obtain ⟨hresult, hrequests⟩ := run_quiet server history (oneByOne ds)
    rw [quiet_oneByOne h] at hresult hrequests
    exact ⟨hresult.symm, hrequests.symm⟩
  | succ n ih =>
    intro r
    obtain ⟨hrequests, houtcome⟩ := round_run h server history
    have hr : r = ((conversation (heads xss)).andThen fun () =>
        conversation (inRounds n (tails xss))).run server history := by
      rw [← conversation_append]
      rfl
    rw [hr, rounds]
    cases hresult : ((conversation (heads xss)).run server history).result with
    | error e =>
      rw [hresult] at houtcome
      obtain ⟨hround, hall⟩ := run_andThen_error (rounds n) houtcome hrequests
      obtain ⟨hround', hall'⟩ := run_andThen_error
        (fun () => conversation (inRounds n (tails xss))) hresult rfl
      exact ⟨hround.trans hround'.symm, hall.trans hall'.symm⟩
    | ok _ =>
      rw [hresult] at houtcome
      obtain ⟨left, hleft, hhold⟩ := houtcome
      obtain ⟨hround, hall⟩ := run_andThen_ok (rounds n) hleft hrequests
      obtain ⟨hround', hall'⟩ := run_andThen_ok
        (fun () => conversation (inRounds n (tails xss))) hresult rfl
      obtain ⟨hrest, hrests⟩ :=
        ih hhold (history ++ ((conversation (heads xss)).run server history).requests)
      rw [hround, hall, hround', hall']
      exact ⟨hrest, by rw [hrests]⟩

end Dialogue

end BackingServices.Cluster
