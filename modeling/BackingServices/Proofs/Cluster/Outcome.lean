import BackingServices.Cluster.Connection
import BackingServices.Cluster.Traffic
import BackingServices.Proofs.Cluster.Dialogue

/-!
# What dialogues come to

The outcome of a dialogue is its result and the requests that it sends.  It does not depend on what is
logged, so that the outcome of a program is put together from those of its stages (`outcome_bind`).

A dialogue asks only requests of a kind if all that it can ever ask are of this kind, whatever it is
answered (`AsksOnly`).  What is built from such dialogues is one, too.
-/

namespace BackingServices.Cluster

namespace Dialogue

variable {α β ε : Type}

/-! ## Outcomes -/

/-- What comes of a dialogue with a server that was asked some requests before. -/
def outcome (server : Server) (history : List Request) (d : Dialogue α) : α × List Request :=
  ((d.run server history).result, (d.run server history).requests)

variable {server : Server} {history : List Request}

theorem outcome_log (e : Event) (d : Dialogue α) :
    (Dialogue.log e d).outcome server history = d.outcome server history := rfl

/-- What is logged does not matter. -/
theorem outcome_of_quiet {d d' : Dialogue α} (h : d.quiet = d'.quiet) :
    d.outcome server history = d'.outcome server history := by
  obtain ⟨hresult, hrequests⟩ := run_quiet server history d
  obtain ⟨hresult', hrequests'⟩ := run_quiet server history d'
  rw [outcome, outcome, ← hresult, ← hrequests, h, hresult', hrequests']

theorem outcome_within (span : Span) (d : Dialogue α) :
    (d.within span).outcome server history = d.outcome server history :=
  outcome_of_quiet (quiet_within span d)

theorem quiet_logAll (events : List Event) (d : Dialogue α) : (logAll events d).quiet = d.quiet := by
  induction events with
  | nil => rfl
  | cons e events ih => exact ih

theorem quiet_logTraffic (address : Uri) (d : Dialogue α) :
    (d.logTraffic address).quiet = d.quiet := by
  induction d with
  | done a => rfl
  | log e d ih => exact ih
  | ask s r k ih => simp only [logTraffic, quiet, quiet_logAll, ih]

theorem outcome_logTraffic (address : Uri) (d : Dialogue α) :
    (d.logTraffic address).outcome server history = d.outcome server history :=
  outcome_of_quiet (quiet_logTraffic address d)

/-- What is bound goes on with the result, behind the requests before. -/
theorem outcome_bind {d : Dialogue α} {a : α} {requests : List Request}
    (h : d.outcome server history = (a, requests)) (f : α → Dialogue β) :
    (d.bind f).outcome server history =
      ((f a).outcome server (history ++ requests)).map id (requests ++ ·) := by
  obtain ⟨rfl, rfl⟩ := Prod.mk.inj h
  obtain ⟨hresult, hrequests⟩ := run_bind server history d f
  exact Prod.ext hresult hrequests

theorem bind_assoc {γ : Type} (d : Dialogue α) (f : α → Dialogue β) (g : β → Dialogue γ) :
    (d.bind f).bind g = d.bind fun a => (f a).bind g := by
  induction d with
  | done a => rfl
  | log e d ih => exact congrArg (Dialogue.log e) ih
  | ask s r k ih => exact congrArg (Dialogue.ask s r) (funext ih)

/-- What is bound to a dialogue that asks nothing is all that is asked. -/
theorem outcome_bind_silent {d : Dialogue α} {a : α} (h : d.outcome server history = (a, []))
    (f : α → Dialogue β) :
    (d.bind f).outcome server history = (f a).outcome server history := by
  rw [outcome_bind h, List.append_nil]
  rfl

/-- What follows a success goes on with it. -/
theorem outcome_andThen_ok {d : Dialogue (Except ε α)} {a : α} {requests : List Request}
    (h : d.outcome server history = (.ok a, requests)) (f : α → Dialogue (Except ε β)) :
    (d.andThen f).outcome server history =
      ((f a).outcome server (history ++ requests)).map id (requests ++ ·) := outcome_bind h _

/-- Nothing follows a failure. -/
theorem outcome_andThen_error {d : Dialogue (Except ε α)} {e : ε} {requests : List Request}
    (h : d.outcome server history = (.error e, requests)) (f : α → Dialogue (Except ε β)) :
    (d.andThen f).outcome server history = (.error e, requests) :=
  (outcome_bind h _).trans (congrArg (Prod.mk _) (List.append_nil requests))

/-- A conversation ends well if and only if all applications are accepted. -/
theorem conversation_ok_iff (server : Server) (history : List Request) (xs : List (Application ε)) :
    ((conversation xs).run server history).result = .ok () ↔ Accepted server history xs := by
  induction xs generalizing history with
  | nil => exact ⟨fun _ => trivial, fun _ => rfl⟩
  | cons x xs ih =>
    rw [Accepted, ← Application.check_ok_iff, ← ih]
    simp only [conversation, run]
    cases x.check (server history x.request) with
    | ok _ => exact ⟨fun h => ⟨rfl, h⟩, And.right⟩
    | error e =>
      constructor
      · intro h
        cases h
      · rintro ⟨h, -⟩
        cases h

/-! ## What is logged -/

theorem events_bind (server : Server) (history : List Request) (d : Dialogue α)
    (f : α → Dialogue β) :
    let r := d.run server history
    ((d.bind f).run server history).events =
      r.events ++ ((f r.result).run server (history ++ r.requests)).events := by
  induction d generalizing history with
  | done a => simp [bind, run]
  | log e d ih => exact congrArg (e :: ·) (ih history)
  | ask s r k ih => simpa [bind, run] using ih (server history r) (history ++ [r])

theorem events_within (server : Server) (history : List Request) (span : Span) (d : Dialogue α) :
    ((d.within span).run server history).events =
      (d.run server history).events.map (Event.within span) := by
  induction d generalizing history with
  | done a => rfl
  | log e d ih => exact congrArg (e.within span :: ·) (ih history)
  | ask s r k ih => exact ih (server history r) (history ++ [r])

/-- A dialogue that has no events logs none. -/
theorem events_quiet (server : Server) (history : List Request) (d : Dialogue α) :
    (d.quiet.run server history).events = [] := by
  induction d generalizing history with
  | done a => rfl
  | log e d ih => exact ih history
  | ask s r k ih => exact ih (server history r) (history ++ [r])

/-! ## Kinds of requests -/

/-- All requests that a dialogue can ever ask are of a kind. -/
inductive AsksOnly (P : Request → Prop) : Dialogue α → Prop where
  | done (a : α) : AsksOnly P (.done a)
  | log (e : Event) {d : Dialogue α} (h : AsksOnly P d) : AsksOnly P (.log e d)
  | ask (spans : List Span) {r : Request} {k : Answer → Dialogue α} (hr : P r)
      (h : ∀ a, AsksOnly P (k a)) : AsksOnly P (.ask spans r k)

namespace AsksOnly

variable {P Q : Request → Prop}

theorem imp (hPQ : ∀ r, P r → Q r) {d : Dialogue α} (h : AsksOnly P d) : AsksOnly Q d := by
  induction h with
  | done a => exact .done a
  | log e _ ih => exact .log e ih
  | ask spans hr _ ih => exact .ask spans (hPQ _ hr) ih

theorem bind {d : Dialogue α} (h : AsksOnly P d) {f : α → Dialogue β} (hf : ∀ a, AsksOnly P (f a)) :
    AsksOnly P (d.bind f) := by
  induction h with
  | done a => exact hf a
  | log e _ ih => exact .log e ih
  | ask spans hr _ ih => exact .ask spans hr ih

theorem andThen {d : Dialogue (Except ε α)} (h : AsksOnly P d) {f : α → Dialogue (Except ε β)}
    (hf : ∀ a, AsksOnly P (f a)) : AsksOnly P (d.andThen f) :=
  h.bind fun
    | .ok a => hf a
    | .error _ => .done _

theorem mapError {ε' : Type} {d : Dialogue (Except ε α)} (h : AsksOnly P d) (f : ε → ε') :
    AsksOnly P (d.mapError f) := h.bind fun r => .done (r.mapError f)

theorem within {d : Dialogue α} (h : AsksOnly P d) (span : Span) : AsksOnly P (d.within span) := by
  induction h with
  | done a => exact .done a
  | log e _ ih => exact .log (e.within span) ih
  | ask spans hr _ ih => exact .ask (span :: spans) hr ih

theorem logAll (events : List Event) {d : Dialogue α} (h : AsksOnly P d) :
    AsksOnly P (d.logAll events) := by
  induction events with
  | nil => exact h
  | cons e events ih => exact .log e ih

/-- The requests of a run are of the kind. -/
theorem mem_requests {d : Dialogue α} (h : AsksOnly P d) (server : Server) (history : List Request) :
    ∀ r ∈ (d.run server history).requests, P r := by
  induction h generalizing history with
  | done a => exact fun _ hr => nomatch hr
  | log e _ ih => exact ih history
  | ask spans hr _ ih => exact List.forall_mem_cons.mpr ⟨hr, ih _ _⟩

/-- A dialogue that can ask nothing sends nothing. -/
theorem outcome_silent {d : Dialogue α} (h : AsksOnly (fun _ => False) d) (server : Server)
    (history : List Request) :
    d.outcome server history = ((d.run server history).result, []) :=
  congrArg _ (List.eq_nil_iff_forall_not_mem.mpr (h.mem_requests server history))

/-- A conversation asks for its applications only. -/
theorem conversation (xs : List (Application ε)) :
    AsksOnly (· ∈ xs.map Application.request) (conversation xs) := by
  induction xs with
  | nil => exact .done _
  | cons x xs ih =>
    refine .ask [] (.head _) fun a => ?_
    cases x.check a with
    | ok _ => exact ih.imp fun r hr => .tail _ hr
    | error e => exact .done _

end AsksOnly

end Dialogue

/-! ## Reading and connecting -/

/-- A request reads: it carries nothing. -/
def Request.Reads (r : Request) : Prop := r.method = .get ∧ r.contentType? = none ∧ r.body? = none

/-- To read is to ask for nothing else. -/
theorem asksOnly_read (schema : Schema) (path : String) :
    Dialogue.AsksOnly Request.Reads (read schema path) := by
  rw [read]
  cases Uri.parseRequest path with
  | error fault => exact .done _
  | ok target => exact .ask [] ⟨rfl, rfl, rfl⟩ fun _ => .done _

/-- To connect asks nothing. -/
theorem asksOnly_connect (env : Environment) (context? : Option String) :
    Dialogue.AsksOnly (fun _ => False) (connect env context?) := by
  have hconnectTo (name? : Option String) (c : Connection) :
      Dialogue.AsksOnly (fun _ => False) (connectTo env name? c) := by
    rw [connectTo]
    cases c.check env with
    | error fault => exact .done _
    | ok _ => exact .log _ (.done _)
  have hinfer : Dialogue.AsksOnly (fun _ => False) (infer env) := by
    rw [infer]
    cases Connection.ofKubeconfig env none with
    | ok c => exact .done _
    | error fault => exact .log _ (.done _)
  refine .within ?_ (connectSpan context?)
  cases context? with
  | some name =>
    refine .log _ ?_
    cases Connection.ofKubeconfig env (some name) with
    | ok c => exact hconnectTo (some name) c
    | error fault => exact .done _
  | none =>
    refine hinfer.bind fun r => ?_
    cases r with
    | ok c => exact .logAll _ (hconnectTo none _)
    | error fault => exact .done _

end BackingServices.Cluster
