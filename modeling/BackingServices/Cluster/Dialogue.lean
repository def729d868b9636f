import BackingServices.Cluster.Exchange
import BackingServices.Event

/-!
# Dialogues

A dialogue is a piece of work that may log events and ask the API server, where
what it does next depends on the answer.  It is data: the same dialogue can be run
against a server, taken turn by turn beside others, or looked at.

`Dialogue.run` runs it against a server and gives its result, the requests it sent
and the events it logged, in order.

Dialogues that run side by side take turns.  A turn is one request, with what is
done before it and what is done up to the next request.  In a round every dialogue
that is not finished has its turn, in order; a dialogue that fails ends all of
them.  `Dialogue.rounds` makes one dialogue of this schedule.  It takes a number of
rounds and lets the dialogues that are then unfinished run one after the other, so
that nothing is lost if there are too few.
-/

namespace BackingServices.Cluster

/-- A piece of work that logs events, asks the server and has a result. -/
inductive Dialogue (α : Type) where
  /-- It is finished. -/
  | done (result : α)
  /-- It logs an event and goes on. -/
  | log (event : Event) (next : Dialogue α)
  /-- It sends a request, in some spans, and goes on with the answer. -/
  | ask (spans : List Span) (request : Request) (next : Answer → Dialogue α)

namespace Dialogue

variable {α β ε : Type}

/-- One dialogue and then another that depends on its result. -/
def bind : Dialogue α → (α → Dialogue β) → Dialogue β
  | .done a, f => f a
  | .log e d, f => .log e (d.bind f)
  | .ask s r k, f => .ask s r fun a => (k a).bind f

instance : Monad Dialogue where
  pure := .done
  bind := bind

/-- Logs an event. -/
def event (e : Event) : Dialogue Unit := .log e (.done ())

/-- Logs some events and goes on. -/
def logAll (events : List Event) (next : Dialogue α) : Dialogue α := events.foldr .log next

/-- A dialogue whose events and requests happen in a span. -/
def within (span : Span) : Dialogue α → Dialogue α
  | .done a => .done a
  | .log e d => .log (e.within span) (d.within span)
  | .ask s r k => .ask (span :: s) r fun a => (k a).within span

/-- A dialogue that may fail, and then another one unless it failed. -/
def andThen (d : Dialogue (Except ε α)) (f : α → Dialogue (Except ε β)) : Dialogue (Except ε β) :=
  d.bind fun
    | .ok a => f a
    | .error e => .done (.error e)

/-- A dialogue with its failure put into other words. -/
def mapError {ε' : Type} (f : ε → ε') (d : Dialogue (Except ε α)) : Dialogue (Except ε' α) :=
  d.bind fun r => .done (r.mapError f)

/-! ## Running against a server -/

/-- What a run leaves. -/
structure Run (α : Type) where
  /-- The result. -/
  result : α
  /-- The requests that were sent, in order. -/
  requests : List Request
  /-- The events that were logged, in order. -/
  events : List Event

/-- Runs a dialogue against a server that was asked some requests before. -/
def run (server : Server) : List Request → Dialogue α → Run α
  | _, .done a => ⟨a, [], []⟩
  | history, .log e d =>
    let r := run server history d
    { r with events := e :: r.events }
  | history, .ask _ request k =>
    let r := run server (history ++ [request]) (k (server history request))
    { r with requests := request :: r.requests }

/-! ## Side by side -/

/-- Goes on up to the next request, of which the dialogue that is left begins. -/
def settle : Dialogue (Except ε Unit) → Dialogue (Except ε (Option (Dialogue (Except ε Unit))))
  | .done (.ok ()) => .done (.ok none)
  | .done (.error e) => .done (.error e)
  | .log e d => .log e d.settle
  | .ask s r k => .done (.ok (some (.ask s r k)))

/-- One turn: up to the first request, its answer, and on up to the next request. -/
def turn : Dialogue (Except ε Unit) → Dialogue (Except ε (Option (Dialogue (Except ε Unit))))
  | .done (.ok ()) => .done (.ok none)
  | .done (.error e) => .done (.error e)
  | .log e d => .log e d.turn
  | .ask s r k => .ask s r fun a => (k a).settle

/-- One round: a turn for each, and those that are left. -/
def round : List (Dialogue (Except ε Unit)) →
    Dialogue (Except ε (List (Dialogue (Except ε Unit))))
  | [] => .done (.ok [])
  | d :: ds => d.turn.andThen fun left? =>
    (round ds).andThen fun left => .done (.ok (left?.toList ++ left))

/-- One after the other, up to the first failure. -/
def oneByOne : List (Dialogue (Except ε Unit)) → Dialogue (Except ε Unit)
  | [] => .done (.ok ())
  | d :: ds => d.andThen fun () => oneByOne ds

/-- Side by side for a number of rounds, and then one after the other. -/
def rounds : Nat → List (Dialogue (Except ε Unit)) → Dialogue (Except ε Unit)
  | 0, ds => oneByOne ds
  | n + 1, ds => (round ds).andThen fun left => rounds n left

end Dialogue

end BackingServices.Cluster
