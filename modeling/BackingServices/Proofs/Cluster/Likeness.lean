import BackingServices.Proofs.Cluster.Interleaving
import Mathlib.Data.List.Forall2

/-!
# Dialogues that are alike

Two dialogues are alike if they log the same events and ask related requests for as long as they
are given the same answers, and then have related results.  What is built from dialogues that are
alike is alike, and so are the rounds in which they take turns.

A server that does not tell related requests apart gives the same answers to both.  So it is asked
related requests, in the same order, and the same is logged (`Alike.run`).  Side by side, parts
that are alike can make the same moves up to related requests (`Interleaving.counterpart`).
-/

namespace BackingServices.Cluster

variable {α β γ δ ε : Type} {R : Request → Request → Prop}

/-- Two outcomes are the same up to related values. -/
inductive SameOutcome (Q : α → β → Prop) : Except ε α → Except ε β → Prop where
  | ok {a : α} {b : β} (h : Q a b) : SameOutcome Q (.ok a) (.ok b)
  | error (e : ε) : SameOutcome Q (.error e) (.error e)

theorem SameOutcome.eq {r r' : Except ε α} (h : SameOutcome Eq r r') : r = r' := by
  cases h with
  | ok h => rw [h]
  | error e => rfl

theorem SameOutcome.imp {P Q : α → β → Prop} {r : Except ε α} {r' : Except ε β}
    (h : SameOutcome P r r') (hPQ : ∀ a b, r = .ok a → r' = .ok b → P a b → Q a b) :
    SameOutcome Q r r' := by
  cases h with
  | ok h => exact .ok (hPQ _ _ rfl rfl h)
  | error e => exact .error e

theorem SameOutcome.refl (r : Except ε α) : SameOutcome Eq r r := by
  cases r with
  | ok a => exact .ok rfl
  | error e => exact .error e

namespace Dialogue

/-- Two dialogues log the same and ask related requests, and end in related results. -/
inductive Alike (R : Request → Request → Prop) (Q : α → β → Prop) :
    Dialogue α → Dialogue β → Prop where
  | done {a : α} {b : β} (h : Q a b) : Alike R Q (.done a) (.done b)
  | log (e : Event) {d : Dialogue α} {d' : Dialogue β} (h : Alike R Q d d') :
      Alike R Q (.log e d) (.log e d')
  | ask (spans : List Span) {r r' : Request} {k : Answer → Dialogue α} {k' : Answer → Dialogue β}
      (hr : R r r') (h : ∀ a, Alike R Q (k a) (k' a)) : Alike R Q (.ask spans r k) (.ask spans r' k')

namespace Alike

/-! ## What is built from dialogues -/

theorem refl (hR : ∀ r, R r r) {Q : α → α → Prop} (hQ : ∀ a, Q a a) (d : Dialogue α) :
    Alike R Q d d := by
  induction d with
  | done a => exact .done (hQ a)
  | log e d ih => exact .log e ih
  | ask s r k ih => exact .ask s (hR r) ih

theorem bind {P : α → β → Prop} {Q : γ → δ → Prop} {d : Dialogue α} {d' : Dialogue β}
    {f : α → Dialogue γ} {f' : β → Dialogue δ} (h : Alike R P d d')
    (hf : ∀ a b, P a b → Alike R Q (f a) (f' b)) : Alike R Q (d.bind f) (d'.bind f') := by
  induction h with
  | done h => exact hf _ _ h
  | log e _ ih => exact .log e ih
  | ask s hr _ ih => exact .ask s hr ih

theorem andThen {P : α → β → Prop} {Q : γ → δ → Prop} {d : Dialogue (Except ε α)}
    {d' : Dialogue (Except ε β)} {f : α → Dialogue (Except ε γ)} {f' : β → Dialogue (Except ε δ)}
    (h : Alike R (SameOutcome P) d d')
    (hf : ∀ a b, P a b → Alike R (SameOutcome Q) (f a) (f' b)) :
    Alike R (SameOutcome Q) (d.andThen f) (d'.andThen f') := by
  refine h.bind fun r r' hr => ?_
  cases hr with
  | ok h => exact hf _ _ h
  | error e => exact .done (.error e)

theorem mapError {ε' : Type} {P : α → β → Prop} {d : Dialogue (Except ε α)}
    {d' : Dialogue (Except ε β)} (h : Alike R (SameOutcome P) d d') (f : ε → ε') :
    Alike R (SameOutcome P) (d.mapError f) (d'.mapError f) := by
  refine h.bind fun r r' hr => ?_
  cases hr with
  | ok h => exact .done (.ok h)
  | error e => exact .done (.error (f e))

theorem within {Q : α → β → Prop} {d : Dialogue α} {d' : Dialogue β} (h : Alike R Q d d')
    (span : Span) : Alike R Q (d.within span) (d'.within span) := by
  induction h with
  | done h => exact .done h
  | log e _ ih => exact .log _ ih
  | ask s hr _ ih => exact .ask _ hr ih

end Alike

/-! ## Taking turns -/

/-- Two dialogues without a value are alike. -/
abbrev AlikeTask (R : Request → Request → Prop) :
    Dialogue (Except ε Unit) → Dialogue (Except ε Unit) → Prop :=
  Alike R (SameOutcome Eq)

namespace Alike

variable {d d' : Dialogue (Except ε Unit)} {ds ds' : List (Dialogue (Except ε Unit))}

theorem settle (h : AlikeTask R d d') :
    Alike R (SameOutcome (Option.Rel (AlikeTask R))) d.settle d'.settle := by
  induction h with
  | done h =>
    cases h with
    | ok _ => exact .done (.ok .none)
    | error e => exact .done (.error e)
  | log e _ ih => exact .log e ih
  | ask s hr hk _ => exact .done (.ok (.some (.ask s hr hk)))

theorem turn (h : AlikeTask R d d') :
    Alike R (SameOutcome (Option.Rel (AlikeTask R))) d.turn d'.turn := by
  induction h with
  | done h =>
    cases h with
    | ok _ => exact .done (.ok .none)
    | error e => exact .done (.error e)
  | log e _ ih => exact .log e ih
  | ask s hr hk _ => exact .ask s hr fun a => (hk a).settle

theorem round (h : List.Forall₂ (AlikeTask R) ds ds') :
    Alike R (SameOutcome (List.Forall₂ (AlikeTask R))) (Dialogue.round ds) (Dialogue.round ds') := by
  induction h with
  | nil => exact .done (.ok .nil)
  | cons hd _ ih =>
    refine hd.turn.andThen fun left? left?' hleft => ih.andThen fun left left' hrest => ?_
    refine .done (.ok ?_)
    cases hleft with
    | none => exact hrest
    | some h => exact .cons h hrest

theorem oneByOne (h : List.Forall₂ (AlikeTask R) ds ds') :
    AlikeTask R (Dialogue.oneByOne ds) (Dialogue.oneByOne ds') := by
  induction h with
  | nil => exact .done (.ok rfl)
  | cons hd _ ih => exact hd.andThen fun _ _ _ => ih

theorem rounds (n : Nat) (h : List.Forall₂ (AlikeTask R) ds ds') :
    AlikeTask R (Dialogue.rounds n ds) (Dialogue.rounds n ds') := by
  induction n generalizing ds ds' with
  | zero => exact oneByOne h
  | succ n ih => exact (round h).andThen fun _ _ hleft => ih hleft

end Alike

end Dialogue

/-! ## Servers that do not tell requests apart -/

/-- A server gives the same answer to related requests, if those before were related too. -/
def Server.Blind (R : Request → Request → Prop) (server : Server) : Prop :=
  ∀ history history' r r', List.Forall₂ R history history' → R r r' →
    server history r = server history' r'

/-- Two runs have logged the same, and their requests and results are related. -/
structure SameRun (R : Request → Request → Prop) (Q : α → β → Prop) (run : Dialogue.Run α)
    (run' : Dialogue.Run β) : Prop where
  result : Q run.result run'.result
  requests : List.Forall₂ R run.requests run'.requests
  events : run.events = run'.events

/-- A server that does not tell related requests apart gives dialogues that are alike the same answers. -/
theorem Dialogue.Alike.run {Q : α → β → Prop} {d : Dialogue α} {d' : Dialogue β} (h : Alike R Q d d')
    {server : Server} (hserver : server.Blind R) {history history' : List Request}
    (hhistory : List.Forall₂ R history history') :
    SameRun R Q (d.run server history) (d'.run server history') := by
  -- the histories stay related, and so the answers stay the same
  induction h generalizing history history' with
  | done h => exact ⟨h, .nil, rfl⟩
  | log e _ ih =>
    obtain ⟨hresult, hrequests, hevents⟩ := ih hhistory
    exact ⟨hresult, hrequests, congrArg (e :: ·) hevents⟩
  | @ask s r r' k k' hr _ ih =>
    have hanswer := hserver history history' r r' hhistory hr
    obtain ⟨hresult, hrequests, hevents⟩ := ih (server history r)
      (List.rel_append hhistory (.cons hr .nil))
    simp only [Dialogue.run]
    rw [← hanswer]
    exact ⟨hresult, .cons hr hrequests, hevents⟩

/-! ## Side by side -/

/-- Parts that are alike: they are about to send related requests, or wait for the answers to them,
and are alike then; or they have the same result. -/
inductive Part.Alike (R : Request → Request → Prop) : Part ε → Part ε → Prop where
  | asking {r r' : Request} {k k' : Answer → Dialogue (Except ε Unit)} (hr : R r r')
      (h : ∀ a, Dialogue.AlikeTask R (k a) (k' a)) : Alike R (.asking r k) (.asking r' k')
  | waiting {r r' : Request} {k k' : Answer → Dialogue (Except ε Unit)} (hr : R r r')
      (h : ∀ a, Dialogue.AlikeTask R (k a) (k' a)) : Alike R (.waiting r k) (.waiting r' k')
  | finished (result : Except ε Unit) : Alike R (.finished result) (.finished result)

/-- Moves that are alike: related requests are sent, or receive the same answer. -/
inductive Move.Alike (R : Request → Request → Prop) : Move → Move → Prop where
  | send {r r' : Request} (hr : R r r') : Alike R (.send r) (.send r')
  | receive {r r' : Request} (hr : R r r') (a : Answer) : Alike R (.receive r a) (.receive r' a)

/-- Moves of parts at the same places that are alike. -/
abbrev AlikeMoves (R : Request → Request → Prop) : List (Nat × Move) → List (Nat × Move) → Prop :=
  List.Forall₂ fun m m' => m.1 = m'.1 ∧ Move.Alike R m.2 m'.2

theorem Dialogue.Alike.part {d d' : Dialogue (Except ε Unit)} (h : AlikeTask R d d') :
    Part.Alike R (.of d) (.of d') := by
  induction h with
  | done h =>
    rw [h.eq]
    exact .finished _
  | log e _ ih => exact ih
  | ask s hr hk _ => exact .asking hr hk

namespace Part.Alike

variable {p p' q : Part ε}

theorem failure? (h : Alike R p p') : p.failure? = p'.failure? := by
  cases h <;> rfl

theorem succeeded (h : Alike R p p') : p.succeeded = p'.succeeded := by
  cases h <;> rfl

/-- A part that is like another one can make the moves of the other. -/
theorem step {m : Move} (h : Alike R p p') (hstep : p.Step m q) :
    ∃ m' q', p'.Step m' q' ∧ Move.Alike R m m' ∧ Alike R q q' := by
  cases hstep with
  | send r k =>
    cases h with
    | asking hr hk => exact ⟨_, _, .send _ _, .send hr, .waiting hr hk⟩
  | receive r k a =>
    cases h with
    | waiting hr hk => exact ⟨_, _, .receive _ _ a, .receive hr a, (hk a).part⟩

end Part.Alike

section Parts

variable {start start' parts parts' : List (Part ε)} {moves : List (Nat × Move)}

theorem forall₂_getElem? {Q : α → β → Prop} {xs : List α} {ys : List β} (h : List.Forall₂ Q xs ys)
    {i : Nat} {x : α} (hx : xs[i]? = some x) : ∃ y, ys[i]? = some y ∧ Q x y := by
  induction h generalizing i with
  | nil => simp at hx
  | @cons x' y xs ys hxy _ ih =>
    cases i with
    | zero =>
      obtain rfl : x' = x := by simpa using hx
      exact ⟨y, rfl, hxy⟩
    | succ i => exact ih hx

theorem forall₂_set {Q : α → β → Prop} {xs : List α} {ys : List β} (h : List.Forall₂ Q xs ys)
    (i : Nat) {x : α} {y : β} (hxy : Q x y) : List.Forall₂ Q (xs.set i x) (ys.set i y) := by
  induction h generalizing i with
  | nil => exact .nil
  | cons hhead htail ih =>
    cases i with
    | zero => exact .cons hxy htail
    | succ i => exact .cons hhead (ih i)

theorem goes_of_alike (h : List.Forall₂ (Part.Alike R) parts parts')
    (hgoes : ∀ p ∈ parts, p.failure? = none) : ∀ p ∈ parts', p.failure? = none := by
  induction h with
  | nil => simp
  | cons hp _ ih =>
    obtain ⟨hhead, htail⟩ := List.forall_mem_cons.mp hgoes
    exact List.forall_mem_cons.mpr ⟨hp.failure? ▸ hhead, ih htail⟩

/-- What comes of parts that are alike is the same. -/
theorem jointResult?_of_alike (h : List.Forall₂ (Part.Alike R) parts parts') :
    jointResult? parts = jointResult? parts' := by
  have hboth : parts.findSome? Part.failure? = parts'.findSome? Part.failure? ∧
      parts.all Part.succeeded = parts'.all Part.succeeded := by
    induction h with
    | nil => exact ⟨rfl, rfl⟩
    | cons hp _ ih =>
      constructor
      · rw [List.findSome?_cons, List.findSome?_cons, hp.failure?, ih.1]
      · rw [List.all_cons, List.all_cons, hp.succeeded, ih.2]
  rw [jointResult?, jointResult?, hboth.1, hboth.2]

/-- Parts that are like others can make the moves of the others. -/
theorem Interleaving.counterpart (hstart : List.Forall₂ (Part.Alike R) start start')
    (h : Interleaving start moves parts) :
    ∃ moves' parts', Interleaving start' moves' parts' ∧
      AlikeMoves R moves moves' ∧ List.Forall₂ (Part.Alike R) parts parts' := by
  induction h with
  | start => exact ⟨[], start', .start, .nil, hstart⟩
  | @move moves parts i p q m _ hgoes hpart hstep ih =>
    obtain ⟨moves', parts', hrun, hmoves, hparts⟩ := ih
    obtain ⟨p', hpart', hp⟩ := forall₂_getElem? hparts hpart
    obtain ⟨m', q', hstep', hm, hq⟩ := hp.step hstep
    refine ⟨moves' ++ [(i, m')], parts'.set i q',
      hrun.move (goes_of_alike hparts hgoes) hpart' hstep', ?_, forall₂_set hparts i hq⟩
    exact List.rel_append hmoves (.cons ⟨rfl, hm⟩ .nil)

end Parts

end BackingServices.Cluster
