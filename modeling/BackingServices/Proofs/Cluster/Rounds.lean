import BackingServices.Proofs.Cluster.Interleaving

/-!
# Rounds are an interleaving

Dialogues that take turns make the moves of one of the interleavings, in which a turn is
two moves of one part (`turn_interleaving`), and a round is a turn of every part that is
left (`round_interleaving`).  So the rounds send the requests of an interleaving, and what
comes of them is what comes of it (`rounds_interleaving`).
-/

namespace BackingServices.Cluster

open Dialogue (round roundBehind rounds oneByOne)

variable {ε : Type} {start parts : List (Part ε)} {moves : List (Nat × Move)}

theorem sends_append (ms ms' : List Move) : sends (ms ++ ms') = sends ms ++ sends ms' :=
  List.filterMap_append

/-! ## Turns -/

/-- Parts side by side of which none has failed. -/
structure Running (start : List (Part ε)) (moves : List (Nat × Move)) (parts : List (Part ε)) :
    Prop where
  /-- The moves lead to the parts. -/
  run : Interleaving start moves parts
  /-- None has failed. -/
  goes : ∀ q ∈ parts, q.failure? = none

/-- They go on if one of them is replaced by a part that has not failed either. -/
theorem Running.set (h : ∀ q ∈ parts, q.failure? = none) (i : Nat) {p : Part ε}
    (hp : p.failure? = none) : ∀ q ∈ parts.set i p, q.failure? = none := by
  intro q hq
  rcases List.mem_or_eq_of_mem_set hq with hq | rfl
  · exact h q hq
  · exact hp

theorem Part.eq_of_failure? {p : Part ε} {e : ε} (h : p.failure? = some e) :
    p = .finished (.error e) := by
  cases p with
  | finished result =>
    cases result with
    | ok _ => simp [failure?] at h
    | error e' =>
      obtain rfl : e' = e := by simpa [failure?] using h
      rfl
  | _ => simp [failure?] at h

/-- The part that is left, if any, of a dialogue that went on up to its next request. -/
inductive Settled : Part ε → Except ε (Option (Dialogue (Except ε Unit))) → Prop where
  | failed (e : ε) : Settled (.finished (.error e)) (.error e)
  | succeeded : Settled (.finished (.ok ())) (.ok none)
  | left (d : Dialogue (Except ε Unit)) (h : (Part.of d).failure? = none) :
      Settled (.of d) (.ok (some d))

theorem Settled.failure? {p : Part ε} {left? : Option (Dialogue (Except ε Unit))}
    (h : Settled p (.ok left?)) : p.failure? = none := by
  cases h with
  | succeeded => rfl
  | left d h => exact h

theorem settle_settled (d : Dialogue (Except ε Unit)) (server : Server) (history : List Request) :
    (d.settle.run server history).requests = [] ∧
      Settled (.of d) (d.settle.run server history).result := by
  induction d with
  | done result =>
    cases result with
    | ok _ => exact ⟨rfl, .succeeded⟩
    | error e => exact ⟨rfl, .failed e⟩
  | log e d ih => exact ih
  | ask s r k _ => exact ⟨rfl, .left (.ask s r k) rfl⟩

theorem set_self {i : Nat} {p : Part ε} (h : parts[i]? = some p) : parts.set i p = parts := by
  obtain ⟨hlt, heq⟩ := List.getElem?_eq_some_iff.mp h
  rw [← heq, List.set_getElem_self]

/-- A part that is about to ask sends its request and receives an answer. -/
theorem Running.exchange {i : Nat} {request : Request} {next : Answer → Dialogue (Except ε Unit)}
    (h : Running start moves parts) (hi : parts[i]? = some (.asking request next)) (a : Answer) :
    Interleaving start (moves ++ [(i, .send request), (i, .receive request a)])
      (parts.set i (.of (next a))) := by
  have hlt := (List.getElem?_eq_some_iff.mp hi).1
  have hsend := h.run.move h.goes hi (.send request next)
  have hreceive := hsend.move (Running.set h.goes i rfl) (List.getElem?_set_self hlt)
    (.receive request next a)
  rwa [List.set_set, List.append_assoc] at hreceive

/-- A turn is no move of its part, or it is a request and its answer. -/
theorem turn_interleaving {i : Nat} {d : Dialogue (Except ε Unit)} (h : Running start moves parts)
    (hi : parts[i]? = some (.of d)) (server : Server) (history : List Request) :
    let r := d.turn.run server history
    ∃ ms p, Interleaving start (moves ++ ms) (parts.set i p) ∧
      sends (ms.map Prod.snd) = r.requests ∧ Settled p r.result := by
  have hself := set_self hi
  induction d with
  | done result =>
    cases result with
    | ok _ =>
      refine ⟨[], .of (.done (.ok ())), ?_, rfl, .succeeded⟩
      rw [List.append_nil, hself]
      exact h.run
    | error e => exact absurd (h.goes _ (List.mem_of_getElem? hi)) (by simp [Part.of, Part.failure?])
  | log e d ih => exact ih hi hself
  | ask s request next _ =>
    obtain ⟨hrequests, hsettled⟩ :=
      settle_settled (next (server history request)) server (history ++ [request])
    refine ⟨_, _, h.exchange hi (server history request), ?_, hsettled⟩
    exact (congrArg (request :: ·) hrequests).symm

/-! ## Rounds -/

theorem roundBehind_eq (ds : List (Dialogue (Except ε Unit)))
    (left? : Option (Dialogue (Except ε Unit))) (server : Server) (history : List Request) :
    let r := (round ds).run server history
    let r' := (roundBehind ds left?).run server history
    r'.result = r.result.map (left?.toList ++ ·) ∧ r'.requests = r.requests := by
  intro r r'
  cases hresult : r.result with
  | error e =>
    exact Dialogue.run_andThen_error (fun left => .done (.ok (left?.toList ++ left))) hresult rfl
  | ok left =>
    obtain ⟨hok, hrequests⟩ :=
      Dialogue.run_andThen_ok (fun left => .done (.ok (left?.toList ++ left))) hresult rfl
    exact ⟨hok, hrequests.trans (List.append_nil _)⟩

/-- Dialogues with their places, at which the parts are. -/
structure Live (live : List (Nat × Dialogue (Except ε Unit))) (parts : List (Part ε)) : Prop where
  /-- No two are at one place. -/
  nodup : (live.map Prod.fst).Nodup
  /-- Each is at its place. -/
  part : ∀ x ∈ live, parts[x.1]? = some (.of x.2)

/-- The moves of the first part change none of those behind it. -/
theorem Live.behind {x : Nat × Dialogue (Except ε Unit)}
    {live : List (Nat × Dialogue (Except ε Unit))} (h : Live (x :: live) parts) (p : Part ε) :
    Live live (parts.set x.1 p) := by
  obtain ⟨hnew, hnodup⟩ := List.nodup_cons.mp h.nodup
  refine ⟨hnodup, fun y hy => ?_⟩
  have hne : x.1 ≠ y.1 := fun heq => hnew (List.mem_map.mpr ⟨y, hy, heq.symm⟩)
  rw [List.getElem?_set_ne hne]
  exact h.part y (.tail _ hy)

/-- What a round leaves of some parts: one has failed, or some are left and the others succeeded. -/
inductive Left (places : List Nat) (parts : List (Part ε)) :
    Except ε (List (Dialogue (Except ε Unit))) → Prop where
  | failed {p : Part ε} {e : ε} (hp : p ∈ parts) (he : p.failure? = some e) :
      Left places parts (.error e)
  | live {live : List (Nat × Dialogue (Except ε Unit))} (hgoes : ∀ q ∈ parts, q.failure? = none)
      (hlive : Live live parts) (hplaces : ∀ i ∈ live.map Prod.fst, i ∈ places)
      (hothers : ∀ i ∈ places, i ∉ live.map Prod.fst → ∃ p, parts[i]? = some p ∧ p.succeeded = true) :
      Left places parts (.ok (live.map Prod.snd))

/-- What is left of a part is put in front of what a round leaves of the others. -/
theorem Left.cons {places : List Nat} {i : Nat} {p : Part ε}
    {left? : Option (Dialogue (Except ε Unit))}
    {result : Except ε (List (Dialogue (Except ε Unit)))} (h : Left places parts result)
    (hsettled : Settled p (.ok left?)) (hi : parts[i]? = some p) (hnew : i ∉ places) :
    Left (i :: places) parts (result.map (left?.toList ++ ·)) := by
  cases h with
  | failed hp he => exact .failed hp he
  | @live live hgoes hlive hplaces hothers =>
    have hfresh : i ∉ live.map Prod.fst := fun hmem => hnew (hplaces i hmem)
    cases hsettled with
    | succeeded =>
      refine .live hgoes hlive (fun j hj => .tail _ (hplaces j hj)) fun j hj hother => ?_
      rcases List.mem_cons.mp hj with rfl | hj
      · exact ⟨_, hi, rfl⟩
      · exact hothers j hj hother
    | left d _ =>
      refine @Left.live _ _ _ ((i, d) :: live) hgoes
        ⟨List.nodup_cons.mpr ⟨hfresh, hlive.nodup⟩, ?_⟩ ?_ ?_
      · intro x hx
        rcases List.mem_cons.mp hx with rfl | hx
        · exact hi
        · exact hlive.part x hx
      · intro j hj
        rcases List.mem_cons.mp hj with rfl | hj
        · exact .head _
        · exact .tail _ (hplaces j hj)
      · intro j hj hother
        simp only [List.map_cons, List.mem_cons, not_or] at hother
        rcases List.mem_cons.mp hj with rfl | hj
        · exact absurd rfl hother.1
        · exact hothers j hj hother.2

/-- A round is a turn of every part that is left. -/
theorem round_interleaving {todo : List (Nat × Dialogue (Except ε Unit))}
    (h : Running start moves parts) (hlive : Live todo parts) (server : Server)
    (history : List Request) :
    let r := (round (todo.map Prod.snd)).run server history
    ∃ ms parts', Interleaving start (moves ++ ms) parts' ∧
      sends (ms.map Prod.snd) = r.requests ∧
      (∀ i, i ∉ todo.map Prod.fst → parts'[i]? = parts[i]?) ∧
      Left (todo.map Prod.fst) parts' r.result := by
  induction todo generalizing moves parts history with
  | nil =>
    refine ⟨[], parts, by simpa using h.run, rfl, fun i _ => rfl, ?_⟩
    exact @Left.live _ _ _ [] h.goes hlive (by simp) (by simp)
  | cons x todo ih =>
    obtain ⟨i, d⟩ := x
    have hnew := (List.nodup_cons.mp hlive.nodup).1
    have hi := hlive.part (i, d) (.head _)
    have hlt := (List.getElem?_eq_some_iff.mp hi).1
    obtain ⟨ms, p, hrun, hsends, hsettled⟩ := turn_interleaving h hi server history
    rw [show round (((i, d) :: todo).map Prod.snd) =
      d.turn.andThen (roundBehind (todo.map Prod.snd)) from rfl]
    cases hresult : (d.turn.run server history).result with
    | error e =>
      rw [hresult] at hsettled
      obtain ⟨herror, hrequests⟩ :=
        Dialogue.run_andThen_error (roundBehind (todo.map Prod.snd)) hresult rfl
      refine ⟨ms, parts.set i p, hrun, hsends.trans hrequests.symm, fun j hj => ?_, ?_⟩
      · simp only [List.map_cons, List.mem_cons, not_or] at hj
        exact List.getElem?_set_ne (Ne.symm hj.1)
      · rw [herror]
        cases hsettled
        exact .failed (List.mem_of_getElem? (List.getElem?_set_self hlt)) rfl
    | ok left? =>
      rw [hresult] at hsettled
      have hrunning : Running start (moves ++ ms) (parts.set i p) :=
        ⟨hrun, Running.set h.goes i hsettled.failure?⟩
      obtain ⟨hok, hrequests⟩ :=
        Dialogue.run_andThen_ok (roundBehind (todo.map Prod.snd)) hresult rfl
      obtain ⟨hbehind, hrequests'⟩ := roundBehind_eq (todo.map Prod.snd) left? server
        (history ++ (d.turn.run server history).requests)
      obtain ⟨ms', parts', hrun', hsends', hsame, hleft⟩ :=
        ih hrunning (hlive.behind p) (history ++ (d.turn.run server history).requests)
      rw [List.append_assoc] at hrun'
      refine ⟨ms ++ ms', parts', hrun', ?_, fun j hj => ?_, ?_⟩
      · rw [List.map_append, sends_append, hsends, hsends', hrequests, hrequests']
      · simp only [List.map_cons, List.mem_cons, not_or] at hj
        rw [hsame j hj.2, List.getElem?_set_ne (Ne.symm hj.1)]
      · rw [hok, hbehind]
        exact hleft.cons hsettled ((hsame i hnew).trans (List.getElem?_set_self hlt)) hnew

/-! ## One after the other -/

theorem run_of_finished {d : Dialogue (Except ε Unit)} {result : Except ε Unit}
    (h : Part.of d = .finished result) (server : Server) (history : List Request) :
    (d.run server history).result = result ∧ (d.run server history).requests = [] := by
  induction d with
  | done r =>
    obtain rfl : r = result := by simpa [Part.of] using h
    exact ⟨rfl, rfl⟩
  | log _ d ih => exact ih h
  | ask s r k _ => simp [Part.of] at h

/-- A part may make all its moves in a row. -/
theorem run_interleaving {i : Nat} {d : Dialogue (Except ε Unit)} (h : Running start moves parts)
    (hi : parts[i]? = some (.of d)) (server : Server) (history : List Request) :
    let r := d.run server history
    ∃ ms, Interleaving start (moves ++ ms) (parts.set i (.finished r.result)) ∧
      sends (ms.map Prod.snd) = r.requests := by
  induction d generalizing moves parts history with
  | done result =>
    have hself : parts.set i (.finished result) = parts := set_self hi
    refine ⟨[], ?_, rfl⟩
    rw [List.append_nil]
    exact hself.symm ▸ h.run
  | log e d ih => exact ih h hi history
  | ask s request next ih =>
    have hlt := (List.getElem?_eq_some_iff.mp hi).1
    have hexchange := h.exchange hi (server history request)
    cases hfailure : (Part.of (next (server history request))).failure? with
    | some e =>
      have hpart := Part.eq_of_failure? hfailure
      obtain ⟨herror, hrequests⟩ := run_of_finished hpart server (history ++ [request])
      refine ⟨[(i, .send request), (i, .receive request (server history request))], ?_,
        (congrArg (request :: ·) hrequests).symm⟩
      rw [hpart] at hexchange
      rw [show ((Dialogue.ask s request next).run server history).result = .error e from herror]
      exact hexchange
    | none =>
      obtain ⟨ms, hrun, hsends⟩ := ih (server history request)
        ⟨hexchange, Running.set h.goes i hfailure⟩ (List.getElem?_set_self hlt) (history ++ [request])
      rw [List.set_set, List.append_assoc] at hrun
      exact ⟨_, hrun, congrArg (request :: ·) hsends⟩

/-- What has come of parts: one has failed, or all succeeded. -/
inductive Ended (parts : List (Part ε)) : Except ε Unit → Prop where
  | failed {p : Part ε} {e : ε} (hp : p ∈ parts) (he : p.failure? = some e) : Ended parts (.error e)
  | succeeded (h : ∀ p ∈ parts, p.succeeded = true) : Ended parts (.ok ())

/-- When the first part has succeeded, all have of which nothing is left. -/
theorem succeeded_behind {x : Nat × Dialogue (Except ε Unit)}
    {live : List (Nat × Dialogue (Except ε Unit))}
    (h : ∀ (i : Nat) p, parts[i]? = some p → i ∉ (x :: live).map Prod.fst → p.succeeded = true)
    (i : Nat) (p : Part ε) (hp : (parts.set x.1 (.finished (.ok ())))[i]? = some p)
    (hi : i ∉ live.map Prod.fst) : p.succeeded = true := by
  rw [List.getElem?_set] at hp
  split at hp
  · split at hp
    · obtain rfl := Option.some.inj hp
      rfl
    · contradiction
  · rename_i hne
    refine h i p hp ?_
    simp only [List.map_cons, List.mem_cons, not_or]
    exact ⟨Ne.symm hne, hi⟩

/-- Parts may make all their moves one after the other. -/
theorem oneByOne_interleaving {live : List (Nat × Dialogue (Except ε Unit))}
    (h : Running start moves parts) (hlive : Live live parts)
    (hothers : ∀ (i : Nat) p, parts[i]? = some p → i ∉ live.map Prod.fst → p.succeeded = true)
    (server : Server) (history : List Request) :
    let r := (oneByOne (live.map Prod.snd)).run server history
    ∃ ms parts', Interleaving start (moves ++ ms) parts' ∧
      sends (ms.map Prod.snd) = r.requests ∧ Ended parts' r.result := by
  induction live generalizing moves parts history with
  | nil =>
    refine ⟨[], parts, by simpa using h.run, rfl, .succeeded fun p hp => ?_⟩
    obtain ⟨i, hi⟩ := List.mem_iff_getElem?.mp hp
    exact hothers i p hi (by simp)
  | cons x live ih =>
    obtain ⟨i, d⟩ := x
    have hi := hlive.part (i, d) (.head _)
    have hlt := (List.getElem?_eq_some_iff.mp hi).1
    obtain ⟨ms, hrun, hsends⟩ := run_interleaving h hi server history
    rw [show oneByOne (((i, d) :: live).map Prod.snd) =
      d.andThen fun () => oneByOne (live.map Prod.snd) from rfl]
    cases hresult : (d.run server history).result with
    | error e =>
      rw [hresult] at hrun
      obtain ⟨herror, hrequests⟩ :=
        Dialogue.run_andThen_error (fun () => oneByOne (live.map Prod.snd)) hresult rfl
      refine ⟨ms, _, hrun, hsends.trans hrequests.symm, ?_⟩
      rw [herror]
      exact .failed (List.mem_of_getElem? (List.getElem?_set_self hlt)) rfl
    | ok _ =>
      rw [hresult] at hrun
      obtain ⟨hok, hrequests⟩ :=
        Dialogue.run_andThen_ok (fun () => oneByOne (live.map Prod.snd)) hresult rfl
      obtain ⟨ms', parts', hrun', hsends', hended⟩ := ih ⟨hrun, Running.set h.goes i rfl⟩
        (hlive.behind _) (succeeded_behind hothers) (history ++ (d.run server history).requests)
      rw [List.append_assoc] at hrun'
      refine ⟨ms ++ ms', parts', hrun', ?_, ?_⟩
      · rw [List.map_append, sends_append, hsends, hsends', hrequests]
      · rw [hok]
        exact hended

/-- The rounds are an interleaving of the parts that are left. -/
theorem rounds_interleaving (n : Nat) {live : List (Nat × Dialogue (Except ε Unit))}
    (h : Running start moves parts) (hlive : Live live parts)
    (hothers : ∀ (i : Nat) p, parts[i]? = some p → i ∉ live.map Prod.fst → p.succeeded = true)
    (server : Server) (history : List Request) :
    let r := (rounds n (live.map Prod.snd)).run server history
    ∃ ms parts', Interleaving start (moves ++ ms) parts' ∧
      sends (ms.map Prod.snd) = r.requests ∧ Ended parts' r.result := by
  induction n generalizing moves parts live history with
  | zero => exact oneByOne_interleaving h hlive hothers server history
  | succ n ih =>
    obtain ⟨ms, parts', hrun, hsends, hsame, hleft⟩ := round_interleaving h hlive server history
    rw [rounds]
    cases hresult : ((round (live.map Prod.snd)).run server history).result with
    | error e =>
      rw [hresult] at hleft
      obtain ⟨herror, hrequests⟩ := Dialogue.run_andThen_error (rounds n) hresult rfl
      cases hleft with
      | failed hp he =>
        refine ⟨ms, parts', hrun, hsends.trans hrequests.symm, ?_⟩
        rw [herror]
        exact .failed hp he
    | ok left =>
      rw [hresult] at hleft
      obtain ⟨hok, hrequests⟩ := Dialogue.run_andThen_ok (rounds n) hresult rfl
      cases hleft with
      | @live live' hgoes hlive' hplaces hothers'' =>
        have hothers' : ∀ (i : Nat) p, parts'[i]? = some p → i ∉ live'.map Prod.fst →
            p.succeeded = true := by
          intro i p hi hother
          by_cases hmem : i ∈ live.map Prod.fst
          · obtain ⟨q, hq, hsuccess⟩ := hothers'' i hmem hother
            obtain rfl : p = q := Option.some.inj (hi.symm.trans hq)
            exact hsuccess
          · exact hothers i p (hsame i hmem ▸ hi) hmem
        obtain ⟨ms', parts'', hrun', hsends', hended⟩ := ih ⟨hrun, hgoes⟩ hlive' hothers'
          (history ++ ((round (live.map Prod.snd)).run server history).requests)
        rw [List.append_assoc] at hrun'
        refine ⟨ms ++ ms', parts'', hrun', ?_, ?_⟩
        · rw [List.map_append, sends_append, hsends, hsends', hrequests]
        · rw [hok]
          exact hended

/-- Conversations that take turns make the moves of an interleaving. -/
theorem Interleaving.of_rounds {ds : List (Dialogue (Except ε Unit))}
    {xss : List (List (Dialogue.Application ε))} (hhold : Dialogue.Hold ds xss) (n : Nat)
    (server : Server) (history : List Request) :
    let r := (rounds n ds).run server history
    ∃ moves parts, Interleaving (ds.map .of) moves parts ∧
      sends (moves.map Prod.snd) = r.requests ∧ jointResult? parts = some r.result := by
  have hgoes : ∀ q ∈ ds.map Part.of, q.failure? = none := by
    intro q hq
    obtain ⟨i, hi⟩ := List.mem_iff_getElem?.mp hq
    obtain ⟨xs, -, hprogress⟩ := progress_at hhold .start hi
    cases hfailure : q.failure? with
    | none => rfl
    | some e =>
      obtain ⟨x, -, a, reason, hlast, -⟩ := hprogress.of_failure hfailure
      simp at hlast
  have hfst : ((List.range ds.length).zip ds).map Prod.fst = List.range ds.length :=
    List.map_fst_zip (by simp)
  have hsnd : ((List.range ds.length).zip ds).map Prod.snd = ds := List.map_snd_zip (by simp)
  have hlive : Live ((List.range ds.length).zip ds) (ds.map .of) := by
    refine ⟨by rw [hfst]; exact List.nodup_range, fun x hx => ?_⟩
    obtain ⟨k, hk⟩ := List.mem_iff_getElem?.mp hx
    obtain ⟨hrange, hd⟩ := List.getElem?_zip_eq_some.mp hk
    obtain ⟨hlt, heq⟩ := List.getElem?_eq_some_iff.mp hrange
    rw [List.getElem_range] at heq
    rw [← heq, List.getElem?_map, hd]
    rfl
  have hothers : ∀ (i : Nat) p, (ds.map Part.of)[i]? = some p →
      i ∉ ((List.range ds.length).zip ds).map Prod.fst → p.succeeded = true := by
    intro i p hi hother
    obtain ⟨hlt, -⟩ := List.getElem?_eq_some_iff.mp hi
    rw [hfst, List.mem_range] at hother
    exact absurd (List.length_map Part.of ▸ hlt) hother
  obtain ⟨moves, parts, hrun, hsends, hended⟩ :=
    rounds_interleaving n ⟨.start, hgoes⟩ hlive hothers server history
  rw [hsnd] at hsends hended
  refine ⟨moves, parts, hrun, hsends, ?_⟩
  cases hresult : ((rounds n ds).run server history).result with
  | ok _ =>
    rw [hresult] at hended
    cases hended with
    | succeeded h => exact jointResult?_ok_iff.mpr h
  | error e =>
    rw [hresult] at hended
    cases hended with
    | failed hp he =>
      obtain ⟨i, hi⟩ := List.mem_iff_getElem?.mp hp
      exact jointResult?_of_failure hhold hrun hi he

end BackingServices.Cluster
