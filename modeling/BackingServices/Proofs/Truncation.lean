import BackingServices.Proofs.DryRun

/-!
# Dry runs that run out of room

A writer with room for a number of bytes holds, after any deployments were submitted, the first bytes
up to that number of what a writer without a limit would hold.  What comes of a submission can be read
off the length of the stream before and behind its document, and off nothing else: that is the
invariant of a run (`Truncated`), from which its results follow (`submitEach_truncated`).
-/

namespace BackingServices

namespace Stream

/-! ## Runs of submissions -/

/-- Submits deployments one after the other, whatever comes of each of them. -/
def submitEach (w : Writer) (s : Stream) : List Deployment → Stream × List (Except Stop Unit)
  | [] => (s, [])
  | d :: ds =>
    let (s, result) := s.submit w d
    let (s, results) := s.submitEach w ds
    (s, result :: results)

theorem submitEach_append (w : Writer) (s : Stream) (ds es : List Deployment) :
    s.submitEach w (ds ++ es) =
      (((s.submitEach w ds).1.submitEach w es).1,
        (s.submitEach w ds).2 ++ ((s.submitEach w ds).1.submitEach w es).2) := by
  induction ds generalizing s with
  | nil => rfl
  | cons d ds ih => simp only [List.cons_append, submitEach, ih]

theorem submitEach_concat (w : Writer) (s : Stream) (ds : List Deployment) (d : Deployment) :
    s.submitEach w (ds ++ [d]) =
      (((s.submitEach w ds).1.submit w d).1,
        (s.submitEach w ds).2 ++ [((s.submitEach w ds).1.submit w d).2]) :=
  submitEach_append w s ds [d]

theorem length_submitEach (w : Writer) (s : Stream) (ds : List Deployment) :
    (s.submitEach w ds).2.length = ds.length := by
  induction ds generalizing s with
  | nil => rfl
  | cons d ds ih => simp only [submitEach, List.length_cons, ih]

/-- What comes of a deployment depends on those before it only. -/
theorem getElem?_submitEach (w : Writer) (s : Stream) (before : List Deployment) (d : Deployment)
    (rest : List Deployment) :
    (s.submitEach w (before ++ d :: rest)).2[before.length]? =
      some ((s.submitEach w before).1.submit w d).2 := by
  rw [submitEach_append, ← length_submitEach w s before, List.getElem?_append_right (Nat.le_refl _),
    Nat.sub_self]
  rfl

/-! ## Submissions to a broken stream -/

/-- Nothing is written to a stream that is broken. -/
theorem submit_of_broken {s : Stream} (w : Writer) (h : s.broken = true) {d : Deployment}
    (hwait : d.blockUntilReady = false) :
    s.submit w d = (s, .error (.failure (.submission .writerBroken))) := by
  rw [submit, HelmChart.ofDeployment_ready hwait]
  exact if_pos h

theorem submit_of_sound {s : Stream} (w : Writer) (h : s.broken = false) {d : Deployment}
    (hwait : d.blockUntilReady = false) :
    s.submit w d = s.write w (HelmChart.installing d).pieces := by
  rw [submit, HelmChart.ofDeployment_ready hwait]
  exact if_neg (ne_true_of_eq_false h)

end Stream

/-! ## What is left of a stream -/

/-- What comes of submitting a deployment that does not ask to wait, to a writer with room for a number
of bytes, if a writer without a limit held so many before its document and so many behind it. -/
def Writer.verdict (w : Writer) (limit before behind : Nat) : Except Stop Unit :=
  if behind ≤ limit then w.passOn
  else if w.atLimit = .breakDown ∧ limit < before then .error (.failure (.submission .writerBroken))
  else .error w.atLimit.stop

/-- A stream holds the first bytes of a longer one, as many as there is room for, and is broken if the
writer broke down for the others. -/
structure Truncated (w : Writer) (limit : Nat) (whole : List UInt8) (s : Stream) : Prop where
  held : s.held = whole.take limit
  broken : s.broken = true ↔ w.atLimit = .breakDown ∧ limit < whole.length

namespace Truncated

variable {w : Writer} {limit : Nat} {whole : List UInt8} {s : Stream}

theorem empty (w : Writer) (limit : Nat) : Truncated w limit [] .empty := by
  refine ⟨List.take_nil.symm, ?_⟩
  constructor
  · intro h
    cases h
  · rintro ⟨-, h⟩
    exact absurd h (Nat.not_lt_zero _)

/-- The room that is left is what the longer stream leaves. -/
theorem room_eq (h : Truncated w limit whole s) (hlimit : w.limit? = some limit) (count : Nat) :
    s.room w count = min count (limit - whole.length) := by
  rw [Stream.room, hlimit, h.held, List.length_take]
  simp only
  omega

/-- A document is added to both, as far as there is room for it. -/
theorem submit_ready (h : Truncated w limit whole s) (hlimit : w.limit? = some limit)
    {d : Deployment} (hwait : d.blockUntilReady = false) :
    let longer := whole ++ Text.encode (HelmChart.installing d).document
    Truncated w limit longer (s.submit w d).1 ∧
      (s.submit w d).2 = w.verdict limit whole.length longer.length := by
  have hmark := HelmChart.length_pieces_pos (HelmChart.installing d)
  rw [← HelmChart.flatten_pieces]
  generalize hpieces : (HelmChart.installing d).pieces = pieces at hmark ⊢
  intro longer
  have hlength : longer.length = whole.length + pieces.flatten.length := List.length_append
  have hroom := h.room_eq hlimit pieces.flatten.length
  cases hbroken : s.broken with
  | true =>
    -- the longer stream was past the limit before, so that nothing is missing of its first bytes
    obtain ⟨hdown, hpast⟩ := h.broken.mp hbroken
    rw [Stream.submit_of_broken w hbroken hwait, Writer.verdict, if_neg (by omega),
      if_pos ⟨hdown, hpast⟩]
    refine ⟨⟨?_, iff_of_true hbroken ⟨hdown, by omega⟩⟩, rfl⟩
    rw [h.held, List.take_append_of_le_length (Nat.le_of_lt hpast)]
  | false =>
    have hbefore : ¬ (w.atLimit = .breakDown ∧ limit < whole.length) := by
      rw [← h.broken, hbroken]
      exact Bool.false_ne_true
    have hheld (count : Nat) (hcount : count = min pieces.flatten.length (limit - whole.length)) :
        s.held ++ pieces.flatten.take count = longer.take limit := by
      rw [h.held, List.take_append, hcount, List.take_eq_take_min (i := limit - whole.length),
        Nat.min_comm]
    rw [Stream.submit_of_sound w hbroken hwait, hpieces, Writer.verdict]
    by_cases hfits : longer.length ≤ limit
    · have hall : s.room w pieces.flatten.length = pieces.flatten.length := by omega
      rw [Stream.write_fits hall, if_pos hfits]
      refine ⟨⟨?_, ?_⟩, rfl⟩
      · rw [← hheld _ (hall.symm.trans hroom), List.take_length]
        rfl
      · refine iff_of_false (ne_true_of_eq_false hbroken) ?_
        rintro ⟨-, hpast⟩
        omega
    · have hsome : s.room w pieces.flatten.length < pieces.flatten.length := by omega
      rw [Stream.write_full hsome, if_neg hfits, if_neg hbefore]
      refine ⟨⟨hheld _ hroom, ?_⟩, rfl⟩
      simp only [Stream.fill, hbroken, Bool.false_or, decide_eq_true_eq]
      exact ⟨fun hdown => ⟨hdown, Nat.lt_of_not_le hfits⟩, And.left⟩

end Truncated

namespace Stream

variable {w : Writer} {limit : Nat}

theorem after_ready (ds : List Deployment) {d : Deployment} (hwait : d.blockUntilReady = false) :
    (after (ds ++ [d])).held =
      (after ds).held ++ Text.encode (HelmChart.installing d).document := by
  rw [after_concat, submit_ready (after_broken ds) hwait]

theorem after_blocking (ds : List Deployment) {d : Deployment} (hwait : d.blockUntilReady = true) :
    (after (ds ++ [d])).held = (after ds).held := by
  rw [after_concat, submit_blocking _ _ hwait]

theorem length_after_le (ds : List Deployment) (d : Deployment) :
    (after ds).held.length ≤ (after (ds ++ [d])).held.length := by
  cases hwait : d.blockUntilReady with
  | true => exact Nat.le_of_eq (congrArg List.length (after_blocking ds hwait).symm)
  | false =>
    rw [after_ready ds hwait, List.length_append]
    exact Nat.le_add_right _ _

/-- After any deployments a stream is truncated, as the invariant of one submission says. -/
theorem submitEach_invariant (hlimit : w.limit? = some limit) (ds : List Deployment) :
    Truncated w limit (after ds).held (empty.submitEach w ds).1 := by
  induction ds using List.reverseRecOn with
  | nil => exact .empty w limit
  | append_singleton ds d ih =>
    rw [submitEach_concat]
    cases hwait : d.blockUntilReady with
    | true =>
      rw [submit_blocking _ _ hwait, after_blocking ds hwait]
      exact ih
    | false =>
      rw [after_ready ds hwait]
      exact (ih.submit_ready hlimit hwait).1

/-- What comes of a deployment that does not ask to wait, behind any others. -/
theorem submit_submitEach (hlimit : w.limit? = some limit) (before : List Deployment) {d : Deployment}
    (hwait : d.blockUntilReady = false) :
    ((empty.submitEach w before).1.submit w d).2 =
      w.verdict limit (after before).held.length (after (before ++ [d])).held.length := by
  rw [after_ready before hwait]
  exact ((submitEach_invariant hlimit before).submit_ready hlimit hwait).2

end Stream

namespace Writer

variable {w : Writer} {limit before behind : Nat}

theorem verdict_ok_iff :
    w.verdict limit before behind = .ok () ↔ w.flushFault? = none ∧ behind ≤ limit := by
  rw [verdict, passOn]
  by_cases hfits : behind ≤ limit
  · cases w.flushFault? with
    | none => simp [hfits]
    | some reason => simp [hfits]
  · by_cases hbroken : w.atLimit = .breakDown ∧ limit < before
    · simp [hfits, hbroken]
    · simp [hfits, hbroken]

/-- A writer breaks down for a document that does not fit, if there was room for all before it. -/
theorem verdict_breakdown_iff :
    w.verdict limit before behind = .error .breakdown ↔
      w.atLimit = .breakDown ∧ before ≤ limit ∧ limit < behind := by
  rw [verdict, passOn]
  by_cases hfits : behind ≤ limit
  · have hinside := Nat.not_lt.mpr hfits
    cases w.flushFault? with
    | none => simp [hfits, hinside]
    | some reason => simp [hfits, hinside]
  · have hbehind := Nat.lt_of_not_le hfits
    cases hdown : w.atLimit with
    | refuse reason => simp [hfits, AtLimit.stop]
    | takeNothing => simp [hfits, AtLimit.stop]
    | breakDown =>
      by_cases hpast : limit < before
      · have hout := Nat.not_le.mpr hpast
        simp [hfits, hpast, hout]
      · have hin := Nat.le_of_not_lt hpast
        simp [hfits, hpast, hbehind, hin, AtLimit.stop]

end Writer

namespace Stream

variable {w : Writer} {limit : Nat}

/-- A run in which the writer broke down has come past its limit. -/
theorem past_of_breakdown (hlimit : w.limit? = some limit) {ds : List Deployment}
    (h : .error .breakdown ∈ (empty.submitEach w ds).2) :
    w.atLimit = .breakDown ∧ limit < (after ds).held.length := by
  induction ds using List.reverseRecOn with
  | nil => cases h
  | append_singleton ds d ih =>
    have hle := length_after_le ds d
    rw [submitEach_concat] at h
    rcases List.mem_append.mp h with hearlier | hlast
    · obtain ⟨hdown, hpast⟩ := ih hearlier
      exact ⟨hdown, Nat.lt_of_lt_of_le hpast hle⟩
    · have hbreakdown := (List.mem_singleton.mp hlast).symm
      cases hwait : d.blockUntilReady with
      | true =>
        rw [submit_blocking _ _ hwait] at hbreakdown
        cases hbreakdown
      | false =>
        rw [submit_submitEach hlimit ds hwait, Writer.verdict_breakdown_iff] at hbreakdown
        exact ⟨hbreakdown.1, hbreakdown.2.2⟩

/-- Whatever a writer with room for a number of bytes does at its limit, and whether it passes on what it
takes or not: after any deployments it holds the first bytes, up to that number, of what a writer
without a limit would hold.  A deployment succeeds if and only if it does not ask to wait, the writer
passes on what it takes, and there is room for all documents up to its own.  One that asks to wait is
refused for that, and nothing is written.  The writer breaks down for the document for which there is
not enough room any more, if it is one that does.  From then on all other deployments fail for it, and
nothing is written. -/
theorem submitEach_truncated (limit : Nat) (atLimit : AtLimit) (flushFault? : Option String) :
    let w : Writer := ⟨some limit, atLimit, flushFault?⟩
    let run (ds : List Deployment) := empty.submitEach w ds
    let whole (ds : List Deployment) := (after ds).held
    (∀ ds, (run ds).1.contents = (whole ds).take limit ∧ (run ds).2.length = ds.length) ∧
      ∀ before d rest, ∃ result, (run (before ++ d :: rest)).2[before.length]? = some result ∧
        (result = .ok () ↔
          d.blockUntilReady = false ∧ flushFault? = none ∧ (whole (before ++ [d])).length ≤ limit) ∧
        (d.blockUntilReady = true →
          result = .error (.failure (.submission (.blocking d.releaseName))) ∧
            (run (before ++ [d])).1 = (run before).1) ∧
        (result = .error .breakdown ↔ d.blockUntilReady = false ∧ atLimit = .breakDown ∧
          (whole before).length ≤ limit ∧ limit < (whole (before ++ [d])).length) ∧
        (.error .breakdown ∈ (run before).2 → d.blockUntilReady = false →
          result = .error (.failure (.submission .writerBroken)) ∧
            (run (before ++ [d])).1 = (run before).1) := by
  intro w run whole
  have hlimit : w.limit? = some limit := rfl
  refine ⟨fun ds => ⟨(submitEach_invariant hlimit ds).held, length_submitEach w empty ds⟩,
    fun before d rest => ⟨_, getElem?_submitEach w empty before d rest, ?_⟩⟩
  have hstate : (run (before ++ [d])).1 = ((run before).1.submit w d).1 :=
    congrArg Prod.fst (submitEach_concat w empty before d)
  rw [hstate]
  cases hwait : d.blockUntilReady with
  | true =>
    rw [submit_blocking _ _ hwait]
    exact ⟨⟨nofun, nofun⟩, fun _ => ⟨rfl, rfl⟩, ⟨nofun, nofun⟩, fun _ => nofun⟩
  | false =>
    have hresult := submit_submitEach hlimit before hwait
    refine ⟨?_, nofun, ?_, fun hbreakdown _ => ?_⟩
    · rw [hresult, Writer.verdict_ok_iff]
      simp [w, whole]
    · rw [hresult, Writer.verdict_breakdown_iff]
      simp [w, whole]
    · have hpast := past_of_breakdown hlimit hbreakdown
      have hbroken := (submitEach_invariant hlimit before).broken.mpr hpast
      rw [submit_of_broken w hbroken hwait]
      exact ⟨rfl, rfl⟩

end Stream

end BackingServices
