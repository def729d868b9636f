import BackingServices.Proofs.Yaml.Style
import BackingServices.Yaml.Token

/-!
# From token to token

A lexer is *settled* if it stands in front of the next token: what lies between has been
passed and the blocks to the right of it are closed (`Lexer.settle`).  `Lexer.step` goes
from there over one token to the next one, and `Lexer.Passes` is any number of steps.

Which tokens are handed out by a step and which are still held back then is of no
interest for what is read, so `Lexer.Reads` says only which kinds of tokens were added.
It composes (`Reads.trans`), and the end of the stream is where it meets the tokens of a
text (`tokensFuel_of_reads`).

`Lexer.Ready` describes a settled lexer between two nodes.  The lemmas of this module
say, for each kind of token that block style uses, from which ready state to which ready
state it leads.
-/

namespace BackingServices.Yaml

namespace Lexer

/-! ## Steps -/

/-- Passes what is in front of the next token and closes the blocks to the right of it. -/
def settle (l : Lexer) : Except Fault Lexer := do
  let l ← l.skipGap.refreshKeys
  .ok (l.closeBlocks l.place.column)

/-- The token that is next, or the end of the stream. -/
def advance (s : Lexer) : Except Fault Lexer :=
  match s.place.rest with
  | [] => s.streamEnd
  | c :: _ => s.tokenAt c

/-- From in front of one token to in front of the next one, with the tokens that are handed out. -/
def step (s : Lexer) : Except Fault (List Token × Lexer) := do
  let l ← (← s.advance).refreshKeys
  let s' ← l.release.2.settle
  .ok (l.release.1, s')

theorem next_eq (l : Lexer) : l.next = (do (← (← l.settle).advance).refreshKeys) := by
  rw [next, settle]
  cases l.skipGap.refreshKeys with
  | error e => rfl
  | ok r =>
    simp only [bind, Except.bind, advance]
    cases (r.closeBlocks r.place.column).place.rest <;> rfl

/-- Steps over any number of tokens, with the tokens that are handed out. -/
inductive Passes : Lexer → List Token → Lexer → Prop where
  | refl (s : Lexer) : Passes s [] s
  | step {s s' s'' : Lexer} {ts us : List Token} (h : s.step = .ok (ts, s'))
      (shorter : s'.place.rest.length < s.place.rest.length) (rest : Passes s' us s'') :
      Passes s (ts ++ us) s''

theorem Passes.trans {s s' s'' : Lexer} {ts us : List Token} (h : Passes s ts s')
    (h' : Passes s' us s'') : Passes s (ts ++ us) s'' := by
  induction h with
  | refl => exact h'
  | step hstep shorter _ ih =>
    rw [List.append_assoc]
    exact .step hstep shorter (ih h')

/-- The tokens that are handed out on the way to a state are those in front of the tokens that are
found from there on. -/
theorem tokensFuel_of_passes {s s' : Lexer} {ts : List Token} (h : Passes s ts s')
    (hlast : ∀ t ∈ ts, t.kind ≠ .streamEnd) {l : Lexer} (hl : l.settle = .ok s) {n : Nat}
    (hn : s.place.rest.length < n) :
    ∃ (l' : Lexer) (n' : Nat), l'.settle = .ok s' ∧ s'.place.rest.length < n' ∧
      l.tokensFuel n = (ts ++ (l'.tokensFuel n').1, (l'.tokensFuel n').2) := by
  induction h generalizing l n with
  | refl s => exact ⟨l, n, hl, hn, rfl⟩
  | @step s r s' ts us hstep shorter _ ih =>
    obtain _ | n := n
    · contradiction
    rw [step] at hstep
    cases hadvance : s.advance with
    | error e => simp [hadvance, bind, Except.bind] at hstep
    | ok l₁ =>
      cases hrefresh : l₁.refreshKeys with
      | error e => simp [hadvance, hrefresh, bind, Except.bind] at hstep
      | ok l₂ =>
        cases hsettle : l₂.release.2.settle with
        | error e => simp [hadvance, hrefresh, hsettle, bind, Except.bind] at hstep
        | ok r' =>
          simp only [hadvance, hrefresh, hsettle, bind, Except.bind, Except.ok.injEq,
            Prod.mk.injEq] at hstep
          obtain ⟨rfl, rfl⟩ := hstep
          obtain ⟨l', n', hl', hn', htokens⟩ :=
            ih (fun t ht => hlast t (List.mem_append_right _ ht)) hsettle (n := n) (by omega)
          refine ⟨l', n', hl', hn', ?_⟩
          have hnext : l.next = .ok l₂ := by
            simp [next_eq, hl, hadvance, hrefresh, bind, Except.bind]
          have hgo : l₂.release.1.getLast?.any isLast = false := by
            cases hget : l₂.release.1.getLast? with
            | none => rfl
            | some t =>
              have := hlast t (List.mem_append_left _ (List.mem_of_getLast? hget))
              simpa [isLast] using this
          rw [tokensFuel, hnext]
          simp only [hgo, Bool.false_eq_true, if_false, htokens, List.append_assoc]

/-! ## Kinds of tokens -/

/-- The kinds of the tokens that are held back. -/
def heldKinds (l : Lexer) : List TokenKind := l.held.map Token.kind

/-- From one settled state to another one tokens of some kinds were added. -/
def Reads (s : Lexer) (kinds : List TokenKind) (s' : Lexer) : Prop :=
  ∃ ts, Passes s ts s' ∧ ts.map Token.kind ++ s'.heldKinds = s.heldKinds ++ kinds

theorem Reads.trans {s s' s'' : Lexer} {ks ks' : List TokenKind} (h : Reads s ks s')
    (h' : Reads s' ks' s'') : Reads s (ks ++ ks') s'' := by
  obtain ⟨ts, hpasses, hkinds⟩ := h
  obtain ⟨us, hpasses', hkinds'⟩ := h'
  refine ⟨ts ++ us, hpasses.trans hpasses', ?_⟩
  rw [List.map_append, List.append_assoc, hkinds', ← List.append_assoc, hkinds, List.append_assoc]

theorem release_held (l : Lexer) : l.release.1 ++ l.release.2.held = l.held := by
  simp [release]

theorem heldKinds_release (l : Lexer) :
    l.heldKinds = l.release.1.map Token.kind ++ l.release.2.heldKinds := by
  rw [heldKinds, heldKinds, ← List.map_append, release_held]

theorem Reads.of_step {s l l' s' : Lexer} {ks ks' : List TokenKind} (hadvance : s.advance = .ok l)
    (hrefresh : l.refreshKeys = .ok l') (hsettle : l'.release.2.settle = .ok s')
    (hkinds : l'.heldKinds = s.heldKinds ++ ks)
    (hclosed : s'.heldKinds = l'.release.2.heldKinds ++ ks')
    (shorter : s'.place.rest.length < s.place.rest.length) : Reads s (ks ++ ks') s' := by
  refine ⟨l'.release.1 ++ [], .step ?_ shorter (.refl s'), ?_⟩
  · simp [step, hadvance, hrefresh, hsettle, bind, Except.bind]
  · rw [List.append_nil, hclosed, ← List.append_assoc, ← heldKinds_release, hkinds,
      List.append_assoc]

/-! ## Between nodes -/

/-- The least column of a node inside the innermost of some blocks. -/
def leastIn : List Nat → Nat
  | [] => 0
  | column :: _ => column + 1

theorem least_eq (l : Lexer) : l.least = leastIn l.blocks := by
  rw [least]
  cases l.blocks <;> rfl

/-- The tokens that close the blocks to the right of a column. -/
def closings (blocks : List Nat) (column : Nat) : List TokenKind :=
  (blocks.takeWhile fun c => column < c).map fun _ => .blockEnd

/-- The blocks that stay open at a column. -/
def remaining (blocks : List Nat) (column : Nat) : List Nat := blocks.dropWhile fun c => column < c

/-- What is known of a settled lexer between two nodes: what is left, the column, the open blocks and
whether a key may begin. -/
structure Ready (s : Lexer) (rest : List Char) (column : Nat) (blocks : List Nat)
    (keyAllowed : Bool) : Prop where
  /-- What is left. -/
  rest : s.place.rest = rest
  /-- The column. -/
  column : s.place.column = column
  /-- The open blocks. -/
  blocks : s.blocks = blocks
  /-- Whether a key may begin. -/
  keyAllowed : s.keyAllowed = keyAllowed
  /-- No node waits for its colon. -/
  key : s.key? = none
  /-- No flow collection is open. -/
  outer : s.outerKeys = []

/-- A node that waits for its colon may do so in vain, and its line has not begun after the one of a
mark. -/
def CanLapse (key? : Option PossibleKey) (m : Mark) : Prop :=
  ∀ k, key? = some k → k.required = false ∧ k.mark.line ≤ m.line

/-- A node that waits for its colon may still get it at a mark. -/
def Waits (m : Mark) (key? : Option PossibleKey) : Prop :=
  ∀ k, key? = some k → m.line ≤ k.mark.line ∧ m.index ≤ k.mark.index + simpleKeyReach

theorem refreshed_waits {l : Lexer} {key? : Option PossibleKey} (h : Waits l.place.mark key?) :
    l.refreshed key? = .ok key? := by
  cases key? with
  | none => rfl
  | some k =>
    obtain ⟨hline, hindex⟩ := h k rfl
    rw [refreshed, if_neg (by omega)]

/-- In front of the next token nothing changes as long as all nodes may wait. -/
theorem settle_waits {l : Lexer} (hkey : Waits l.place.mark l.key?)
    (houter : ∀ key? ∈ l.outerKeys, Waits l.place.mark key?) (ht : startsToken l.place.rest)
    (hclose : l.closeBlocks l.place.column = l) : l.refreshKeys = .ok l ∧ l.settle = .ok l := by
  have hmap : ∀ keys : List (Option PossibleKey), (∀ key? ∈ keys, Waits l.place.mark key?) →
      keys.mapM l.refreshed = .ok keys := by
    intro keys hkeys
    induction keys with
    | nil => rfl
    | cons key? keys ih =>
      rw [List.mapM_cons, refreshed_waits (hkeys key? List.mem_cons_self),
        ih fun k hk => hkeys k (.tail _ hk)]
      rfl
  have hrefresh : l.refreshKeys = .ok l := by
    rw [refreshKeys, hmap l.outerKeys.reverse fun k hk => houter k (List.mem_reverse.mp hk),
      refreshed_waits hkey]
    simp [bind, Except.bind]
  refine ⟨hrefresh, ?_⟩
  rw [settle, skipGap_token ht, hrefresh]
  simp [bind, Except.bind, hclose]

section Settling

variable {l : Lexer} (houter : l.outerKeys = [])
include houter

theorem refreshKeys_none (hkey : l.key? = none) : l.refreshKeys = .ok l := by
  obtain ⟨place, blocks, key?, outer, allowed, count, held⟩ := l
  simp only at hkey houter
  subst hkey houter
  rfl

/-- On a later line nothing waits for a colon any more. -/
theorem refreshKeys_lapse (hkey : ∀ k, l.key? = some k → k.required = false ∧
    k.mark.line < l.place.mark.line) : l.refreshKeys = .ok { l with key? := none } := by
  obtain ⟨place, blocks, key?, outer, allowed, count, held⟩ := l
  simp only at hkey houter
  subst houter
  cases key? with
  | none => rfl
  | some k =>
    obtain ⟨hrequired, hline⟩ := hkey k rfl
    simp [refreshKeys, refreshed, hline, hrequired, bind, Except.bind, pure, Except.pure]

/-- What waits for a colon either goes on to do so or does not any more. -/
theorem refreshKeys_canLapse {m : Mark} (hkey : CanLapse l.key? m) :
    ∃ key?, CanLapse key? m ∧ l.refreshKeys = .ok { l with key? := key? } := by
  obtain ⟨place, blocks, key?, outer, allowed, count, held⟩ := l
  simp only at hkey houter
  subst houter
  cases key? with
  | none => exact ⟨none, hkey, rfl⟩
  | some k =>
    obtain ⟨hrequired, hline⟩ := hkey k rfl
    by_cases hreach : k.mark.line < place.mark.line ∨ k.mark.index + simpleKeyReach < place.mark.index
    · refine ⟨none, by simp [CanLapse], ?_⟩
      simp [refreshKeys, refreshed, hreach, hrequired, bind, Except.bind, pure, Except.pure]
    · refine ⟨some k, hkey, ?_⟩
      simp [refreshKeys, refreshed, hreach, bind, Except.bind, pure, Except.pure]

theorem closeBlocks_eq (column : Nat) :
    l.closeBlocks column =
      { l with
        blocks := remaining l.blocks column
        held := l.held ++ (l.blocks.takeWhile fun c => column < c).map
          fun _ => ⟨.blockEnd, l.place.mark⟩ } := by
  have hdrop : ∀ bs : List Nat, bs.drop (bs.takeWhile fun c => column < c).length =
      bs.dropWhile fun c => column < c := by
    intro bs
    induction bs with
    | nil => rfl
    | cons b bs ih =>
      by_cases h : column < b
      · simp [h, ih]
      · simp [h]
  simp [closeBlocks, inFlow, houter, remaining, hdrop]

omit houter in
theorem closeBlocks_self {column : Nat} (h : leastIn l.blocks ≤ column + 1) :
    l.closeBlocks column = l := by
  have hclosed : (l.blocks.takeWhile fun c => column < c) = [] := by
    cases hblocks : l.blocks with
    | nil => rfl
    | cons b bs => exact List.takeWhile_cons_of_neg (by simpa [hblocks, leastIn] using h)
  simp [closeBlocks, hclosed]

theorem closeBlocks_ready {t : List Char} {column : Nat} (ht : l.place.rest = t)
    (hcolumn : l.place.column = column) (hkey : l.key? = none) :
    Ready (l.closeBlocks column) t column (remaining l.blocks column) l.keyAllowed ∧
      (l.closeBlocks column).heldKinds = l.heldKinds ++ closings l.blocks column := by
  rw [closeBlocks_eq houter]
  refine ⟨⟨ht, hcolumn, rfl, rfl, hkey, houter⟩, ?_⟩
  rw [heldKinds, List.map_append, List.map_map]
  rfl

/-- In front of a token of a later line. -/
theorem settle_token (hkey : ∀ k, l.key? = some k → k.required = false ∧
    k.mark.line < l.place.mark.line) {t : List Char} (ht : startsToken t)
    (hrest : l.place.rest = t) :
    ∃ s, l.settle = .ok s ∧
      Ready s t l.place.column (remaining l.blocks l.place.column) l.keyAllowed ∧
      s.heldKinds = l.heldKinds ++ closings l.blocks l.place.column := by
  refine ⟨_, ?_, closeBlocks_ready (l := { l with key? := none }) houter hrest rfl rfl⟩
  rw [settle, skipGap_token (hrest ▸ ht), refreshKeys_lapse houter hkey]
  rfl

/-- Behind a sign, with a space in front of the next token. -/
theorem settle_space (hkey : l.key? = none) {t : List Char} (ht : startsToken t)
    (hrest : l.place.rest = ' ' :: t) :
    ∃ s, l.settle = .ok s ∧
      Ready s t (l.place.column + 1) (remaining l.blocks (l.place.column + 1)) l.keyAllowed ∧
      s.heldKinds = l.heldKinds ++ closings l.blocks (l.place.column + 1) := by
  have hplace : l.place = ⟨spaces 1 ++ t, l.place.mark⟩ := by
    rw [← hrest.trans (by rfl : ' ' :: t = spaces 1 ++ t)]
  refine ⟨_, ?_, closeBlocks_ready (l := { l with place := ⟨t, l.place.mark.right 1⟩ }) houter rfl rfl
    hkey⟩
  rw [settle, skipGap_spaces ht hplace,
    refreshKeys_none (l := { l with place := ⟨t, l.place.mark.right 1⟩ }) houter hkey]
  rfl

/-- At the end of a line, with the next token on the line behind it. -/
theorem settle_line (hkey : CanLapse l.key? l.place.mark) {t : List Char} (ht : startsToken t)
    {column : Nat} (hrest : l.place.rest = '\n' :: (spaces column ++ t)) :
    ∃ s, l.settle = .ok s ∧ Ready s t column (remaining l.blocks column) true ∧
      s.heldKinds = l.heldKinds ++ closings l.blocks column := by
  have hplace : l.place = ⟨'\n' :: (spaces column ++ t), l.place.mark⟩ := by rw [← hrest]
  have hallowed : (l.keyAllowed || !l.inFlow) = true := by simp [inFlow, houter]
  refine ⟨_, ?_, closeBlocks_ready (l := { l with
    place := ⟨t, l.place.mark.below.right column⟩, keyAllowed := true, key? := none }) houter rfl
    (by simp [Place.column]) rfl⟩
  rw [settle, skipGap_line ht hplace, hallowed, refreshKeys_lapse]
  · simp [bind, Except.bind, Place.column]
  · exact houter
  · intro k hk
    obtain ⟨hrequired, hline⟩ := hkey k hk
    exact ⟨hrequired, Nat.lt_succ_of_le hline⟩

end Settling

/-! ## Signs that open a block -/

/-- The open blocks behind a sign at a column that opens a block if none is open there. -/
def opened (blocks : List Nat) (column : Nat) : List Nat :=
  if leastIn blocks ≤ column then column :: blocks else blocks

/-- The token of the block that a sign opens. -/
def opening (kind : TokenKind) (blocks : List Nat) (column : Nat) : List TokenKind :=
  if leastIn blocks ≤ column then [kind] else []

theorem remaining_eq {blocks : List Nat} {column : Nat} (h : leastIn blocks ≤ column + 1) :
    remaining blocks column = blocks := by
  cases blocks with
  | nil => rfl
  | cons b bs => exact List.dropWhile_cons_of_neg (by simpa [leastIn] using h)

theorem closings_eq {blocks : List Nat} {column : Nat} (h : leastIn blocks ≤ column + 1) :
    closings blocks column = [] := by
  cases blocks with
  | nil => rfl
  | cons b bs =>
    rw [closings, List.takeWhile_cons_of_neg (by simpa [leastIn] using h)]
    rfl

theorem leastIn_opened {blocks : List Nat} {column : Nat} (h : leastIn blocks ≤ column + 1) :
    leastIn (opened blocks column) = column + 1 := by
  rw [opened]
  split
  · rfl
  · omega

theorem opened_opened {blocks : List Nat} {column : Nat} (h : leastIn blocks ≤ column + 1) :
    opened (opened blocks column) column = opened blocks column := by
  rw [opened, leastIn_opened h, if_neg (by omega)]

theorem opening_opened (kind : TokenKind) {blocks : List Nat} {column : Nat}
    (h : leastIn blocks ≤ column + 1) : opening kind (opened blocks column) column = [] := by
  rw [opening, leastIn_opened h, if_neg (by omega)]

/-- The state behind a sign of one character. -/
def signed (s : Lexer) (opener kind : TokenKind) : Lexer :=
  { s with
    place := s.place.skip 1
    blocks := opened s.blocks s.place.column
    keyAllowed := true
    held := s.held ++
      (opening opener s.blocks s.place.column ++ [kind]).map fun k => ⟨k, s.place.mark⟩ }

theorem openBySign_eq {s : Lexer} (houter : s.outerKeys = []) (hallowed : s.keyAllowed = true)
    (kind : TokenKind) (problem : Problem) :
    s.openBySign kind problem = .ok { s with
      blocks := opened s.blocks s.place.column
      held := s.held ++ (opening kind s.blocks s.place.column).map fun k => ⟨k, s.place.mark⟩ } := by
  obtain ⟨place, bs, key?, outer, allowed, count, held⟩ := s
  simp only at houter hallowed
  subst houter hallowed
  simp only [openBySign, openBlock, inFlow, least_eq, opened, opening, List.isEmpty_nil, Bool.not_true,
    Bool.false_eq_true, if_false, if_true]
  split <;> simp [addAt]

section Signs

variable {s : Lexer} {t : List Char} {column : Nat} {blocks : List Nat}

theorem Ready.place_eq {allowed : Bool} (hs : Ready s t column blocks allowed) :
    s.place = ⟨t, s.place.mark⟩ := by rw [← hs.rest]

/-- What begins with a sign and a blank is not the mark of a document. -/
theorem Ready.not_atMark {c : Char} {allowed : Bool}
    (hs : Ready s (c :: ' ' :: t) column blocks allowed) : s.place.atMark = false := by
  rw [hs.place_eq]
  simp [Place.atMark]

theorem advance_dash (hs : Ready s ('-' :: ' ' :: t) column blocks true) :
    s.advance = .ok (s.signed .blockSequence .dash) := by
  have hsign : s.advance = s.dash := by
    simp [advance, hs.rest, tokenAt, hs.not_atMark, Place.atIndicator, blankNext, isBlank_space]
  rw [hsign, dash, openBySign_eq hs.outer hs.keyAllowed]
  simp [dropKey, hs.key, signed, addSign, addAt, bind, Except.bind]

theorem advance_questionMark (hs : Ready s ('?' :: ' ' :: t) column blocks true) :
    s.advance = .ok (s.signed .blockMapping .key) := by
  have hsign : s.advance = s.questionMark := by
    simp [advance, hs.rest, tokenAt, hs.not_atMark, Place.atIndicator, blankNext, isBlank_space]
  rw [hsign, questionMark, openBySign_eq hs.outer hs.keyAllowed]
  simp [dropKey, hs.key, signed, addSign, addAt, inFlow, hs.outer, bind, Except.bind]

theorem advance_colon (hs : Ready s (':' :: ' ' :: t) column blocks true) :
    s.advance = .ok (s.signed .blockMapping .value) := by
  have hsign : s.advance = s.colon := by
    simp [advance, hs.rest, tokenAt, hs.not_atMark, Place.atIndicator, blankNext, isBlank_space]
  rw [hsign, colon]
  simp only [hs.key]
  rw [openBySign_eq hs.outer hs.keyAllowed]
  simp [signed, addSign, addAt, inFlow, hs.outer, bind, Except.bind]

/-- Behind a sign or the colon of a simple key, from a settled state on: tokens of some kinds were
added, and what waited for a colon has got it.  Behind a sign a key may begin at once. -/
structure Behind (s l : Lexer) (kinds : List TokenKind) (u : List Char) (column : Nat)
    (blocks : List Nat) (sign : Bool) : Prop where
  /-- What is left. -/
  rest : l.place.rest = u
  /-- The place is to the right of the column of the innermost block. -/
  right : column < l.place.column
  /-- A sign has one character. -/
  next : sign = true → l.place.column = column + 1
  /-- The open blocks. -/
  blocks : l.blocks = blocks
  /-- Whether a key may begin here. -/
  keyAllowed : l.keyAllowed = sign
  /-- No node waits for its colon. -/
  key : l.key? = none
  /-- No flow collection is open. -/
  outer : l.outerKeys = []
  /-- What is read when the next token is reached. -/
  reads : ∀ s' ks, l.settle = .ok s' → s'.heldKinds = l.heldKinds ++ ks →
    s'.place.rest.length ≤ u.length → Reads s (kinds ++ ks) s'

theorem exists_behind_sign {c : Char} (hs : Ready s (c :: t) column blocks true)
    {opener kind : TokenKind} (hadvance : s.advance = .ok (s.signed opener kind)) :
    ∃ l, Behind s l (opening opener blocks column ++ [kind]) t column (opened blocks column) true := by
  have hrefresh : (s.signed opener kind).refreshKeys = .ok (s.signed opener kind) :=
    refreshKeys_none hs.outer hs.key
  have hcolumn : (s.signed opener kind).release.2.place.column = column + 1 := by
    simp [release, signed, Place.skip, Place.column, ← hs.column]
  refine ⟨(s.signed opener kind).release.2, ?_, ?_, fun _ => hcolumn, ?_, rfl, hs.key, hs.outer, ?_⟩
  · simp [release, signed, Place.skip, hs.rest]
  · rw [hcolumn]
    exact Nat.lt_succ_self column
  · simp [release, signed, hs.blocks, hs.column]
  · intro s' ks hsettle hheld shorter
    refine .of_step hadvance hrefresh hsettle ?_ hheld ?_
    · simp [signed, heldKinds, hs.blocks, hs.column, Function.comp_def]
    · rw [hs.rest]
      exact Nat.lt_succ_of_le shorter

section Behind

variable {l : Lexer} {kinds : List TokenKind} {u : List Char} {sign : Bool}
  (hl : Behind s l kinds u column blocks sign) (hblocks : leastIn blocks = column + 1)
include hl hblocks

/-- The node behind a space is on the same line. -/
theorem Behind.space (ht : startsToken t) (hrest : u = ' ' :: t) :
    ∃ s', Reads s kinds s' ∧ Ready s' t (l.place.column + 1) blocks sign := by
  have hdeep : leastIn l.blocks ≤ l.place.column + 1 + 1 := by
    have := hl.right
    rw [hl.blocks, hblocks]
    omega
  obtain ⟨s', hsettle, hready, hheld⟩ := settle_space hl.outer hl.key ht (hl.rest.trans hrest)
  rw [remaining_eq hdeep, hl.blocks, hl.keyAllowed] at hready
  rw [closings_eq hdeep] at hheld
  have hreads := hl.reads s' [] hsettle hheld (by simp [hready.rest, hrest])
  rw [List.append_nil] at hreads
  exact ⟨s', hreads, hready⟩

/-- The node behind a line end is on a line of its own, where a key may begin. -/
theorem Behind.line (ht : startsToken t) {next : Nat} (hnext : column ≤ next)
    (hrest : u = '\n' :: (spaces next ++ t)) :
    ∃ s', Reads s kinds s' ∧ Ready s' t next blocks true := by
  have hdeep : leastIn l.blocks ≤ next + 1 := by
    rw [hl.blocks, hblocks]
    omega
  obtain ⟨s', hsettle, hready, hheld⟩ :=
    settle_line hl.outer (by simp [CanLapse, hl.key]) ht (hl.rest.trans hrest)
  rw [remaining_eq hdeep, hl.blocks] at hready
  rw [closings_eq hdeep] at hheld
  have hreads := hl.reads s' [] hsettle hheld (by simp [hready.rest, hrest]; omega)
  rw [List.append_nil] at hreads
  exact ⟨s', hreads, hready⟩

end Behind

end Signs

/-! ## Scalars -/

/-- Reading is at the end of a line that does not lie before a line, or in front of the token behind
it, which is at a column. -/
def AtEnd (l : Lexer) (line : Nat) (t : List Char) (column : Nat) : Prop :=
  l.place.rest = '\n' :: (spaces column ++ t) ∧ line ≤ l.place.mark.line ∨
    l.place.rest = t ∧ l.place.column = column ∧ line < l.place.mark.line ∧ l.keyAllowed = true

/-- What waits for a colon behind a node that may be a key. -/
def waiting (s : Lexer) : Option PossibleKey :=
  if s.keyAllowed then
    some ⟨s.count + s.held.length, s.blocks.head? == some s.place.column, s.place.mark⟩
  else none

theorem saveKey_eq {s : Lexer} (houter : s.outerKeys = []) (hkey : s.key? = none) :
    s.saveKey = .ok { s with key? := s.waiting } := by
  obtain ⟨place, bs, key?, outer, allowed, count, held⟩ := s
  simp only at houter hkey
  subst houter hkey
  cases allowed <;> simp [saveKey, waiting, dropKey, inFlow, bind, Except.bind]

theorem canLapse_waiting {s : Lexer}
    (h : s.keyAllowed = false ∨ s.blocks.head? ≠ some s.place.column) :
    CanLapse s.waiting s.place.mark := by
  intro k hk
  rw [waiting] at hk
  split at hk
  · rename_i hallowed
    obtain rfl := Option.some.inj hk
    refine ⟨?_, Nat.le_refl _⟩
    simpa [hallowed] using h
  · contradiction

section Scalars

variable {s l : Lexer} {text t : List Char} {column next : Nat} {blocks : List Nat} {allowed : Bool}

/-- A token that ends its line leads to the next line. -/
theorem reads_line (hs : s.place.rest = text) (hadvance : s.advance = .ok l)
    (houter : l.outerKeys = []) (hblocks : l.blocks = blocks) (kinds : List TokenKind)
    (hkinds : l.heldKinds = s.heldKinds ++ kinds) (hkey : CanLapse l.key? s.place.mark)
    (ht : startsToken t) (hend : AtEnd l s.place.mark.line t next) (shorter : t.length < text.length) :
    ∃ s', Reads s (kinds ++ closings blocks next) s' ∧ Ready s' t next (remaining blocks next) true := by
  obtain ⟨key?, hkey', hrefresh⟩ := refreshKeys_canLapse houter hkey
  generalize hl' : ({ l with key? := key? } : Lexer) = l' at hrefresh
  have hsettle : ∃ s', l'.release.2.settle = .ok s' ∧ Ready s' t next (remaining blocks next) true ∧
      s'.heldKinds = l'.release.2.heldKinds ++ closings blocks next := by
    subst hl' hblocks
    rcases hend with ⟨hrest, hline⟩ | ⟨hrest, hcolumn, hline, hallowed⟩
    · refine settle_line (l := release { l with key? := key? } |>.2) houter ?_ ht hrest
      intro k hk
      obtain ⟨hrequired, hmark⟩ := hkey' k hk
      exact ⟨hrequired, Nat.le_trans hmark hline⟩
    · obtain ⟨s', hs', hready, hheld⟩ := settle_token (l := release { l with key? := key? } |>.2) houter
        (fun k hk => ⟨(hkey' k hk).1, Nat.lt_of_le_of_lt (hkey' k hk).2 hline⟩) ht hrest
      subst hcolumn
      exact ⟨s', hs', hallowed ▸ hready, hheld⟩
  obtain ⟨s', hsettle, hready, hheld⟩ := hsettle
  refine ⟨s', .of_step hadvance hrefresh hsettle ?_ hheld ?_, hready⟩
  · subst hl'
    exact hkinds
  · rw [hready.rest, hs]
    exact shorter

/-- A plain text is read as one, whatever ends it. -/
theorem advance_plain (htext : PlainText text) (ht : plainEnds false t)
    (hs : Ready s (text ++ t) column blocks allowed) : s.advance = s.plain := by
  have hmark : s.place.atMark = false := by
    rw [hs.place_eq]
    exact htext.atMark_append ht _
  have hbegins : beginsPlain false (text ++ t) = true := htext.beginsPlain_append t
  have hflow : s.inFlow = false := by simp [inFlow, hs.outer]
  obtain ⟨c, cs, rfl⟩ := List.exists_cons_of_ne_nil htext.ne_nil
  have hne : ∀ d ∈ "#,[]\x7b\x7d&*!|>'\"%@`".toList, c ≠ d := fun d => htext.not_indicator rfl
  simp at hne
  have hnone : ∀ d, d = '?' ∨ d = ':' ∨ d = '-' → s.place.atIndicator d = false := by
    intro d hd
    simp only [Place.atIndicator, hs.rest, List.cons_append, Bool.and_eq_false_iff,
      beq_eq_false_iff_ne]
    by_cases heq : c = d
    · exact .inr (htext.blankNext_append (heq ▸ hd) t)
    · exact .inl fun h => heq h.symm
  simp only [List.cons_append] at hbegins
  simp only [advance, hs.rest, List.cons_append, tokenAt]
  simp [hmark, hne, hnone, hflow, hbegins]

theorem advance_quoted {c : Char} (hc : c = '\'' ∨ c = '"')
    (hs : Ready s (c :: t) column blocks allowed) :
    s.advance = s.label fun p =>
      (p.quoted c).bind fun r => .ok (.scalar r.1 false, r.2) := by
  have hmark : s.place.atMark = false := by
    rw [hs.place_eq]
    rcases hc with rfl | rfl <;> simp [Place.atMark]
  have hflow : s.inFlow = false := by simp [inFlow, hs.outer]
  rcases hc with rfl | rfl <;>
    simp [advance, hs.rest, tokenAt, hmark, hflow, Place.atIndicator, bind]

theorem advance_block (hs : Ready s ('|' :: t) column blocks allowed) : s.advance = s.block false := by
  have hmark : s.place.atMark = false := by
    rw [hs.place_eq]
    simp [Place.atMark]
  have hflow : s.inFlow = false := by simp [inFlow, hs.outer]
  simp [advance, hs.rest, tokenAt, hmark, hflow, Place.atIndicator]

/-- A plain scalar adds its token and waits for a colon. -/
theorem plain_eq (hs : Ready s text column blocks allowed) {scalar : Plain}
    (h : s.place.plain false (leastIn blocks) = .ok scalar) :
    s.plain = .ok { s with
      place := scalar.next
      key? := s.waiting
      keyAllowed := scalar.endsLine
      held := s.held ++ [⟨.scalar scalar.text true, s.place.mark⟩] } := by
  simp [plain, saveKey_eq hs.outer hs.key, bind, Except.bind, least_eq, inFlow, hs.outer, hs.blocks, h,
    addAt]

/-- A label adds its token and waits for a colon. -/
theorem label_eq (hs : Ready s text column blocks allowed)
    {read : Place → Except Fault (TokenKind × Place)} (kind : TokenKind) {p : Place}
    (h : read s.place = .ok (kind, p)) :
    s.label read = .ok { s with
      place := p
      key? := s.waiting
      keyAllowed := false
      held := s.held ++ [⟨kind, s.place.mark⟩] } := by
  rw [label, saveKey_eq hs.outer hs.key]
  simp [bind, Except.bind, h, addAt]

/-- A block scalar adds its token. -/
theorem block_eq (hs : Ready s text column blocks allowed) {value : List Char} {p : Place}
    (h : s.place.block false (leastIn blocks) = .ok (value, p)) :
    s.block false = .ok { s with
      place := p
      keyAllowed := true
      held := s.held ++ [⟨.scalar value false, s.place.mark⟩] } := by
  simp [block, dropKey, hs.key, bind, Except.bind, least_eq, hs.blocks, h, addAt]

end Scalars

section Texts

variable {s : Lexer} {t : List Char} {column next : Nat} {blocks : List Nat} {allowed : Bool}
  (ht : startsToken t) (hnext : next < leastIn blocks ∨ t = [] ∧ next = 0)
  (hcolumn : leastIn blocks ≤ column + 1) (hkey : allowed = false ∨ blocks.head? ≠ some column)
include ht hnext hcolumn hkey

/-- A plain text on a line of its own is read as a plain scalar. -/
theorem reads_word {w : List Char} (hw : PlainText w)
    (hs : Ready s (w ++ '\n' :: (spaces next ++ t)) column blocks allowed) :
    ∃ s', Reads s (.scalar w true :: closings blocks next) s' ∧
      Ready s' t next (remaining blocks next) true := by
  have hplain : s.place.plain false (leastIn blocks) =
      .ok ⟨w, ⟨t, (s.place.mark.right w.length).below.right next⟩, true⟩ := by
    rw [hs.place_eq]
    refine Place.plain_line hw ?_ (startsPiece_of_startsToken ht) (hnext.imp_right And.left)
    rw [← hs.column] at hcolumn
    exact hcolumn
  have hadvance := advance_plain hw (t := '\n' :: (spaces next ++ t))
    (by simp [plainEnds, isGap, isBreak]) hs
  rw [plain_eq hs hplain] at hadvance
  refine reads_line hs.rest hadvance hs.outer hs.blocks [_] ?_ ?_ ht ?_ ?_
  · simp [heldKinds]
  · exact canLapse_waiting (hs.keyAllowed ▸ hs.blocks ▸ hs.column ▸ hkey)
  · refine .inr ⟨rfl, ?_, ?_, rfl⟩
    · simp [Place.column]
    · simp
  · simp
    omega

omit hnext hcolumn in
/-- A text between quotes at the end of a line is read as a scalar that is not plain. -/
theorem reads_quoted {c : Char} (hc : c = '\'' ∨ c = '"') {u value : List Char} {m : Mark}
    (hs : Ready s (c :: u) column blocks allowed)
    (hread : s.place.quoted c = .ok (value, ⟨'\n' :: (spaces next ++ t), m⟩))
    (hline : s.place.mark.line ≤ m.line) (shorter : t.length ≤ u.length) :
    ∃ s', Reads s (.scalar value false :: closings blocks next) s' ∧
      Ready s' t next (remaining blocks next) true := by
  have hadvance := advance_quoted hc hs
  rw [label_eq hs (.scalar value false) (by rw [hread]; rfl)] at hadvance
  refine reads_line hs.rest hadvance hs.outer hs.blocks [_] ?_ ?_ ht (.inl ⟨rfl, hline⟩) ?_
  · simp [heldKinds]
  · exact canLapse_waiting (hs.keyAllowed ▸ hs.blocks ▸ hs.column ▸ hkey)
  · exact Nat.lt_succ_of_le shorter

omit hcolumn hkey in
/-- A literal block is read as a scalar that is not plain. -/
theorem reads_literal {value : List Char} (hvalue : value ≠ []) (hp : ∀ c ∈ value, isPrintable c)
    (hs : Ready s (literal (leastIn blocks - 1 + indentStep) value ++ (spaces next ++ t)) column
      blocks allowed) :
    ∃ s', Reads s (.scalar value false :: closings blocks next) s' ∧
      Ready s' t next (remaining blocks next) true := by
  have hdeep : next < leastIn blocks - 1 + indentStep := by
    simp only [indentStep]
    omega
  obtain ⟨m, hread, hm, hline⟩ :=
    Place.block_literal hdeep (startsPiece_of_startsToken ht) hvalue hp s.place.mark
  rw [← hs.place_eq] at hread
  have hadvance := advance_block hs
  rw [block_eq hs hread] at hadvance
  refine reads_line hs.rest hadvance hs.outer hs.blocks [_] ?_ ?_ ht
    (.inr ⟨rfl, hm, hline, rfl⟩) ?_
  · simp [heldKinds]
  · simp [CanLapse, hs.key]
  · simp [literal]
    omega

/-- A text on lines of its own is read as the scalar that it is. -/
theorem reads_textLine (value : String)
    (hs : Ready s (textLine (leastIn blocks - 1 + indentStep) value ++ (spaces next ++ t)) column
      blocks allowed) :
    ∃ s', Reads s (.scalar value.toList (Style.ofText value == .plain) :: closings blocks next) s' ∧
      Ready s' t next (remaining blocks next) true := by
  cases hstyle : Style.ofText value with
  | plain =>
    rw [textLine, hstyle] at hs
    simp only [List.append_assoc, List.cons_append, List.nil_append] at hs
    exact reads_word ht hnext hcolumn hkey (plainText_of_style hstyle) hs
  | single =>
    rw [textLine, hstyle] at hs
    simp only [List.append_assoc, List.cons_append, List.nil_append] at hs
    have hpositive : 0 < leastIn blocks - 1 + indentStep := Nat.succ_pos _
    have hread := Place.quoted_single hpositive (singleText_of_style hstyle)
      (t := '\n' :: (spaces next ++ t)) (by simp) s.place.mark
    rw [← hs.place_eq] at hread
    refine reads_quoted ht hkey (.inl rfl) hs hread (Mark.line_le_after _ _) ?_
    simp
    omega
  | double =>
    rw [textLine, hstyle] at hs
    simp only [List.append_assoc, List.cons_append, List.nil_append] at hs
    have hread := Place.quoted_double value.toList (t := '\n' :: (spaces next ++ t)) (by simp)
      s.place.mark
    rw [← hs.place_eq] at hread
    refine reads_quoted ht hkey (.inr rfl) hs hread (Nat.le_refl _) ?_
    simp
    omega
  | literal =>
    rw [textLine, hstyle] at hs
    obtain ⟨hne, hp⟩ := isPrintable_of_block (block_of_style hstyle)
    exact reads_literal ht hnext hne hp hs

end Texts

/-! ## Empty collections -/

section Brackets

variable {s : Lexer} {t : List Char} {column next : Nat} {blocks : List Nat} {allowed : Bool}

theorem waits_waiting (s : Lexer) (n : Nat) (hn : n ≤ simpleKeyReach) :
    Waits (s.place.mark.right n) s.waiting := by
  intro k hk
  rw [waiting] at hk
  split at hk
  · obtain rfl := Option.some.inj hk
    exact ⟨Nat.le_refl _, Nat.add_le_add_left hn _⟩
  · contradiction

/-- The tokens of the two brackets of a flow collection. -/
inductive Brackets : TokenKind → TokenKind → Char → Char → Prop where
  | sequence : Brackets .flowSequence .flowSequenceEnd '[' ']'
  | mapping : Brackets .flowMapping .flowMappingEnd '\x7b' '\x7d'

/-- The lexer behind an opening bracket. -/
def insideBrackets (s : Lexer) (kind : TokenKind) : Lexer :=
  { s with
    place := s.place.skip 1
    key? := none
    outerKeys := [s.waiting]
    keyAllowed := true
    held := s.held ++ [⟨kind, s.place.mark⟩] }

theorem place_insideBrackets (kind : TokenKind) {a : Char} (hrest : s.place.rest = a :: t) :
    (s.insideBrackets kind).release.2.place = ⟨t, s.place.mark.right 1⟩ := by
  simp [release, insideBrackets, Place.skip, hrest, Mark.right]

variable {kind close : TokenKind} {a b : Char} (hkind : Brackets kind close a b)
include hkind

theorem advance_open (hs : Ready s (a :: t) column blocks allowed) :
    s.advance = .ok (s.insideBrackets kind) := by
  have hmark : s.place.atMark = false := by
    rw [hs.place_eq]
    cases hkind <;> simp [Place.atMark]
  have hopen : s.advance = s.openFlow kind := by
    cases hkind <;> simp [advance, hs.rest, tokenAt, hmark]
  rw [hopen, openFlow, saveKey_eq hs.outer hs.key]
  simp [insideBrackets, bind, Except.bind, addSign, addAt, hs.outer]

/-- The closing bracket behind the opening one gives back what may be a key with its colon. -/
theorem advance_close (hrest : s.place.rest = a :: b :: t) :
    (s.insideBrackets kind).release.2.advance = .ok { (s.insideBrackets kind).release.2 with
      place := ⟨t, s.place.mark.right 2⟩
      key? := s.waiting
      outerKeys := []
      keyAllowed := false
      held := (s.insideBrackets kind).release.2.held ++ [⟨close, s.place.mark.right 1⟩] } := by
  have hplace := place_insideBrackets kind hrest
  have hkeys : (s.insideBrackets kind).release.2.key? = none ∧
      (s.insideBrackets kind).release.2.outerKeys = [s.waiting] := ⟨rfl, rfl⟩
  generalize (s.insideBrackets kind).release.2 = l at hplace hkeys
  have hmark : (⟨b :: t, s.place.mark.right 1⟩ : Place).atMark = false := by
    cases hkind <;> simp [Place.atMark]
  have hclose : l.advance = l.closeFlow close := by
    cases hkind <;> simp [advance, hplace, tokenAt, hmark]
  rw [hclose]
  simp [closeFlow, dropKey, hkeys, hplace, addSign, addAt, bind, Except.bind, Place.skip,
    Mark.right]

/-- Between the two brackets nothing changes. -/
theorem settle_inside (hs : Ready s (a :: b :: t) column blocks allowed) {l : Lexer}
    (hplace : l.place = s.place.skip 1) (hkey : l.key? = none) (houter : l.outerKeys = [s.waiting]) :
    l.refreshKeys = .ok l ∧ l.settle = .ok l := by
  have hplace : l.place = ⟨b :: t, s.place.mark.right 1⟩ := by
    rw [hplace, hs.place_eq]
    rfl
  refine settle_waits (by simp [Waits, hkey]) ?_ ?_ (by simp [closeBlocks, inFlow, houter])
  · rw [hplace, houter]
    intro key? hmem
    rw [List.mem_singleton.mp hmem]
    exact waits_waiting s 1 (by decide)
  · rw [hplace]
    cases hkind <;> rfl

/-- The opening bracket is read. -/
theorem reads_open (hs : Ready s (a :: b :: t) column blocks allowed) :
    Reads s [kind] (s.insideBrackets kind).release.2 := by
  rw [← List.append_nil [kind]]
  refine .of_step (advance_open hkind hs) (settle_inside hkind hs rfl rfl rfl).1
    (settle_inside hkind hs rfl rfl rfl).2 ?_ (by simp) ?_
  · simp [heldKinds, insideBrackets]
  · simp [place_insideBrackets kind hs.rest, hs.rest]

/-- The brackets of an empty collection are read as its beginning and its end. -/
theorem reads_brackets (ht : startsToken t)
    (hkey : allowed = false ∨ blocks.head? ≠ some column)
    (hs : Ready s (a :: b :: '\n' :: (spaces next ++ t)) column blocks allowed) :
    ∃ s', Reads s (kind :: close :: closings blocks next) s' ∧
      Ready s' t next (remaining blocks next) true := by
  have hfirst := reads_open hkind hs
  have hadvance := advance_close hkind hs.rest
  have hplace := place_insideBrackets kind hs.rest
  have hblocks : (s.insideBrackets kind).release.2.blocks = blocks := hs.blocks
  generalize (s.insideBrackets kind).release.2 = l at hfirst hadvance hplace hblocks
  have hlapse : CanLapse s.waiting l.place.mark := by
    rw [hplace]
    exact canLapse_waiting (hs.keyAllowed ▸ hs.blocks ▸ hs.column ▸ hkey)
  obtain ⟨s', hreads, hready⟩ := reads_line rfl hadvance rfl hblocks [close] (by simp [heldKinds])
    hlapse ht (.inl ⟨rfl, by simp [hplace]⟩) (by simp [hplace]; omega)
  exact ⟨s', hfirst.trans hreads, hready⟩

end Brackets

/-! ## Simple keys -/

section Keys

variable {s : Lexer} {u : List Char} {column : Nat} {blocks : List Nat}

/-- A simple key is read up to its colon, and waits for it. -/
theorem advance_simpleKey {value : String} (hvalue : isSimpleKey value) (hu : blankNext u)
    (hblocks : leastIn blocks ≤ column + 1)
    (hs : Ready s (simpleKey value ++ ':' :: u) column blocks true) :
    ∃ n, n ≤ simpleKeyReach ∧ s.advance = .ok { s with
      place := ⟨':' :: u, s.place.mark.right n⟩
      key? := s.waiting
      keyAllowed := false
      held := s.held ++ [⟨.scalar value.toList (Style.ofText value == .plain), s.place.mark⟩] } := by
  obtain ⟨hinline, hlength⟩ := simpleKey_inline hvalue
  have hbytes := Text.length_le_utf8ByteSize value.toList
  rw [String.ofList_toList] at hbytes
  have hcolon : startsToken (':' :: u) := rfl
  simp only [simpleKeyLength] at hlength
  cases hstyle : Style.ofText value with
  | plain =>
    rw [simpleKey, hstyle] at hs
    have htext := plainText_of_style hstyle
    have hcolumn : leastIn blocks ≤ s.place.mark.column + 1 := by
      rw [← hs.column] at hblocks
      exact hblocks
    have hread := Place.plain_colon htext hcolumn hu
    rw [← hs.place_eq] at hread
    have hadvance := advance_plain htext (by simp [plainEnds, hu]) hs
    rw [plain_eq hs hread] at hadvance
    refine ⟨value.toList.length, ?_, hadvance⟩
    simp only [simpleKeyReach]
    omega
  | single =>
    rw [simpleKey, hstyle, singleQuoted, singleBody_inline hinline 1] at hs
    have hread := Place.quoted_single Nat.one_pos (singleText_of_style hstyle) (t := ':' :: u)
      (by simp) s.place.mark
    have hbody := length_singleBody_le 1 hinline
    rw [← singleQuoted] at hs
    rw [← hs.place_eq, Mark.after_inline (not_isBreak_of_mem_singleQuoted hinline)] at hread
    have hadvance := advance_quoted (.inl rfl) hs
    rw [label_eq hs (.scalar value.toList false) (by rw [hread]; rfl)] at hadvance
    refine ⟨(singleQuoted 1 value.toList).length, ?_, hadvance⟩
    simp only [simpleKeyReach, singleQuoted, List.length_append, List.length_cons, List.length_nil]
    omega
  | double | literal =>
    rw [simpleKey, hstyle] at hs
    have hread := Place.quoted_double value.toList (t := ':' :: u) (by simp) s.place.mark
    have hbody := length_doubleBody_le value.toList
    rw [String.ofList_toList] at hbody
    rw [← hs.place_eq] at hread
    have hadvance := advance_quoted (.inr rfl) hs
    rw [label_eq hs (.scalar value.toList false) (by rw [hread]; rfl)] at hadvance
    refine ⟨(doubleQuoted value.toList).length, ?_, hadvance⟩
    simp only [simpleKeyReach, doubleQuoted, List.length_append, List.length_cons, List.length_nil]
    omega

/-- The lexer that has read a scalar, which the next character makes a key. -/
def beforeColon (s : Lexer) (u : List Char) (n : Nat) (scalar : TokenKind) : Lexer :=
  { s with
    place := ⟨':' :: u, s.place.mark.right n⟩
    count := s.count + s.held.length
    key? := s.waiting
    keyAllowed := false
    held := [⟨scalar, s.place.mark⟩] }

/-- The lexer behind this character. -/
def behindColon (s : Lexer) (u : List Char) (n : Nat) (scalar : TokenKind) : Lexer :=
  { s with
    place := ⟨u, s.place.mark.right (n + 1)⟩
    blocks := opened s.blocks s.place.column
    count := s.count + s.held.length
    key? := none
    keyAllowed := false
    held := (opening .blockMapping s.blocks s.place.column).map (fun k => ⟨k, s.place.mark⟩) ++
      [⟨.key, s.place.mark⟩, ⟨scalar, s.place.mark⟩, ⟨.value, s.place.mark.right n⟩] }

theorem waiting_of_ready {t : List Char} (hs : Ready s t column blocks true) :
    s.waiting =
      some ⟨s.count + s.held.length, s.blocks.head? == some s.place.column, s.place.mark⟩ := by
  simp [waiting, hs.keyAllowed]

/-- A step reads the simple key, which waits for its colon. -/
theorem step_simpleKey {value : String} (hvalue : isSimpleKey value) (hu : blankNext u)
    (hblocks : leastIn blocks ≤ column + 1)
    (hs : Ready s (simpleKey value ++ ':' :: u) column blocks true) :
    ∃ n, s.step = .ok (s.held,
      s.beforeColon u n (.scalar value.toList (Style.ofText value == .plain))) := by
  obtain ⟨n, hn, hadvance⟩ := advance_simpleKey hvalue hu hblocks hs
  refine ⟨n, ?_⟩
  generalize TokenKind.scalar value.toList (Style.ofText value == .plain) = scalar at hadvance ⊢
  generalize hl : ({ s with
    place := ⟨':' :: u, s.place.mark.right n⟩
    key? := s.waiting
    keyAllowed := false
    held := s.held ++ [⟨scalar, s.place.mark⟩] } : Lexer) = l at hadvance
  have hplace : l.place = ⟨':' :: u, s.place.mark.right n⟩ := by rw [← hl]
  have hwaits : ∀ l' : Lexer, l'.place = l.place → l'.key? = l.key? → l'.outerKeys = l.outerKeys →
      l'.blocks = l.blocks → l'.refreshKeys = .ok l' ∧ l'.settle = .ok l' := by
    intro l' hplace' hkey' houter' hblocks'
    have hnone : l'.outerKeys = [] := by
      rw [houter', ← hl]
      exact hs.outer
    refine settle_waits ?_ (by simp [hnone]) ?_ (closeBlocks_self ?_)
    · rw [hplace', hplace, hkey', ← hl]
      exact waits_waiting s n hn
    · rw [hplace', hplace]
      rfl
    · rw [hblocks', hplace', hplace, ← hl, hs.blocks]
      simp only [Place.column, Mark.right_column]
      rw [← hs.column] at hblocks
      exact Nat.le_trans hblocks (Nat.succ_le_succ (Nat.le_add_right _ _))
  have hrelease : l.release = (s.held, s.beforeColon u n scalar) := by
    rw [← hl]
    simp [release, firstHeld?, waiting_of_ready hs, hs.outer, beforeColon]
  have hrefresh := (hwaits l rfl rfl rfl rfl).1
  have hsettle := (hwaits l.release.2 rfl rfl rfl rfl).2
  simp only [step, hadvance, hrefresh, hsettle, bind, Except.bind]
  rw [hrelease]

/-- The colon puts the key, and the mapping that it may open, in front of the scalar. -/
theorem advance_beforeColon {t : List Char} (hu : blankNext u) (n : Nat) (scalar : TokenKind)
    (hs : Ready s t column blocks true) :
    (s.beforeColon u n scalar).advance = .ok (s.behindColon u n scalar) := by
  have hsign : (s.beforeColon u n scalar).advance = (s.beforeColon u n scalar).colon := by
    simp [advance, beforeColon, tokenAt, Place.atMark, Place.atIndicator, hu]
  rw [hsign, colon, beforeColon, behindColon]
  simp only [waiting_of_ready hs, insertAt, openBlock, inFlow, hs.outer, least_eq, Place.column]
  simp only [Nat.sub_self, List.isEmpty_nil, Bool.not_true, Bool.false_eq_true, if_false,
    List.take_zero, List.drop_zero, List.nil_append]
  rw [opened, opening]
  split
  · simp [addSign, addAt, Place.skip, Mark.right, Nat.add_assoc]
  · simp [addSign, addAt, Place.skip, Mark.right, Nat.add_assoc]

/-- Behind the colon of a simple key the key, and the mapping that it may open, were put in front of
its scalar. -/
theorem exists_behind_key {value : String} (hvalue : isSimpleKey value) (hu : blankNext u)
    (hblocks : leastIn blocks ≤ column + 1)
    (hs : Ready s (simpleKey value ++ ':' :: u) column blocks true) :
    ∃ l, Behind s l (opening .blockMapping blocks column ++
        [.key, .scalar value.toList (Style.ofText value == .plain), .value]) u column
      (opened blocks column) false := by
  obtain ⟨n, hstep⟩ := step_simpleKey hvalue hu hblocks hs
  generalize TokenKind.scalar value.toList (Style.ofText value == .plain) = scalar at hstep ⊢
  have hcolon := advance_beforeColon hu n scalar hs
  generalize hl : s.behindColon u n scalar = l at hcolon
  have hkinds : l.heldKinds = opening .blockMapping blocks column ++ [.key, scalar, .value] := by
    rw [← hl]
    simp [heldKinds, behindColon, hs.blocks, hs.column, Function.comp_def]
  have hnone : l.key? = none ∧ l.outerKeys = [] := by
    rw [← hl]
    exact ⟨rfl, hs.outer⟩
  have hrefresh : l.refreshKeys = .ok l := refreshKeys_none hnone.2 hnone.1
  refine ⟨l.release.2, ?_, ?_, by simp, ?_, ?_, hnone.1, hnone.2, ?_⟩
  · rw [show l.release.2.place = l.place from rfl, ← hl]
    rfl
  · rw [show l.release.2.place = l.place from rfl, ← hl, ← hs.column]
    simp only [behindColon, Place.column, Mark.right_column]
    omega
  · rw [show l.release.2.blocks = l.blocks from rfl, ← hl, ← hs.blocks, ← hs.column]
    rfl
  · rw [show l.release.2.keyAllowed = l.keyAllowed from rfl, ← hl]
    rfl
  · intro s' ks hsettle hheld shorter
    have hstep' : (s.beforeColon u n scalar).step = .ok (l.release.1, s') := by
      simp [step, hcolon, hrefresh, hsettle, bind, Except.bind]
    have hlength : (s.beforeColon u n scalar).place.rest.length = u.length + 1 := rfl
    refine ⟨s.held ++ (l.release.1 ++ []), .step hstep ?_ (.step hstep' ?_ (.refl s')), ?_⟩
    · have hkey := List.length_pos_iff.mpr (simpleKey_ne_nil value)
      rw [hlength, hs.rest, List.length_append, List.length_cons]
      omega
    · rw [hlength]
      omega
    · rw [← hkinds, hheld, heldKinds_release l]
      simp [heldKinds]

end Keys

end Lexer

end BackingServices.Yaml
