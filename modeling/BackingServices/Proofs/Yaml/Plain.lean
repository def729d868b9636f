import BackingServices.Proofs.Yaml.Place

/-!
# Plain scalars are read back

`PlainText` collects what the printer checks before it writes a text without quotes.
Such a text is read back as it is, at the end of a line (`plain_line`) and in front of
the colon of a key (`plain_colon`).

A plain scalar is read piece by piece, and the spaces between two pieces are kept.  So
the induction is on the pieces of the text; what comes behind the last piece is a
parameter of it.
-/

namespace BackingServices.Yaml

/-! ## Texts that may be plain -/

/-- What makes a text fit to be written without quotes. -/
structure PlainText (s : List Char) : Prop where
  /-- There is something to read. -/
  ne_nil : s ≠ []
  /-- All characters may stand as they are. -/
  printable : ∀ c ∈ s, isPrintable c
  /-- The text is on one line. -/
  inline : ∀ c ∈ s, isBreak c = false
  /-- No space is at the beginning. -/
  head : s.head? ≠ some ' '
  /-- No space is at the end. -/
  last : s.getLast? ≠ some ' '
  /-- The first character has no other meaning. -/
  first : badFirst s = false
  /-- No later character ends the scalar. -/
  later : badLater ' ' s = false
  /-- The text does not look like the mark of a document. -/
  mark : beginsWithMark s = false

theorem badLater_of_badFirst {c : Char} {cs : List Char} (hf : badFirst (c :: cs) = false)
    (hl : badLater c cs = false) : badLater ' ' (c :: cs) = false := by
  simp only [badFirst, Bool.or_eq_false_iff, Bool.and_eq_false_iff] at hf
  obtain ⟨hlist, hsign⟩ := hf
  have hhash : (c == '#') = false := by
    rw [beq_eq_false_iff_ne]
    rintro rfl
    exact absurd hlist (by decide)
  have hcolon : (c == ':' && blankNext cs) = false := by
    rcases hsign with h | h
    · simp [h.1.2]
    · simp [h]
  simp [badLater, hcolon, hhash, hl]

/-- A text of a shape that permits it may be plain. -/
theorem PlainText.of_shape {s : List Char} (hne : s ≠ []) (h : (shape s).plain = true) :
    PlainText s := by
  cases s with
  | nil => contradiction
  | cons c cs =>
    simp only [shape, List.isEmpty_cons, Bool.false_eq_true, if_false, Bool.not_eq_true',
      Bool.or_eq_false_iff] at h
    obtain ⟨⟨⟨⟨hhead, hlast⟩, hlines⟩, hspecial⟩, ⟨hmark, hfirst⟩, hlater⟩ := h
    refine ⟨hne, ?_, ?_, ?_, ?_, hfirst, badLater_of_badFirst hfirst hlater, hmark⟩
    · intro d hd
      exact List.all_eq_true.mp (by simpa using hspecial) d hd
    · intro d hd
      exact Bool.eq_false_iff.mpr fun hb => by
        rw [List.any_eq_false] at hlines
        exact hlines d hd hb
    · intro heq
      simp [heq, isSpace] at hhead
    · intro heq
      simp [heq, isSpace] at hlast

theorem not_isBlank_of_blankNext {t : List Char} (h : blankNext t = false) :
    t.head?.any isBlank = false := by
  cases t with
  | nil => rfl
  | cons c cs =>
    simp only [blankNext, Bool.or_eq_false_iff] at h
    simpa using h.1

namespace PlainText

variable {s : List Char} (h : PlainText s)
include h

/-- Of what is passed between pieces the text has spaces only. -/
theorem isGap_eq_isSpace {c : Char} (hc : c ∈ s) : isGap c = isSpace c := by
  rw [isGap_eq_of_isPrintable (h.printable c hc), h.inline c hc, Bool.or_false]

theorem startsPiece_append (t : List Char) : startsPiece (s ++ t) := by
  obtain ⟨c, cs, rfl⟩ := List.exists_cons_of_ne_nil h.ne_nil
  have hhead := h.head
  rw [List.cons_append, startsPiece_cons, h.isGap_eq_isSpace List.mem_cons_self]
  simpa [isSpace] using hhead

/-- The text begins with no character that means something else everywhere. -/
theorem not_indicator {c d : Char} (hc : s.head? = some c)
    (hd : d ∈ "#,[]\x7b\x7d&*!|>'\"%@`".toList) : c ≠ d := by
  rintro rfl
  have hfirst := h.first
  cases s with
  | nil => simp at hc
  | cons e es =>
    obtain rfl : e = c := by simpa using hc
    simp only [badFirst, Bool.or_eq_false_iff, List.contains_eq_mem,
      decide_eq_false_iff_not] at hfirst
    exact hfirst.1 hd

theorem startsToken_append (t : List Char) : startsToken (s ++ t) := by
  have hpiece := h.startsPiece_append t
  obtain ⟨c, cs, rfl⟩ := List.exists_cons_of_ne_nil h.ne_nil
  have hhash : c ≠ '#' := h.not_indicator rfl (by decide)
  have horder : c ≠ '\uFEFF' := by
    rintro rfl
    exact absurd (h.printable _ List.mem_cons_self) (by decide)
  have hgap := not_isGap_of_startsPiece hpiece
  simp [hgap, hhash, horder]

/-- The text cannot be taken for the mark of a document, whatever ends it. -/
theorem atMark_append {t : List Char} (ht : plainEnds false t = true) (m : Mark) :
    (⟨s ++ t, m⟩ : Place).atMark = false := by
  have hmark := h.mark
  have hne := h.ne_nil
  have hdash : ∀ c, t.head? = some c → c ≠ '-' ∧ c ≠ '.' := by
    intro c hc
    cases t with
    | nil => simp at hc
    | cons d ds =>
      simp only [List.head?_cons, Option.some.injEq] at hc
      subst hc
      constructor
      · rintro rfl
        simp [plainEnds, isGap, isBlank, isBreak] at ht
      · rintro rfl
        simp [plainEnds, isGap, isBlank, isBreak] at ht
  simp only [Place.atMark, Bool.and_eq_false_iff]
  refine .inr ?_
  split
  · rename_i cs heq
    rcases s with _ | ⟨a, _ | ⟨b, _ | ⟨c, s⟩⟩⟩
    · contradiction
    · obtain ⟨rfl, rfl⟩ : a = '-' ∧ t = '-' :: '-' :: cs := by simpa using heq
      exact absurd rfl (hdash '-' rfl).1
    · obtain ⟨rfl, rfl, rfl⟩ : a = '-' ∧ b = '-' ∧ t = '-' :: cs := by simpa using heq
      exact absurd rfl (hdash '-' rfl).1
    · obtain ⟨rfl, rfl, rfl, -⟩ : a = '-' ∧ b = '-' ∧ c = '-' ∧ s ++ t = cs := by simpa using heq
      simp [beginsWithMark] at hmark
  · rename_i cs heq
    rcases s with _ | ⟨a, _ | ⟨b, _ | ⟨c, s⟩⟩⟩
    · contradiction
    · obtain ⟨rfl, rfl⟩ : a = '.' ∧ t = '.' :: '.' :: cs := by simpa using heq
      exact absurd rfl (hdash '.' rfl).2
    · obtain ⟨rfl, rfl, rfl⟩ : a = '.' ∧ b = '.' ∧ t = '.' :: cs := by simpa using heq
      exact absurd rfl (hdash '.' rfl).2
    · obtain ⟨rfl, rfl, rfl, -⟩ : a = '.' ∧ b = '.' ∧ c = '.' ∧ s ++ t = cs := by simpa using heq
      simp [beginsWithMark] at hmark
  · rfl

omit h

/-- A first character that means something else in front of a space has no space behind it. -/
theorem blankNext_append {c : Char} {cs : List Char} (h : PlainText (c :: cs))
    (hc : c = '?' ∨ c = ':' ∨ c = '-') (t : List Char) : blankNext (cs ++ t) = false := by
  have hfirst := h.first
  have hblank : blankNext cs = false := by
    simp only [badFirst, Bool.or_eq_false_iff] at hfirst
    rcases hc with rfl | rfl | rfl <;> simpa using hfirst.2
  cases cs with
  | nil => simp [blankNext] at hblank
  | cons d ds => exact hblank

/-- The text begins a plain scalar, whatever follows it. -/
theorem beginsPlain_append (h : PlainText s) (t : List Char) : beginsPlain false (s ++ t) := by
  obtain ⟨c, cs, rfl⟩ := List.exists_cons_of_ne_nil h.ne_nil
  have hgap : isGap c = false := not_isGap_of_startsPiece (h.startsPiece_append t)
  have hindicator : ",[]\x7b\x7d#&*!|>'\"%@`".toList.contains c = false := by
    rw [List.contains_eq_mem, decide_eq_false_iff_not]
    intro hmem
    have hlists : (",[]\x7b\x7d#&*!|>'\"%@`".toList.all
        "#,[]\x7b\x7d&*!|>'\"%@`".toList.contains) = true := by decide
    exact h.not_indicator rfl (List.contains_iff_mem.mp (List.all_eq_true.mp hlists c hmem)) rfl
  rw [List.cons_append, beginsPlain, hgap, hindicator]
  by_cases hdash : c = '-'
  · have hnext := not_isBlank_of_blankNext (h.blankNext_append (.inr (.inr hdash)) t)
    rw [hnext]
    simp [hdash]
  · by_cases hsign : c = '?' ∨ c = ':'
    · have hnext := h.blankNext_append (hsign.imp_right .inl) t
      simp [hdash, hsign, hnext]
    · simp [hdash, hsign]

end PlainText

/-! ## Pieces -/

/-- A colon with something behind it in the text does not end the scalar, whatever follows the text. -/
theorem colon_append {c : Char} {s : List Char} (h : (c == ':' && blankNext s) = false)
    (t : List Char) : (c == ':' && blankNext (s ++ t)) = false := by
  cases s with
  | nil =>
    have : (c == ':') = false := by simpa [blankNext] using h
    simp [this]
  | cons d ds => exact h

/-- A piece reaches up to what ends it. -/
theorem plainPiece_append {w s t : List Char} {previous : Char}
    (hgap : ∀ c ∈ w, isGap c = false) (hbad : badLater previous (w ++ s) = false)
    (hends : plainEnds false (s ++ t) = true) :
    plainPiece false (w ++ (s ++ t)) = w.length := by
  induction w generalizing previous with
  | nil =>
    cases hst : s ++ t with
    | nil => rfl
    | cons c cs =>
      rw [hst] at hends
      simp [plainPiece, hends]
  | cons c w ih =>
    simp only [List.cons_append, badLater, Bool.or_eq_false_iff] at hbad
    have hcolon := colon_append hbad.1.1 t
    have hc : plainEnds false (c :: (w ++ (s ++ t))) = false := by
      rw [List.append_assoc] at hcolon
      simp [plainEnds, hgap c List.mem_cons_self, hcolon]
    simp only [List.cons_append, plainPiece, hc, Bool.false_eq_true, if_false, List.length_cons]
    rw [ih (fun d hd => hgap d (.tail _ hd)) hbad.2]

/-- What is known of a piece of the text at a place. -/
structure PieceAt (least : Nat) (w : List Char) (p : Place) : Prop where
  /-- The piece is not empty. -/
  ne_nil : w ≠ []
  /-- It is not taken for the mark of a document. -/
  mark : p.atMark = false
  /-- It does not begin a comment. -/
  hash : p.sees '#' = false
  /-- It is as long as it can be. -/
  length : plainPiece false p.rest = w.length
  /-- Behind it is a column that a continued line may have. -/
  column : least ≤ p.column + w.length

section Pieces

variable {least : Nat} {beginning : Mark} {w : List Char} {m : Mark} {gap : Gap}

theorem PieceAt.of_badLater {s t : List Char} (hne : w ≠ []) (hw : ∀ c ∈ w, isGap c = false)
    (hbad : badLater ' ' (w ++ s) = false) (hends : plainEnds false (s ++ t) = true)
    (hmark : (⟨w ++ (s ++ t), m⟩ : Place).atMark = false) (hcolumn : least ≤ m.column + 1) :
    PieceAt least w ⟨w ++ (s ++ t), m⟩ := by
  have hlength := plainPiece_append hw hbad hends
  obtain ⟨c, cs, rfl⟩ := List.exists_cons_of_ne_nil hne
  have hhash : (c == '#') = false := by
    simp only [List.cons_append, badLater, isBlank_space, Bool.true_or, Bool.and_true,
      Bool.or_eq_false_iff] at hbad
    exact hbad.1.2
  refine ⟨hne, hmark, ?_, hlength, ?_⟩
  · simpa [Place.sees] using hhash
  · simp [Place.column]
    omega

/-- A piece with spaces behind it is followed by another one. -/
theorem plainFuel_spaces {t : List Char} (ht : startsPiece t) {k : Nat}
    (hw : PieceAt least w ⟨w ++ (spaces (k + 1) ++ t), m⟩) (n : Nat) :
    plainFuel false least beginning (n + 1) gap ⟨w ++ (spaces (k + 1) ++ t), m⟩ =
      (plainFuel false least beginning n ⟨spaces (k + 1), none, []⟩
        ⟨t, m.right (w.length + (k + 1))⟩).map
          fun rest => { rest with text := gap.text ++ w ++ rest.text } := by
  have hlength : w.length ≠ 0 := by simpa using hw.ne_nil
  have hgap : (⟨spaces (k + 1) ++ t, m.right w.length⟩ : Place).gapIndented least =
      (⟨spaces (k + 1), none, []⟩, ⟨t, m.right (w.length + (k + 1))⟩) := by
    have hfuel : k + 1 < (spaces (k + 1) ++ t).length + 1 := by
      rw [List.length_append, length_spaces]
      omega
    rw [Place.gapIndented, Gap.none, gapFuel_blanks [] ht hfuel]
    simp
  have htab : (⟨t, m.right (w.length + (k + 1))⟩ : Place).sees '\t' = false := by
    cases t with
    | nil => rfl
    | cons c cs =>
      have := not_isBlank_of_startsPiece ht
      simp only [isBlank, Bool.or_eq_false_iff] at this
      simpa [Place.sees] using this.2
  have hcolumn : ¬(⟨t, m.right (w.length + (k + 1))⟩ : Place).column < least := by
    have := hw.column
    simp only [Place.column, Mark.right_column] at this ⊢
    omega
  have hnext : (spaces (k + 1) ++ t).head?.any isGap = true := by
    simp [spaces_succ, isGap, isBlank_space]
  rw [plainFuel]
  simp only [hw.mark, hw.hash, Bool.or_self, Bool.false_eq_true, if_false, hw.length, hlength,
    Place.skip_append, Bool.false_and, hnext, hgap, htab, Bool.not_true, Bool.not_false,
    Bool.true_and]
  rw [if_neg (by simpa using hcolumn), List.take_left' rfl]
  cases plainFuel false least beginning n ⟨spaces (k + 1), none, []⟩
    ⟨t, m.right (w.length + (k + 1))⟩ with
  | error e => rfl
  | ok r => rfl

/-- The last piece in front of a colon ends the scalar. -/
theorem plainFuel_stop {t : List Char} (ht : t.head?.any isGap = false)
    (hw : PieceAt least w ⟨w ++ t, m⟩) (n : Nat) :
    plainFuel false least beginning (n + 1) gap ⟨w ++ t, m⟩ =
      .ok ⟨gap.text ++ w, ⟨t, m.right w.length⟩, false⟩ := by
  have hlength : w.length ≠ 0 := by simpa using hw.ne_nil
  rw [plainFuel]
  simp only [hw.mark, hw.hash, Bool.or_self, Bool.false_eq_true, if_false, hw.length, hlength,
    Place.skip_append, Bool.false_and, ht, Bool.not_false, if_true]
  simp [Gap.endsLine, Gap.none]

/-- The last piece of a line ends the scalar, unless a line follows that is indented deep enough. -/
theorem plainFuel_line {t : List Char} (ht : startsPiece t) {k : Nat} (hk : k < least ∨ t = [])
    (hw : PieceAt least w ⟨w ++ '\n' :: (spaces k ++ t), m⟩) (n : Nat) :
    plainFuel false least beginning (n + 1) gap ⟨w ++ '\n' :: (spaces k ++ t), m⟩ =
      .ok ⟨gap.text ++ w, ⟨t, (m.right w.length).below.right k⟩, true⟩ := by
  have hlength : w.length ≠ 0 := by simpa using hw.ne_nil
  have hgap : (⟨'\n' :: (spaces k ++ t), m.right w.length⟩ : Place).gapIndented least =
      (⟨[], some '\n', []⟩, ⟨t, (m.right w.length).below.right k⟩) := by
    have noStop : ∀ p : Place, p.sees ' ' → (decide (p.column < least) && p.sees '\t') = false := by
      intro p hp
      simp only [Place.sees, beq_iff_eq] at hp
      simp [Place.sees, hp]
    have hbreak : ∀ c ∈ ['\n'], isBreak c := by simp [isBreak_lineFeed]
    exact gapFuel_lineEnds noStop hbreak (List.all_eq_true.mp rfl) ht (by simp; omega) _
  have htab : (⟨t, (m.right w.length).below.right k⟩ : Place).sees '\t' = false := by
    cases t with
    | nil => rfl
    | cons c cs =>
      have := not_isBlank_of_startsPiece ht
      simp only [isBlank, Bool.or_eq_false_iff] at this
      simpa [Place.sees] using this.2
  rw [plainFuel]
  simp only [hw.mark, hw.hash, Bool.or_self, Bool.false_eq_true, if_false, hw.length, hlength,
    Place.skip_append, Bool.false_and, hgap, htab, Bool.not_false, Bool.true_and]
  simp only [List.head?_cons, Option.any_some, isGap, isBreak_lineFeed, Bool.or_true,
    Bool.not_true, Bool.false_eq_true, if_false, List.take_left']
  have hcolumn : (⟨t, (m.right w.length).below.right k⟩ : Place).column = k := by
    simp [Place.column]
  rcases hk with hk | rfl
  · rw [if_pos (by simpa [hcolumn] using hk)]
    rfl
  · split
    · rfl
    · cases n with
      | zero => simp [plainFuel, Gap.endsLine, bind, Except.bind]
      | succ n =>
        have hend : plainFuel false least beginning (n + 1) ⟨[], some '\n', []⟩
            ⟨[], (m.right w.length).below.right k⟩ =
              .ok ⟨[], ⟨[], (m.right w.length).below.right k⟩, true⟩ := by
          simp [plainFuel, Place.atMark, Place.sees, plainPiece, Gap.endsLine]
        simp [hend, bind, Except.bind]

end Pieces

/-! ## Whole texts -/

/-- A text splits into what is in front of its first spaces, these spaces and the rest. -/
theorem exists_first_spaces {s : List Char} (hgap : ∀ c ∈ s, isGap c = isSpace c)
    (hlast : s.getLast? ≠ some ' ') :
    ∃ w, (∀ c ∈ w, isGap c = false) ∧
      (s = w ∨ ∃ k t, s = w ++ (spaces (k + 1) ++ t) ∧ t ≠ [] ∧ t.head? ≠ some ' ') := by
  induction s with
  | nil => exact ⟨[], by simp, .inl rfl⟩
  | cons c cs ih =>
    have hlast' : cs.getLast? ≠ some ' ' := by
      intro heq
      cases cs with
      | nil => simp at heq
      | cons d ds => exact hlast (by rwa [List.getLast?_cons_cons])
    obtain ⟨w, hw, hs⟩ := ih (fun d hd => hgap d (.tail _ hd)) hlast'
    by_cases hc : c = ' '
    · subst hc
      refine ⟨[], by simp, .inr ?_⟩
      cases w with
      | nil =>
        rcases hs with rfl | ⟨k, t, rfl, ht, hhead⟩
        · simp at hlast
        · exact ⟨k + 1, t, rfl, ht, hhead⟩
      | cons d ds =>
        have hd : d ≠ ' ' := by
          rintro rfl
          exact absurd (hw ' ' List.mem_cons_self) (by decide)
        refine ⟨0, cs, rfl, ?_, ?_⟩
        · rcases hs with rfl | ⟨k, t, rfl, -, -⟩ <;> simp
        · rcases hs with rfl | ⟨k, t, rfl, -, -⟩ <;> simpa using hd
    · have hcgap : isGap c = false := by
        rw [hgap c List.mem_cons_self]
        simpa [isSpace] using hc
      refine ⟨c :: w, ?_, ?_⟩
      · intro d hd
        rcases List.mem_cons.mp hd with rfl | hd
        · exact hcgap
        · exact hw d hd
      · rcases hs with rfl | ⟨k, t, rfl, ht, hhead⟩
        · exact .inl rfl
        · exact .inr ⟨k, t, rfl, ht, hhead⟩

theorem badLater_append {previous : Char} {s t : List Char} (h : badLater previous (s ++ t) = false) :
    badLater (s.getLast?.getD previous) t = false := by
  induction s generalizing previous with
  | nil => exact h
  | cons c cs ih =>
    simp only [List.cons_append, badLater, Bool.or_eq_false_iff] at h
    have := ih h.2
    rw [List.getLast?_cons]
    exact this

/-- What is read piece by piece: texts whose pieces have nothing but spaces between them. -/
structure Spaced (s : List Char) : Prop where
  /-- There is a piece. -/
  ne_nil : s ≠ []
  /-- Only spaces are passed. -/
  gap : ∀ c ∈ s, isGap c = isSpace c
  /-- The first piece is at the beginning. -/
  head : s.head? ≠ some ' '
  /-- The last piece is at the end. -/
  last : s.getLast? ≠ some ' '
  /-- No character of a piece ends the scalar. -/
  later : badLater ' ' s = false

theorem PlainText.spaced {s : List Char} (h : PlainText s) : Spaced s :=
  ⟨h.ne_nil, fun _ hc => h.isGap_eq_isSpace hc, h.head, h.last, h.later⟩

theorem Spaced.startsPiece_append {s : List Char} (h : Spaced s) (t : List Char) :
    startsPiece (s ++ t) := by
  obtain ⟨c, cs, rfl⟩ := List.exists_cons_of_ne_nil h.ne_nil
  rw [List.cons_append, startsPiece_cons, h.gap c List.mem_cons_self]
  simpa [isSpace] using h.head

/-- Behind a piece and spaces the text is of the same form. -/
theorem Spaced.behind {w t : List Char} {k : Nat} (h : Spaced (w ++ (spaces (k + 1) ++ t)))
    (ht : t ≠ []) (hhead : t.head? ≠ some ' ') : Spaced t where
  ne_nil := ht
  gap c hc := h.gap c (by simp [hc])
  head := hhead
  last heq := h.last (by simp [List.getLast?_append, heq])
  later := by
    have hlast : (w ++ spaces (k + 1)).getLast? = some ' ' := by
      rw [spaces, List.replicate_succ', ← List.append_assoc, List.getLast?_concat]
    have hlater := badLater_append (s := w ++ spaces (k + 1)) (by simpa using h.later)
    simpa [hlast] using hlater

/-- Such a text is a piece, or a piece with spaces and such a text behind it. -/
theorem Spaced.exists_piece {s : List Char} (h : Spaced s) :
    ∃ w, w ≠ [] ∧ (∀ c ∈ w, isGap c = false) ∧
      (s = w ∨ ∃ k t, s = w ++ (spaces (k + 1) ++ t) ∧ Spaced t) := by
  obtain ⟨w, hw, rfl | ⟨k, t, rfl, ht, hhead⟩⟩ := exists_first_spaces h.gap h.last
  · exact ⟨s, h.ne_nil, hw, .inl rfl⟩
  · refine ⟨w, ?_, hw, .inr ⟨k, t, rfl, h.behind ht hhead⟩⟩
    rintro rfl
    exact h.head (by simp [spaces_succ])

/-- A text is read piece by piece, if its last piece is. -/
theorem plainFuel_text {least : Nat} {beginning : Mark} {after : List Char} (next : Mark → Place)
    {endsLine : Bool} (hends : plainEnds false after = true)
    (finish : ∀ {w m gap}, PieceAt least w ⟨w ++ after, m⟩ → ∀ n,
      plainFuel false least beginning (n + 1) gap ⟨w ++ after, m⟩ =
        .ok ⟨gap.text ++ w, next (m.right w.length), endsLine⟩)
    {s : List Char} (hs : Spaced s) {n : Nat} (hn : s.length ≤ n) (gap : Gap) {m : Mark}
    (hcolumn : least ≤ m.column + 1) (hmark : (⟨s ++ after, m⟩ : Place).atMark = false) :
    plainFuel false least beginning n gap ⟨s ++ after, m⟩ =
      .ok ⟨gap.text ++ s, next (m.right s.length), endsLine⟩ := by
  obtain ⟨w, hne, hw, hsplit⟩ := hs.exists_piece
  have hpos : 0 < w.length := List.length_pos_iff.mpr hne
  have hlater := hs.later
  cases n with
  | zero => exact absurd (List.length_eq_zero_iff.mp (Nat.le_zero.mp hn)) hs.ne_nil
  | succ n =>
    rcases hsplit with rfl | ⟨k, t, rfl, ht⟩
    · exact finish (.of_badLater (s := []) hne hw (by simpa using hlater) hends hmark hcolumn) n
    · have hassoc : w ++ (spaces (k + 1) ++ t) ++ after = w ++ (spaces (k + 1) ++ t ++ after) := by
        rw [List.append_assoc]
      rw [hassoc] at hmark ⊢
      have hpiece := PieceAt.of_badLater hne hw hlater
        (by simp [spaces_succ, plainEnds, isGap, isBlank_space]) hmark hcolumn
      rw [List.append_assoc] at hpiece ⊢
      have ih := plainFuel_text next hends finish ht (n := n) (by simp at hn; omega)
        ⟨spaces (k + 1), none, []⟩ (m := m.right (w.length + (k + 1))) (by simp; omega)
        (Place.atMark_eq_false (by rw [Place.column, Mark.right_column]; omega))
      rw [plainFuel_spaces (ht.startsPiece_append after) hpiece, ih]
      simp [Except.map, Gap.text, Nat.add_assoc]
termination_by s.length

variable {s : List Char} (h : PlainText s) {least : Nat} {m : Mark} (hcolumn : least ≤ m.column + 1)
include h hcolumn

/-- A plain text at the end of a line is read back, and the line end and the indentation behind it
are passed. -/
theorem Place.plain_line {t : List Char} (ht : startsPiece t) {k : Nat} (hk : k < least ∨ t = []) :
    (⟨s ++ '\n' :: (spaces k ++ t), m⟩ : Place).plain false least =
      .ok ⟨s, ⟨t, (m.right s.length).below.right k⟩, true⟩ := by
  have hends : plainEnds false ('\n' :: (spaces k ++ t)) = true := by
    simp [plainEnds, isGap, isBreak_lineFeed]
  rw [Place.plain, plainFuel_text (fun m => ⟨t, m.below.right k⟩) hends
    (fun hw n => plainFuel_line ht hk hw n) h.spaced (by simp; omega) Gap.none hcolumn
    (h.atMark_append hends m)]
  simp [Gap.text, Gap.none]

/-- A plain text in front of the colon of a key is read back. -/
theorem Place.plain_colon {t : List Char} (ht : blankNext t) :
    (⟨s ++ ':' :: t, m⟩ : Place).plain false least =
      .ok ⟨s, ⟨':' :: t, m.right s.length⟩, false⟩ := by
  have hends : plainEnds false (':' :: t) = true := by simp [plainEnds, ht]
  rw [Place.plain, plainFuel_text (fun m => ⟨':' :: t, m⟩) hends
    (fun hw n => plainFuel_stop (by simp [isGap, isBlank, isBreak]) hw n) h.spaced
    (by simp; omega) Gap.none hcolumn (h.atMark_append hends m)]
  simp [Gap.text, Gap.none]

end BackingServices.Yaml
