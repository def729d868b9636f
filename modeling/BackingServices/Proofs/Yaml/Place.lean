import BackingServices.Yaml.Scalar
import BackingServices.Yaml.Token

/-!
# Moving through a stream

What the readers of tokens pass between two pieces of text: spaces, line ends, or
line ends and the indentation behind them.  The lemmas say where a reader is then.
They are stated for a place whose rest is what is passed followed by an arbitrary
further text that begins with something else.

`startsPiece` says of that further text that it does not begin with a blank or a
line end, `startsToken` that it begins with neither a comment nor a byte order mark
either, so that nothing in front of the next token is passed any more.
-/

namespace BackingServices.Yaml

/-! ## Marks -/

/-- The mark so many characters further in its line. -/
def Mark.right (m : Mark) (n : Nat) : Mark := ⟨m.index + n, m.line, m.column + n⟩

/-- The mark behind a line end of one character. -/
def Mark.below (m : Mark) : Mark := ⟨m.index + 1, m.line + 1, 0⟩

/-- The mark behind some text, whose line ends have one character each. -/
def Mark.after (m : Mark) : List Char → Mark
  | [] => m
  | c :: cs => (if isBreak c then m.below else m.right 1).after cs

@[simp] theorem Mark.right_zero (m : Mark) : m.right 0 = m := rfl

@[simp] theorem Mark.right_right (m : Mark) (a b : Nat) : (m.right a).right b = m.right (a + b) := by
  simp [Mark.right, Nat.add_assoc]

@[simp] theorem Mark.right_column (m : Mark) (n : Nat) : (m.right n).column = m.column + n := rfl

@[simp] theorem Mark.right_line (m : Mark) (n : Nat) : (m.right n).line = m.line := rfl

@[simp] theorem Mark.below_column (m : Mark) : m.below.column = 0 := rfl

@[simp] theorem Mark.below_line (m : Mark) : m.below.line = m.line + 1 := rfl

@[simp] theorem Mark.after_nil (m : Mark) : m.after [] = m := rfl

theorem Mark.after_append (m : Mark) (s t : List Char) : m.after (s ++ t) = (m.after s).after t := by
  induction s generalizing m with
  | nil => rfl
  | cons c cs ih => simp only [List.cons_append, Mark.after, ih]

/-- Behind a text without line ends the mark is on the same line. -/
theorem Mark.after_inline {s : List Char} (h : ∀ c ∈ s, isBreak c = false) (m : Mark) :
    m.after s = m.right s.length := by
  induction s generalizing m with
  | nil => rfl
  | cons c cs ih =>
    rw [Mark.after, h c List.mem_cons_self, ih fun d hd => h d (.tail _ hd)]
    simp [Nat.add_comm 1]

theorem Mark.line_le_after (m : Mark) (s : List Char) : m.line ≤ (m.after s).line := by
  induction s generalizing m with
  | nil => exact Nat.le_refl _
  | cons c cs ih =>
    rw [Mark.after]
    refine Nat.le_trans ?_ (ih _)
    split
    · exact Nat.le_succ m.line
    · exact Nat.le_refl _

/-- Behind a line end the mark is on a later line. -/
theorem Mark.line_lt_below_after (m : Mark) (s : List Char) : m.line < (m.below.after s).line :=
  Nat.lt_of_succ_le (Mark.line_le_after m.below s)

/-- Behind a line end and further ones the mark is in the first column. -/
theorem Mark.below_after_column {cs : List Char} (h : ∀ c ∈ cs, isBreak c) (m : Mark) :
    (m.below.after cs).column = 0 := by
  induction cs generalizing m with
  | nil => rfl
  | cons c cs ih =>
    rw [Mark.after, if_pos (h c List.mem_cons_self)]
    exact ih (fun d hd => h d (.tail _ hd)) m.below

/-! ## Characters -/

theorem isBlank_space : isBlank ' ' = true := by decide

theorem isBreak_space : isBreak ' ' = false := by decide

theorem isBreak_lineFeed : isBreak '\n' = true := by decide

/-- Of the line ends only three are printable. -/
theorem eq_of_isBreak_of_isPrintable {c : Char} (hb : isBreak c) (hp : isPrintable c) :
    c = '\n' ∨ c = '\u2028' ∨ c = '\u2029' := by
  simp only [isBreak, Bool.or_eq_true, beq_iff_eq] at hb
  rcases hb with (((rfl | rfl) | rfl) | rfl) | rfl
  · exact .inl rfl
  · exact absurd hp (by decide)
  · exact absurd hp (by decide)
  · exact .inr (.inl rfl)
  · exact .inr (.inr rfl)

/-- A printable blank is a space. -/
theorem eq_space_of_isBlank {c : Char} (hb : isBlank c) (hp : isPrintable c) : c = ' ' := by
  simp only [isBlank, Bool.or_eq_true, beq_iff_eq] at hb
  rcases hb with rfl | rfl
  · rfl
  · exact absurd hp (by decide)

theorem isGap_eq_of_isPrintable {c : Char} (hp : isPrintable c) :
    isGap c = (isSpace c || isBreak c) := by
  by_cases hs : c = ' '
  · subst hs
    decide
  · have hb : isBlank c = false := by
      rw [Bool.eq_false_iff]
      exact fun h => hs (eq_space_of_isBlank h hp)
    simp [isGap, hb, isSpace, hs]

/-! ## What does not begin with something to pass -/

/-- Whether a text begins with neither a blank nor a line end. -/
def startsPiece (t : List Char) : Bool := t.head?.all fun c => !isGap c

/-- Whether a text begins with a token, or is empty. -/
def startsToken (t : List Char) : Bool :=
  t.head?.all fun c => !(isGap c || c == '#' || c == '\uFEFF')

@[simp] theorem startsPiece_nil : startsPiece [] = true := rfl

@[simp] theorem startsPiece_cons (c : Char) (cs : List Char) :
    startsPiece (c :: cs) = !isGap c := by simp [startsPiece]

@[simp] theorem startsToken_nil : startsToken [] = true := rfl

@[simp] theorem startsToken_cons (c : Char) (cs : List Char) :
    startsToken (c :: cs) = !(isGap c || c == '#' || c == '\uFEFF') := by simp [startsToken]

theorem startsPiece_of_startsToken {t : List Char} (h : startsToken t) : startsPiece t := by
  cases t with
  | nil => rfl
  | cons c cs =>
    simp only [startsToken_cons, Bool.not_eq_true', Bool.or_eq_false_iff] at h
    simp [h.1.1]

theorem not_isGap_of_startsPiece {c : Char} {cs : List Char} (h : startsPiece (c :: cs)) :
    isGap c = false := by simpa using h

theorem not_isBreak_of_startsPiece {c : Char} {cs : List Char} (h : startsPiece (c :: cs)) :
    isBreak c = false := by
  have := not_isGap_of_startsPiece h
  simp only [isGap, Bool.or_eq_false_iff] at this
  exact this.2

theorem not_isBlank_of_startsPiece {c : Char} {cs : List Char} (h : startsPiece (c :: cs)) :
    isBlank c = false := by
  have := not_isGap_of_startsPiece h
  simp only [isGap, Bool.or_eq_false_iff] at this
  exact this.1

/-! ## Spaces -/

@[simp] theorem spaces_zero : spaces 0 = [] := rfl

theorem spaces_succ (n : Nat) : spaces (n + 1) = ' ' :: spaces n := rfl

@[simp] theorem length_spaces (n : Nat) : (spaces n).length = n := List.length_replicate

theorem mem_spaces {c : Char} {n : Nat} (h : c ∈ spaces n) : c = ' ' := List.eq_of_mem_replicate h

theorem not_isBreak_of_mem_spaces {n : Nat} : ∀ c ∈ spaces n, isBreak c = false :=
  fun _ hc => mem_spaces hc ▸ isBreak_space

theorem Mark.after_spaces (m : Mark) (n : Nat) : m.after (spaces n) = m.right n := by
  rw [Mark.after_inline not_isBreak_of_mem_spaces, length_spaces]

/-- A class that has the space passes spaces up to the first character outside it. -/
theorem takeWhile_spaces (class_ : Char → Bool) (hs : class_ ' ' = true) (n : Nat) {t : List Char}
    (ht : t.head?.all fun c => !class_ c) : (spaces n ++ t).takeWhile class_ = spaces n := by
  have hrest : t.takeWhile class_ = [] := by
    cases t with
    | nil => rfl
    | cons c cs => simp_all
  rw [List.takeWhile_append_of_pos fun c hc => mem_spaces hc ▸ hs, hrest, List.append_nil]

/-! ## Places -/

namespace Place

@[simp] theorem skip_append (s t : List Char) (m : Mark) :
    (⟨s ++ t, m⟩ : Place).skip s.length = ⟨t, m.right s.length⟩ := by
  simp [skip, Mark.right]

@[simp] theorem skip_zero (p : Place) : p.skip 0 = p := rfl

theorem skip_one (c : Char) (t : List Char) (m : Mark) :
    (⟨c :: t, m⟩ : Place).skip 1 = ⟨t, m.right 1⟩ := rfl

theorem skip_spaces (n : Nat) (t : List Char) (m : Mark) :
    (⟨spaces n ++ t, m⟩ : Place).skip n = ⟨t, m.right n⟩ := by
  simpa using skip_append (spaces n) t m

theorem skipWhile_spaces (class_ : Char → Bool) (hs : class_ ' ' = true) (n : Nat) {t : List Char}
    (ht : t.head?.all fun c => !class_ c) (m : Mark) :
    (⟨spaces n ++ t, m⟩ : Place).skipWhile class_ = ⟨t, m.right n⟩ := by
  rw [skipWhile, takeWhile_spaces class_ hs n ht, length_spaces, skip_spaces]

theorem takeBreak?_eq_none {t : List Char} (h : t.head?.all fun c => !isBreak c) (m : Mark) :
    (⟨t, m⟩ : Place).takeBreak? = none := by
  cases t with
  | nil => rfl
  | cons c cs =>
    have hc : isBreak c = false := by simpa using h
    unfold takeBreak?
    split
    · rename_i heq
      injection heq with heq
      subst heq
      exact absurd hc (by decide)
    · rename_i heq
      injection heq with heq
      subst heq
      simp [hc]
    · rfl

/-- A printable line end is read as it is. -/
theorem takeBreak?_cons {c : Char} (hb : isBreak c) (hp : isPrintable c) (t : List Char) (m : Mark) :
    (⟨c :: t, m⟩ : Place).takeBreak? = some (c, ⟨t, m.below⟩) := by
  rcases eq_of_isBreak_of_isPrintable hb hp with rfl | rfl | rfl <;> rfl

theorem takeBreak?_eq_none_of_startsPiece {t : List Char} (h : startsPiece t) (m : Mark) :
    (⟨t, m⟩ : Place).takeBreak? = none := by
  apply takeBreak?_eq_none
  cases t with
  | nil => rfl
  | cons c cs => simp [not_isBreak_of_startsPiece h]

/-- No mark of a document stands behind the first column. -/
theorem atMark_eq_false {p : Place} (h : 0 < p.column) : p.atMark = false := by
  have : (p.column == 0) = false := by simp; omega
  simp [atMark, this]

theorem sees_cons (c d : Char) (t : List Char) (m : Mark) :
    (⟨d :: t, m⟩ : Place).sees c = (d == c) := by
  simp [sees]

end Place

/-! ## Gaps -/

section Gaps

variable {stop : Place → Bool} (noStop : ∀ p : Place, p.sees ' ' → stop p = false)
include noStop

/-- The spaces of a line that has just begun are passed. -/
theorem gapFuel_indentation {g : Gap} (hg : g.endsLine) {t : List Char} (ht : startsPiece t)
    {n k : Nat} (hn : k < n) (m : Mark) :
    gapFuel stop n g ⟨spaces k ++ t, m⟩ = (g, ⟨t, m.right k⟩) := by
  induction n generalizing k m with
  | zero => contradiction
  | succ n ih =>
    cases k with
    | zero =>
      unfold gapFuel
      simp only [spaces_zero, List.nil_append, Mark.right_zero,
        Place.takeBreak?_eq_none_of_startsPiece ht]
      cases t with
      | nil => rfl
      | cons c cs => simp [not_isBlank_of_startsPiece ht]
    | succ k =>
      have hstop : stop ⟨spaces (k + 1) ++ t, m⟩ = false := noStop _ (by simp [Place.sees, spaces_succ])
      have hbreak : (⟨spaces (k + 1) ++ t, m⟩ : Place).takeBreak? = none :=
        Place.takeBreak?_eq_none (by simp [spaces_succ, isBreak_space]) m
      unfold gapFuel
      simp only [hbreak, hstop, hg]
      simp only [spaces_succ, List.cons_append, isBlank_space, if_true, Place.skip_one]
      rw [if_neg (by decide), ih (by omega) (m.right 1), Mark.right_right, Nat.add_comm 1 k]

omit noStop in
/-- The spaces between two pieces of a line are passed and kept. -/
theorem gapFuel_blanks (b : List Char) {t : List Char} (ht : startsPiece t) {n k : Nat} (hn : k < n)
    (m : Mark) :
    gapFuel stop n ⟨b, none, []⟩ ⟨spaces k ++ t, m⟩ = (⟨b ++ spaces k, none, []⟩, ⟨t, m.right k⟩) := by
  induction n generalizing k m b with
  | zero => contradiction
  | succ n ih =>
    cases k with
    | zero =>
      unfold gapFuel
      simp only [spaces_zero, List.nil_append, List.append_nil, Mark.right_zero,
        Place.takeBreak?_eq_none_of_startsPiece ht]
      cases t with
      | nil => rfl
      | cons c cs => simp [not_isBlank_of_startsPiece ht]
    | succ k =>
      have hbreak : (⟨spaces (k + 1) ++ t, m⟩ : Place).takeBreak? = none :=
        Place.takeBreak?_eq_none (by simp [spaces_succ, isBreak_space]) m
      unfold gapFuel
      simp only [hbreak]
      simp only [spaces_succ, List.cons_append, isBlank_space, if_true, Place.skip_one,
        Gap.endsLine, Option.isSome_none, Bool.false_eq_true, if_false]
      rw [ih (b ++ [' ']) (by omega) (m.right 1)]
      simp [Mark.right_right, Nat.add_comm 1 k]

/-- Further line ends are passed and kept, and the indentation behind them is passed. -/
theorem gapFuel_further {bs : List Char} (hb : ∀ c ∈ bs, isBreak c) (hp : ∀ c ∈ bs, isPrintable c)
    (first : Char) (further : List Char) {t : List Char} (ht : startsPiece t) {n k : Nat}
    (hn : bs.length + k < n) (m : Mark) :
    gapFuel stop n ⟨[], some first, further⟩ ⟨bs ++ (spaces k ++ t), m⟩ =
      (⟨[], some first, further ++ bs⟩, ⟨t, (m.after bs).right k⟩) := by
  induction bs generalizing n m further with
  | nil =>
    rw [List.nil_append, gapFuel_indentation noStop rfl ht (by simpa using hn)]
    simp
  | cons c cs ih =>
    cases n with
    | zero => contradiction
    | succ n =>
      unfold gapFuel
      simp only [List.cons_append,
        Place.takeBreak?_cons (hb c List.mem_cons_self) (hp c List.mem_cons_self)]
      rw [ih (fun d hd => hb d (.tail _ hd)) (fun d hd => hp d (.tail _ hd)) (further ++ [c])
        (by simp only [List.length_cons] at hn; omega) m.below]
      simp [Mark.after, hb c List.mem_cons_self]

/-- Line ends and the indentation behind them are passed. -/
theorem gapFuel_lineEnds {first : Char} {bs : List Char} (hb : ∀ c ∈ first :: bs, isBreak c)
    (hp : ∀ c ∈ first :: bs, isPrintable c) {t : List Char} (ht : startsPiece t) {n k : Nat}
    (hn : bs.length + 1 + k < n) (m : Mark) :
    gapFuel stop n Gap.none ⟨first :: bs ++ (spaces k ++ t), m⟩ =
      (⟨[], some first, bs⟩, ⟨t, (m.after (first :: bs)).right k⟩) := by
  cases n with
  | zero => contradiction
  | succ n =>
    unfold gapFuel
    simp only [List.cons_append, Gap.none,
      Place.takeBreak?_cons (hb first List.mem_cons_self) (hp first List.mem_cons_self)]
    rw [gapFuel_further noStop (fun d hd => hb d (.tail _ hd)) (fun d hd => hp d (.tail _ hd)) first []
      ht (by omega) m.below]
    simp [Mark.after, hb first List.mem_cons_self]

end Gaps

/-! ## Between tokens -/

namespace Lexer

/-- In front of a token the spaces of its line are passed. -/
theorem skipGapFuel_spaces {l : Lexer} {t : List Char} (ht : startsToken t) {k : Nat} {m : Mark}
    (h : l.place = ⟨spaces k ++ t, m⟩) (n : Nat) :
    skipGapFuel (n + 1) l = { l with place := ⟨t, m.right k⟩ } := by
  have hmark : ¬(l.place.column = 0 ∧ l.place.sees '\uFEFF') := by
    rintro ⟨-, hsees⟩
    rw [h] at hsees
    cases k with
    | zero =>
      cases t with
      | nil => simp [Place.sees] at hsees
      | cons c cs =>
        simp only [Place.sees, spaces_zero, List.nil_append, List.head?_cons, beq_iff_eq,
          Option.some.injEq] at hsees
        subst hsees
        exact absurd ht (by simp)
    | succ k => simp [Place.sees, spaces_succ] at hsees
  have hclass : t.head?.all fun c =>
      !(c == ' ' || (c == '\t' && (l.inFlow || !l.keyAllowed))) := by
    cases t with
    | nil => rfl
    | cons c cs =>
      have := not_isBlank_of_startsPiece (startsPiece_of_startsToken ht)
      simp only [isBlank, Bool.or_eq_false_iff, beq_eq_false_iff_ne] at this
      simp [this.1, this.2]
  have hskip : (l.place.skipWhile fun c => c == ' ' || (c == '\t' && (l.inFlow || !l.keyAllowed))) =
      ⟨t, m.right k⟩ := by
    rw [h]
    exact Place.skipWhile_spaces _ (by simp) k hclass m
  have hcomment : (⟨t, m.right k⟩ : Place).skipComment = ⟨t, m.right k⟩ := by
    have : (⟨t, m.right k⟩ : Place).sees '#' = false := by
      cases t with
      | nil => rfl
      | cons c cs =>
        simp only [startsToken_cons, Bool.not_eq_true', Bool.or_eq_false_iff] at ht
        simpa [Place.sees] using ht.1.2
    simp [Place.skipComment, this]
  rw [skipGapFuel]
  simp only [if_neg hmark, hskip, hcomment,
    Place.takeBreak?_eq_none_of_startsPiece (startsPiece_of_startsToken ht)]

theorem skipGap_spaces {l : Lexer} {t : List Char} (ht : startsToken t) {k : Nat} {m : Mark}
    (h : l.place = ⟨spaces k ++ t, m⟩) : l.skipGap = { l with place := ⟨t, m.right k⟩ } :=
  skipGapFuel_spaces ht h l.place.rest.length

theorem skipGap_token {l : Lexer} (h : startsToken l.place.rest) : l.skipGap = l := by
  have := skipGap_spaces (l := l) (k := 0) (m := l.place.mark) h rfl
  simpa using this

/-- In front of a token the end of a line and the spaces of the next one are passed. -/
theorem skipGap_line {l : Lexer} {t : List Char} (ht : startsToken t) {k : Nat} {m : Mark}
    (h : l.place = ⟨'\n' :: (spaces k ++ t), m⟩) :
    l.skipGap =
      { l with place := ⟨t, m.below.right k⟩, keyAllowed := l.keyAllowed || !l.inFlow } := by
  have hmark : ¬(l.place.column = 0 ∧ l.place.sees '\uFEFF') := by
    rintro ⟨-, hsees⟩
    simp [h, Place.sees] at hsees
  have hskip : (l.place.skipWhile fun c => c == ' ' || (c == '\t' && (l.inFlow || !l.keyAllowed))) =
      l.place := by
    simp [h, Place.skipWhile, Place.skip]
  have hcomment : l.place.skipComment = l.place := by simp [h, Place.skipComment, Place.sees]
  have hbreak : l.place.takeBreak? = some ('\n', ⟨spaces k ++ t, m.below⟩) := by
    rw [h]
    exact Place.takeBreak?_cons isBreak_lineFeed (by decide) _ m
  have hlength : l.place.rest.length = (spaces k ++ t).length + 1 := by simp [h]
  rw [skipGap, hlength, skipGapFuel]
  simp only [if_neg hmark, hskip, hcomment, hbreak]
  exact skipGapFuel_spaces ht rfl _

end Lexer

end BackingServices.Yaml
