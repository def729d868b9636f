import BackingServices.Proofs.Yaml.Digits
import BackingServices.Proofs.Yaml.Place

/-!
# Quoted scalars are read back

Between single quotes a text is read back if no space stands beside a line end and none
of its line ends is a line feed (`quoted_single`).  Between double quotes every text is
(`quoted_double`).

The reader takes as many ordinary characters at once as there are.  That it might as
well take them one by one (`quotedFuel_cons`) lets the inductions follow the text.
-/

namespace BackingServices.Yaml

/-! ## One character at a time -/

/-- Whether a character between quotes stands for itself and ends no line. -/
def isOrdinary (quote c : Char) : Bool := !(isGap c || c == quote || (quote == '"' && c == '\\'))

theorem quotedPiece_cons {quote c : Char} (h : isOrdinary quote c) (t : List Char) :
    quotedPiece quote (c :: t) = quotedPiece quote t + 1 :=
  congrArg List.length (List.takeWhile_cons_of_pos h)

theorem quotedPiece_eq_zero {quote c : Char} (h : isOrdinary quote c = false) (t : List Char) :
    quotedPiece quote (c :: t) = 0 :=
  congrArg List.length (List.takeWhile_cons_of_neg (Bool.eq_false_iff.mp h))

section Reading

variable {quote : Char} {beginning : Mark} {m : Mark} (hm : 0 < m.column) (n : Nat)
include hm

/-- An ordinary character is taken before what follows is read. -/
theorem quotedFuel_cons {c : Char} (hc : isOrdinary quote c) (t : List Char) :
    quotedFuel quote beginning (n + 1) ⟨c :: t, m⟩ =
      (quotedFuel quote beginning (n + 1) ⟨t, m.right 1⟩).map fun r => (c :: r.1, r.2) := by
  have hskip : (⟨c :: t, m⟩ : Place).skip (quotedPiece quote t + 1) =
      (⟨t, m.right 1⟩ : Place).skip (quotedPiece quote t) := by
    simp [Place.skip, Mark.right, Nat.add_assoc, Nat.add_comm 1]
  rw [quotedFuel, quotedFuel, Place.atMark_eq_false (p := ⟨c :: t, m⟩) hm,
    Place.atMark_eq_false (p := ⟨t, m.right 1⟩) (by simp [Place.column])]
  simp only [Bool.false_eq_true, if_false, quotedPiece_cons hc, hskip, List.take_succ_cons]
  generalize (⟨t, m.right 1⟩ : Place).skip (quotedPiece quote t) = q
  cases q.rest with
  | nil => rfl
  | cons d ds =>
    simp only
    split
    · cases quotedFuel quote beginning n q.gap.2 <;> rfl
    split
    · cases (q.skip 1).takeBreak? with
      | none =>
        simp only
        cases escapeAt beginning q with
        | error e => rfl
        | ok r =>
          simp only [bind, Except.bind]
          cases quotedFuel quote beginning n r.2 <;> rfl
      | some r =>
        simp only
        cases quotedFuel quote beginning n r.2.gap.2 <;> rfl
    split
    · cases quotedFuel quote beginning n (q.skip 2) <;> rfl
    · rfl

/-- The closing quote ends the scalar. -/
theorem quotedFuel_close (hquote : quote = '\'' ∨ quote = '"') {t : List Char}
    (ht : t.head? ≠ some '\'') :
    quotedFuel quote beginning (n + 1) ⟨quote :: t, m⟩ = .ok ([], ⟨t, m.right 1⟩) := by
  have hordinary : isOrdinary quote quote = false := by simp [isOrdinary]
  have hgap : isGap quote = false := by rcases hquote with rfl | rfl <;> decide
  have hescape : quote ≠ '\\' := by rcases hquote with rfl | rfl <;> decide
  have hdouble : ¬(quote = '\'' ∧ t.head? = some quote) := by
    rintro ⟨rfl, heq⟩
    exact ht heq
  rw [quotedFuel, Place.atMark_eq_false (p := ⟨quote :: t, m⟩) hm]
  simp [quotedPiece_eq_zero hordinary, hgap, hescape, hdouble, Place.skip_one]

/-- Between single quotes a quote is written twice. -/
theorem quotedFuel_quote (t : List Char) :
    quotedFuel '\'' beginning (n + 1) ⟨'\'' :: '\'' :: t, m⟩ =
      (quotedFuel '\'' beginning n ⟨t, m.right 2⟩).map fun r => ('\'' :: r.1, r.2) := by
  rw [quotedFuel, Place.atMark_eq_false (p := ⟨'\'' :: '\'' :: t, m⟩) hm]
  simp only [Bool.false_eq_true, if_false,
    quotedPiece_eq_zero (by decide : isOrdinary '\'' '\'' = false), Place.skip_zero, List.take_zero,
    List.nil_append]
  rw [if_neg (by decide), if_neg (by decide), if_pos (by simp)]
  change (quotedFuel '\'' beginning n ⟨t, m.right 2⟩).bind _ = _
  cases quotedFuel '\'' beginning n ⟨t, m.right 2⟩ <;> rfl

/-- The spaces between two pieces are kept. -/
theorem quotedFuel_spaces {t : List Char} (ht : startsPiece t) (k : Nat) :
    quotedFuel quote beginning (n + 1) ⟨spaces (k + 1) ++ t, m⟩ =
      (quotedFuel quote beginning n ⟨t, m.right (k + 1)⟩).map
        fun r => (spaces (k + 1) ++ r.1, r.2) := by
  have hgap : (⟨spaces (k + 1) ++ t, m⟩ : Place).gap =
      (⟨spaces (k + 1), none, []⟩, ⟨t, m.right (k + 1)⟩) := by
    rw [Place.gap, Gap.none, gapFuel_blanks [] ht (by rw [List.length_append, length_spaces]; omega)]
    simp
  have hordinary : isOrdinary quote ' ' = false := by simp [isOrdinary, isGap, isBlank_space]
  rw [quotedFuel, Place.atMark_eq_false (p := ⟨spaces (k + 1) ++ t, m⟩) hm]
  simp only [Bool.false_eq_true, if_false]
  rw [show quotedPiece quote (spaces (k + 1) ++ t) = 0 from quotedPiece_eq_zero hordinary _,
    Place.skip_zero]
  simp only [hgap]
  rw [spaces_succ]
  simp only [List.cons_append, isGap, isBlank_space, Bool.true_or, if_true, List.take_zero,
    List.nil_append, Gap.text]
  change (quotedFuel quote beginning n ⟨t, m.right (k + 1)⟩).bind _ = _
  cases quotedFuel quote beginning n ⟨t, m.right (k + 1)⟩ <;> rfl

/-- Line ends other than line feeds are kept, without the indentation behind them. -/
theorem quotedFuel_lineEnds {c : Char} {bs : List Char} (hb : ∀ d ∈ c :: bs, isBreak d)
    (hp : ∀ d ∈ c :: bs, isPrintable d) (hc : c ≠ '\n') {t : List Char} (ht : startsPiece t)
    (k : Nat) :
    quotedFuel quote beginning (n + 1) ⟨c :: bs ++ (spaces k ++ t), m⟩ =
      (quotedFuel quote beginning n ⟨t, (m.after (c :: bs)).right k⟩).map
        fun r => (c :: bs ++ r.1, r.2) := by
  have hgap : (⟨c :: bs ++ (spaces k ++ t), m⟩ : Place).gap =
      (⟨[], some c, bs⟩, ⟨t, (m.after (c :: bs)).right k⟩) :=
    gapFuel_lineEnds (fun _ _ => rfl) hb hp ht (by simp; omega) m
  have hgapc : isGap c = true := by simp [isGap, hb c List.mem_cons_self]
  have hordinary : isOrdinary quote c = false := by simp [isOrdinary, hgapc]
  rw [quotedFuel, Place.atMark_eq_false (p := ⟨c :: bs ++ (spaces k ++ t), m⟩) hm]
  simp only [Bool.false_eq_true, if_false]
  rw [show quotedPiece quote (c :: bs ++ (spaces k ++ t)) = 0 from quotedPiece_eq_zero hordinary _,
    Place.skip_zero]
  simp only [hgap]
  simp only [List.cons_append, hgapc, if_true, List.take_zero, List.nil_append, Gap.text, hc, if_false]
  change (quotedFuel quote beginning n ⟨t, (m.after (c :: bs)).right k⟩).bind _ = _
  cases quotedFuel quote beginning n ⟨t, (m.after (c :: bs)).right k⟩ <;> rfl

/-- An escape is read as the character it stands for. -/
theorem quotedFuel_escape {c d : Char} {ds t : List Char} (hd : isBreak d = false)
    (he : escapeAt beginning ⟨'\\' :: d :: (ds ++ t), m⟩ = .ok (c, ⟨t, m.right (ds.length + 2)⟩)) :
    quotedFuel '"' beginning (n + 1) ⟨'\\' :: d :: (ds ++ t), m⟩ =
      (quotedFuel '"' beginning n ⟨t, m.right (ds.length + 2)⟩).map fun r => (c :: r.1, r.2) := by
  have hbreak : (⟨d :: (ds ++ t), m.right 1⟩ : Place).takeBreak? = none :=
    Place.takeBreak?_eq_none (by simp [hd]) _
  rw [quotedFuel, Place.atMark_eq_false (p := ⟨'\\' :: d :: (ds ++ t), m⟩) hm]
  simp only [Bool.false_eq_true, if_false,
    quotedPiece_eq_zero (by decide : isOrdinary '"' '\\' = false), Place.skip_zero, List.take_zero,
    List.nil_append]
  rw [if_neg (by decide), if_pos trivial]
  simp only [Place.skip_one, hbreak, he]
  change (quotedFuel '"' beginning n ⟨t, m.right (ds.length + 2)⟩).bind _ = _
  cases quotedFuel '"' beginning n ⟨t, m.right (ds.length + 2)⟩ <;> rfl

end Reading

/-! ## Pairs of characters -/

theorem hasPair_of_append {f g : Char → Bool} {s t : List Char} (h : hasPair f g (s ++ t) = false) :
    hasPair f g t = false := by
  induction s with
  | nil => exact h
  | cons c cs ih =>
    apply ih
    cases hcs : cs ++ t with
    | nil => rfl
    | cons d ds =>
      rw [List.cons_append, hcs, hasPair, Bool.or_eq_false_iff] at h
      exact h.2

/-- Without such a pair the second class does not follow on the first. -/
theorem head_of_hasPair {f g : Char → Bool} {c : Char} {t : List Char}
    (h : hasPair f g (c :: t) = false) (hc : f c) : t.head?.all fun d => !g d := by
  cases t with
  | nil => rfl
  | cons d ds =>
    simp only [hasPair, hc, Bool.true_and, Bool.or_eq_false_iff] at h
    simp [h.1]

/-- A run of characters of a class, and what follows it. -/
theorem exists_run (f : Char → Bool) {c : Char} (hc : f c) (cs : List Char) :
    ∃ bs t, c :: cs = c :: bs ++ t ∧ (∀ d ∈ c :: bs, f d) ∧ t.head?.all (fun d => !f d) := by
  refine ⟨cs.takeWhile f, cs.dropWhile f, ?_, ?_, ?_⟩
  · simp
  · intro d hd
    rcases List.mem_cons.mp hd with rfl | hd
    · exact hc
    · exact List.all_eq_true.mp List.all_takeWhile d hd
  · have := List.head?_dropWhile_not f cs
    cases hdrop : (cs.dropWhile f).head? with
    | none => rfl
    | some d => simpa [hdrop] using this

/-- Behind a run of the first class the second one does not follow. -/
theorem head_of_run {f g : Char → Bool} {c : Char} {bs t : List Char}
    (h : hasPair f g (c :: bs ++ t) = false) (hf : ∀ d ∈ c :: bs, f d) :
    t.head?.all fun d => !g d := by
  induction bs generalizing c with
  | nil => exact head_of_hasPair h (hf c List.mem_cons_self)
  | cons d ds ih => exact ih (hasPair_of_append (s := [c]) h) fun e he => hf e (.tail _ he)

/-- A printable text that begins with neither a space nor a line end begins with a piece. -/
theorem startsPiece_of_printable {t : List Char} (hp : ∀ c ∈ t, isPrintable c)
    (hs : t.head?.all fun c => !isSpace c) (hb : t.head?.all fun c => !isBreak c) :
    startsPiece t := by
  cases t with
  | nil => rfl
  | cons c cs =>
    simp only [List.head?_cons, Option.all_some, Bool.not_eq_true'] at hs hb
    simp [isGap_eq_of_isPrintable (hp c List.mem_cons_self), hs, hb]

theorem eq_spaces {bs : List Char} (h : ∀ d ∈ bs, isSpace d) : bs = spaces bs.length := by
  rw [spaces, List.eq_replicate_iff]
  exact ⟨rfl, fun d hd => by simpa [isSpace] using h d hd⟩

/-! ## Single quotes -/

theorem singleBody_cons {column : Nat} {c : Char} (hc : isBreak c = false) (cs : List Char) :
    singleBody column false (c :: cs) =
      (if c = '\'' then ['\'', '\''] else [c]) ++ singleBody column false cs := by
  simp [singleBody, hc]

theorem singleBody_true (column : Nat) {t : List Char} (ht : t.head?.all fun c => !isBreak c) :
    singleBody column true t = spaces column ++ singleBody column false t := by
  cases t with
  | nil => simp [singleBody]
  | cons c cs =>
    have hc : isBreak c = false := by simpa using ht
    simp [singleBody, hc]

theorem singleBody_breaks {column : Nat} {bs : List Char} (hb : ∀ c ∈ bs, isBreak c) (t : List Char)
    (broken : Bool) (hne : bs ≠ []) :
    singleBody column broken (bs ++ t) = bs ++ singleBody column true t := by
  induction bs generalizing broken with
  | nil => exact absurd rfl hne
  | cons c cs ih =>
    rw [List.cons_append, singleBody, if_pos (hb c List.mem_cons_self)]
    cases cs with
    | nil => rfl
    | cons d ds => rw [ih (fun e he => hb e (.tail _ he)) true (by simp), List.cons_append (a := c)]

theorem singleBody_spaces (column : Nat) (k : Nat) (t : List Char) :
    singleBody column false (spaces k ++ t) = spaces k ++ singleBody column false t := by
  induction k with
  | zero => rfl
  | succ k ih =>
    rw [spaces_succ, List.cons_append, singleBody_cons isBreak_space, ih]
    rfl

/-- What a text between single quotes begins with. -/
theorem startsPiece_singleBody {column : Nat} {s : List Char} (h : startsPiece s) (t : List Char) :
    startsPiece (singleBody column false s ++ '\'' :: t) := by
  cases s with
  | nil => rfl
  | cons c cs =>
    rw [singleBody_cons (not_isBreak_of_startsPiece h)]
    split
    · rfl
    · simpa using h

/-- What lets a text stand between single quotes. -/
structure SingleText (s : List Char) : Prop where
  /-- All characters may stand as they are. -/
  printable : ∀ c ∈ s, isPrintable c
  /-- No line end is a line feed. -/
  lineFeed : '\n' ∉ s
  /-- No space follows a line end. -/
  breakSpace : hasPair isBreak isSpace s = false
  /-- No line end follows a space. -/
  spaceBreak : hasPair isSpace isBreak s = false

theorem SingleText.of_append {s t : List Char} (h : SingleText (s ++ t)) : SingleText t :=
  ⟨fun c hc => h.printable c (List.mem_append_right s hc),
    fun hmem => h.lineFeed (List.mem_append_right s hmem), hasPair_of_append h.breakSpace,
    hasPair_of_append h.spaceBreak⟩

theorem SingleText.of_shape {s : List Char} (h : (shape s).single = true) (hs : '\n' ∉ s) :
    SingleText s := by
  cases s with
  | nil => exact ⟨by simp, by simp, rfl, rfl⟩
  | cons c cs =>
    simp only [shape, List.isEmpty_cons, Bool.false_eq_true, if_false, Bool.not_eq_true',
      Bool.or_eq_false_iff] at h
    obtain ⟨⟨hbreakSpace, hspaceBreak⟩, hspecial⟩ := h
    exact ⟨fun d hd => List.all_eq_true.mp (by simpa using hspecial) d hd, hs, hbreakSpace, hspaceBreak⟩

/-- A text between single quotes is read back up to the closing quote. -/
theorem quotedFuel_singleBody {column : Nat} (hcolumn : 0 < column) {beginning : Mark}
    {t : List Char} (ht : t.head? ≠ some '\'') {s : List Char} (h : SingleText s) {n : Nat}
    (hn : s.length < n) {m : Mark} (hm : 0 < m.column) :
    quotedFuel '\'' beginning n ⟨singleBody column false s ++ '\'' :: t, m⟩ =
      .ok (s, ⟨t, (m.after (singleBody column false s)).right 1⟩) := by
  induction hk : s.length using Nat.strongRecOn generalizing s n m with
  | ind k ih =>
    subst hk
    obtain _ | n := n
    · contradiction
    obtain _ | ⟨c, cs⟩ := s
    · exact quotedFuel_close hm n (.inl rfl) ht
    have hprintable := h.printable c List.mem_cons_self
    by_cases hbreak : isBreak c
    · -- The whole run of line ends is passed at once, with the indentation behind it.
      obtain ⟨bs, u, hcs, hbs, hu⟩ := exists_run isBreak hbreak cs
      rw [hcs] at h hn ih ⊢
      have hpiece : startsPiece u := startsPiece_of_printable
        (fun d hd => h.printable d (List.mem_append_right _ hd)) (head_of_run h.breakSpace hbs) hu
      rw [singleBody_breaks hbs u false (by simp), singleBody_true column hu, List.append_assoc,
        List.append_assoc, quotedFuel_lineEnds hm n hbs
          (fun d hd => h.printable d (List.mem_append_left u hd))
          (fun heq => h.lineFeed (heq ▸ by simp)) (startsPiece_singleBody hpiece t),
        ih u.length (by rw [List.length_append, List.length_cons]; omega) (.of_append h)
          (by simp at hn; omega) (by rw [Mark.right_column]; omega) rfl]
      simp only [Mark.after_append, Mark.after_spaces]
      rfl
    have hbreak : isBreak c = false := by simpa using hbreak
    by_cases hspace : isSpace c
    · obtain ⟨bs, u, hcs, hbs, hu⟩ := exists_run isSpace hspace cs
      rw [hcs] at h hn ih ⊢
      have hpiece : startsPiece u := startsPiece_of_printable
        (fun d hd => h.printable d (List.mem_append_right _ hd)) hu (head_of_run h.spaceBreak hbs)
      rw [eq_spaces hbs] at h ⊢
      rw [singleBody_spaces, List.append_assoc, List.length_cons,
        quotedFuel_spaces hm n (startsPiece_singleBody hpiece t),
        ih u.length (by rw [List.length_append, List.length_cons]; omega) (.of_append h)
          (by simp at hn; omega) (by rw [Mark.right_column]; omega) rfl]
      simp only [Mark.after_append, Mark.after_spaces]
      rfl
    have htail : SingleText cs := .of_append (s := [c]) h
    have hlength : cs.length < n := by simpa using hn
    rw [singleBody_cons hbreak]
    by_cases hquote : c = '\''
    · subst hquote
      simp only [if_true, List.cons_append, List.nil_append]
      rw [quotedFuel_quote hm n, ih cs.length (by simp) htail hlength (by simp) rfl]
      simp [Except.map, Mark.after, isBreak]
    · have hordinary : isOrdinary '\'' c := by
        simp [isOrdinary, isGap_eq_of_isPrintable hprintable, hbreak, hspace, hquote]
      simp only [hquote, if_false, List.cons_append, List.nil_append]
      rw [quotedFuel_cons hm n hordinary,
        ih cs.length (by simp) htail (Nat.lt_succ_of_lt hlength) (by simp) rfl]
      simp [Except.map, Mark.after, hbreak]

theorem length_le_singleBody (column : Nat) (s : List Char) (broken : Bool) :
    s.length ≤ (singleBody column broken s).length := by
  induction s generalizing broken with
  | nil => simp
  | cons c cs ih =>
    rw [singleBody]
    split
    · simpa using ih true
    · have hc : 1 ≤ (if c = '\'' then ['\'', '\''] else [c]).length := by split <;> simp
      have := ih false
      simp only [List.length_cons, List.length_append]
      omega

/-- A text between single quotes is read back. -/
theorem Place.quoted_single {column : Nat} (hcolumn : 0 < column) {s : List Char} (h : SingleText s)
    {t : List Char} (ht : t.head? ≠ some '\'') (m : Mark) :
    (⟨singleQuoted column s ++ t, m⟩ : Place).quoted '\'' =
      .ok (s, ⟨t, m.after (singleQuoted column s)⟩) := by
  have hlength := length_le_singleBody column s false
  rw [singleQuoted, List.append_assoc, List.cons_append, Place.quoted, Place.skip_one]
  simp only [List.singleton_append]
  rw [quotedFuel_singleBody hcolumn ht h (by simp; omega) (by simp)]
  simp [Mark.after, Mark.after_append, isBreak]

/-! ## Double quotes -/

/-- Behind a backslash a character and what follows it are read as this character. -/
structure Escapes (c d : Char) (ds : List Char) : Prop where
  /-- The line does not end behind the backslash. -/
  line : isBreak d = false
  /-- What is behind the escape is left. -/
  read : ∀ beginning m t, escapeAt beginning ⟨'\\' :: d :: (ds ++ t), m⟩ =
    .ok (c, ⟨t, m.right (ds.length + 2)⟩)

theorem Escapes.letter {c letter : Char} (h : escapeLetters.lookup c = some letter) :
    Escapes c letter [] := by
  have hletters : ∀ p ∈ escapeLetters, isBreak p.2 = false ∧ letterEscapes.lookup p.2 = some p.1 := by
    decide
  have hmem : (c, letter) ∈ escapeLetters := by
    obtain ⟨l₁, l₂, hl, -⟩ := List.lookup_eq_some_iff.mp h
    simp [hl]
  obtain ⟨hbreak, hread⟩ := hletters _ hmem
  refine ⟨hbreak, fun beginning m t => ?_⟩
  simp only [escapeAt, List.drop_succ_cons, List.drop_zero, List.nil_append, hread]
  rfl

theorem escapeWidth?_eq_some {x : Char} {width : Nat} (h : escapeWidth? x = some width) :
    x = 'x' ∧ width = 2 ∨ x = 'u' ∧ width = 4 ∨ x = 'U' ∧ width = 8 := by
  unfold escapeWidth? at h
  grind

/-- The digits of a character are read as it, if the letter in front of them leaves them room. -/
theorem Escapes.digits {c x : Char} {width : Nat} (hwidth : escapeWidth? x = some width)
    (hdigits : c.toNat < Nat.pow 16 width) : Escapes c x (upperHex width c.toNat) := by
  obtain ⟨hbreak, hletter, hpositive⟩ :
      isBreak x = false ∧ letterEscapes.lookup x = none ∧ 0 < width := by
    rcases escapeWidth?_eq_some hwidth with ⟨rfl, rfl⟩ | ⟨rfl, rfl⟩ | ⟨rfl, rfl⟩ <;> decide
  have hlength := length_upperHex ((Nat.length_toDigits_le_iff (by decide) hpositive).mpr hdigits)
  refine ⟨hbreak, fun beginning m t => ?_⟩
  have hskip : (⟨'\\' :: x :: (upperHex width c.toNat ++ t), m⟩ : Place).skip (2 + width) =
      ⟨t, m.right (width + 2)⟩ := by
    simp [Place.skip, Mark.right, Nat.add_comm 2 width, hlength]
  have htake : (⟨'\\' :: x :: (upperHex width c.toNat ++ t), m⟩ : Place).skip 2 =
      ⟨upperHex width c.toNat ++ t, m.right 2⟩ := rfl
  have hnumber : numericEscape beginning width ⟨upperHex width c.toNat ++ t, m.right 2⟩ = .ok c := by
    rw [numericEscape]
    simp only [List.take_append_of_le_length (Nat.le_of_eq hlength.symm),
      List.take_of_length_le (Nat.le_of_eq hlength), hlength, Nat.lt_irrefl, if_false,
      digitsValue?_upperHex]
    rw [if_pos (show c.toNat.isValidChar from c.valid), Char.ofNat_toNat]
  simp only [escapeAt, List.drop_succ_cons, List.drop_zero, hletter, hwidth, htake, hnumber, hskip,
    hlength]
  rfl

/-- The escape of a character is read as that character. -/
theorem escape_cons (c : Char) : ∃ d ds, escape c = d :: ds ∧ Escapes c d ds := by
  cases hlookup : escapeLetters.lookup c with
  | some letter => exact ⟨letter, [], by simp [escape, hlookup], .letter hlookup⟩
  | none =>
    have hlt : c.toNat < 1114112 := by
      rcases c.valid with h | h
      · exact Nat.lt_trans h (by decide)
      · exact h.2
    by_cases h1 : c.toNat ≤ 0xFF
    · exact ⟨'x', _, by simp [escape, hlookup, h1], .digits rfl (Nat.lt_succ_of_le h1)⟩
    by_cases h2 : c.toNat ≤ 0xFFFF
    · exact ⟨'u', _, by simp [escape, hlookup, h1, h2], .digits rfl (Nat.lt_succ_of_le h2)⟩
    · exact ⟨'U', _, by simp [escape, hlookup, h1, h2], .digits rfl (Nat.lt_trans hlt (by decide))⟩

theorem doubleChar_raw {c : Char}
    (h : (!isPrintable c || isBreak c || c == '"' || c == '\\') = false) : doubleChar c = [c] := by
  simp [doubleChar, h]

theorem doubleChar_escaped {c : Char}
    (h : (!isPrintable c || isBreak c || c == '"' || c == '\\') = true) :
    doubleChar c = '\\' :: escape c := by
  simp [doubleChar, h]

theorem doubleChar_ne_nil (c : Char) : doubleChar c ≠ [] := by
  rw [doubleChar]
  split <;> simp

theorem doubleBody_spaces (k : Nat) (t : List Char) :
    (spaces k ++ t).flatMap doubleChar = spaces k ++ t.flatMap doubleChar := by
  induction k with
  | zero => rfl
  | succ k ih =>
    rw [spaces_succ, List.cons_append, List.flatMap_cons, ih]
    rfl

/-- What a text between double quotes begins with. -/
theorem startsPiece_doubleBody {s : List Char} (h : s.head?.all fun c => !isSpace c) (t : List Char) :
    startsPiece (s.flatMap doubleChar ++ '"' :: t) := by
  cases s with
  | nil => rfl
  | cons c cs =>
    have hspace : isSpace c = false := by simpa using h
    rw [List.flatMap_cons]
    cases hraw : !isPrintable c || isBreak c || c == '"' || c == '\\' with
    | true =>
      rw [doubleChar_escaped hraw]
      rfl
    | false =>
      rw [doubleChar_raw hraw]
      simp only [Bool.or_eq_false_iff, Bool.not_eq_false'] at hraw
      simp [isGap_eq_of_isPrintable hraw.1.1.1, hspace, hraw.1.1.2]

/-- A text between double quotes is read back up to the closing quote. -/
theorem quotedFuel_doubleBody {beginning : Mark} {t : List Char} (ht : t.head? ≠ some '\'')
    {s : List Char} {n : Nat} (hn : s.length < n) {m : Mark} (hm : 0 < m.column) :
    quotedFuel '"' beginning n ⟨s.flatMap doubleChar ++ '"' :: t, m⟩ =
      .ok (s, ⟨t, m.right ((s.flatMap doubleChar).length + 1)⟩) := by
  induction hk : s.length using Nat.strongRecOn generalizing s n m with
  | ind k ih =>
    subst hk
    obtain _ | n := n
    · contradiction
    obtain _ | ⟨c, cs⟩ := s
    · exact quotedFuel_close hm n (.inr rfl) ht
    by_cases hspace : isSpace c
    · obtain ⟨bs, u, hcs, hbs, hu⟩ := exists_run isSpace hspace cs
      rw [hcs] at hn ih ⊢
      rw [eq_spaces hbs, doubleBody_spaces, List.append_assoc, List.length_cons,
        quotedFuel_spaces hm n (startsPiece_doubleBody hu t),
        ih u.length (by rw [List.length_append, List.length_cons]; omega) (by simp at hn; omega)
          (by rw [Mark.right_column]; omega) rfl]
      simp [Except.map, Nat.add_assoc]
    have hlength : cs.length < n := by simpa using hn
    rw [List.flatMap_cons]
    cases hraw : !isPrintable c || isBreak c || c == '"' || c == '\\' with
    | true =>
      obtain ⟨d, ds, hescape, hread⟩ := escape_cons c
      rw [doubleChar_escaped hraw, hescape]
      simp only [List.cons_append, List.append_assoc]
      rw [quotedFuel_escape hm n hread.line (hread.read _ _ _),
        ih cs.length (by simp) hlength (by rw [Mark.right_column]; omega) rfl]
      have hsum : ds.length + 2 + ((cs.flatMap doubleChar).length + 1) =
          (d :: ('\\' :: ds ++ cs.flatMap doubleChar)).length + 1 := by
        simp only [List.length_cons, List.length_append]
        omega
      rw [Except.map, Mark.right_right, hsum]
      rfl
    | false =>
      rw [doubleChar_raw hraw]
      simp only [Bool.or_eq_false_iff, Bool.not_eq_false'] at hraw
      have hordinary : isOrdinary '"' c := by
        simp [isOrdinary, isGap_eq_of_isPrintable hraw.1.1.1, hspace, hraw.1.1.2, hraw.1.2, hraw.2]
      simp only [List.cons_append, List.nil_append]
      rw [quotedFuel_cons hm n hordinary,
        ih cs.length (by simp) (Nat.lt_succ_of_lt hlength) (by rw [Mark.right_column]; omega) rfl]
      simp [Except.map, Nat.add_assoc, Nat.add_comm 1]

/-- A text between double quotes is read back. -/
theorem Place.quoted_double (s : List Char) {t : List Char} (ht : t.head? ≠ some '\'') (m : Mark) :
    (⟨doubleQuoted s ++ t, m⟩ : Place).quoted '"' =
      .ok (s, ⟨t, m.right (doubleQuoted s).length⟩) := by
  have hlength : s.length ≤ (s.flatMap doubleChar).length := by
    induction s with
    | nil => simp
    | cons c cs ih =>
      have := List.length_pos_iff.mpr (doubleChar_ne_nil c)
      simp only [List.flatMap_cons, List.length_cons, List.length_append]
      omega
  rw [doubleQuoted, List.append_assoc, List.cons_append, Place.quoted, Place.skip_one]
  simp only [List.singleton_append]
  rw [quotedFuel_doubleBody ht (by simp only [List.length_append, List.length_cons]; omega) (by simp)]
  simp [Nat.add_comm 1]

end BackingServices.Yaml
