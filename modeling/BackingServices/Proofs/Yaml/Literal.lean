import BackingServices.Proofs.Yaml.Quoted

/-!
# Literal blocks are read back

A text whose characters are printable and in which no space stands in front of a line
end or at the end is read back from its literal block (`Place.block_literal`).

The text falls into lines that are not empty and runs of line ends between them.  The
reader takes a line and then the run behind it, and at the end what the sign of the
indicator says: `Chomp.ofText` is the chomping that keeps the last run as it is.
-/

namespace BackingServices.Yaml

/-! ## The indicator -/

/-- The chomping that keeps the line ends at the end of a text. -/
def Chomp.ofText (s : List Char) : Chomp :=
  match s.reverse with
  | [] => .strip
  | c :: cs => if !isBreak c then .strip else if cs.head?.all isBreak then .keep else .clip

/-- The sign of a chomping. -/
def Chomp.sign : Chomp → List Char
  | .strip => ['-']
  | .clip => []
  | .keep => ['+']

theorem chomping_eq (s : List Char) : chomping s = (Chomp.ofText s).sign := by
  rw [chomping, Chomp.ofText]
  cases s.reverse with
  | nil => rfl
  | cons c cs =>
    simp only
    split
    · rfl
    split <;> rfl

/-- What goes before a character that is no line end does not matter. -/
theorem Chomp.ofText_append (s : List Char) {c : Char} (hc : isBreak c = false) (t : List Char) :
    Chomp.ofText (s ++ c :: t) = Chomp.ofText (c :: t) := by
  rw [Chomp.ofText, Chomp.ofText, List.reverse_append, List.reverse_cons]
  cases t.reverse with
  | nil => simp [hc]
  | cons d ds =>
    cases ds <;> rfl

theorem Chomp.ofText_line {s : List Char} (h : ∀ c ∈ s, isBreak c = false) :
    Chomp.ofText s = .strip := by
  rw [Chomp.ofText]
  cases hs : s.reverse with
  | nil => rfl
  | cons c cs =>
    have hc : c ∈ s := List.mem_reverse.mp (hs ▸ List.mem_cons_self)
    simp [h c hc]

/-- A text of line ends keeps them all. -/
theorem Chomp.ofText_breaks {c : Char} {cs : List Char} (h : ∀ d ∈ c :: cs, isBreak d) :
    Chomp.ofText (c :: cs) = .keep := by
  rw [Chomp.ofText]
  cases hs : (c :: cs).reverse with
  | nil => simp at hs
  | cons d ds =>
    have hmem : ∀ e ∈ d :: ds, isBreak e := fun e he => h e (List.mem_reverse.mp (hs ▸ he))
    have hhead : ds.head?.all isBreak := by
      cases ds with
      | nil => rfl
      | cons e es => simpa using hmem e (by simp)
    simp [hmem d List.mem_cons_self, hhead]

/-- The run of line ends behind the last line is kept. -/
theorem Chomp.apply_ofText {line : List Char} (hne : line ≠ []) (hline : ∀ d ∈ line, isBreak d = false)
    {c : Char} {bs : List Char} (h : ∀ e ∈ c :: bs, isBreak e) :
    (Chomp.ofText (line ++ c :: bs)).apply (some c) bs = c :: bs := by
  obtain ⟨init, d, rfl⟩ : ∃ init d, line = init ++ [d] :=
    ⟨line.dropLast, line.getLast hne, (List.dropLast_concat_getLast hne).symm⟩
  have hd : isBreak d = false := hline d (by simp)
  rw [List.append_assoc, List.singleton_append, Chomp.ofText_append init hd, Chomp.ofText,
    List.reverse_cons]
  cases bs with
  | nil => simp [h c List.mem_cons_self, hd, Chomp.apply]
  | cons b bs =>
    obtain ⟨x, xs, hx⟩ : ∃ x xs, (b :: bs).reverse = x :: xs := by
      cases hr : (b :: bs).reverse with
      | nil => simp at hr
      | cons x xs => exact ⟨x, xs, rfl⟩
    have hmem : ∀ e ∈ x :: xs ++ [c], isBreak e := by
      rw [← hx, ← List.reverse_cons]
      exact fun e he => h e (List.mem_reverse.mp he)
    rw [List.reverse_cons (a := c), hx]
    have hhead : (xs ++ [c] ++ [d]).head?.all isBreak := by
      cases xs with
      | nil => simp [h c List.mem_cons_self]
      | cons y ys => simpa using hmem y (by simp)
    simp only [List.cons_append, hmem x (by simp), Bool.not_true, Bool.false_eq_true, if_false, hhead,
      if_true]
    rfl

/-- The signs behind the indicator are read. -/
theorem blockHeader_literal (beginning : Mark) (hint : Bool) (chomp : Chomp) (u : List Char)
    (m : Mark) :
    ∃ k, blockHeader beginning
      ⟨(if hint then Nat.toDigits 10 indentStep else []) ++ chomp.sign ++ '\n' :: u, m⟩ =
        .ok (⟨chomp, if hint then some indentStep else none⟩, ⟨'\n' :: u, m.right k⟩) := by
  cases hint <;> cases chomp
  · exact ⟨1, rfl⟩
  · exact ⟨0, rfl⟩
  · exact ⟨1, rfl⟩
  · exact ⟨2, rfl⟩
  · exact ⟨1, rfl⟩
  · exact ⟨2, rfl⟩

/-! ## Empty lines -/

/-- Line ends are passed and kept, and the indentation behind them is passed. -/
theorem emptyLinesFuel_breaks (beginning : Mark) (column? : Option Nat) {k : Nat} {t : List Char}
    (ht : t.head?.all fun c => !isBreak c) (htab : t.head? ≠ some '\t')
    (hpass : ∀ m : Mark, m.column = 0 → skipSpaces column? ⟨spaces k ++ t, m⟩ = ⟨t, m.right k⟩)
    {bs : List Char} (hb : ∀ c ∈ bs, isBreak c) (hp : ∀ c ∈ bs, isPrintable c) {n : Nat}
    (hn : bs.length < n) (greatest : Nat) {m : Mark} (hm : m.column = 0) :
    emptyLinesFuel beginning column? n greatest ⟨bs ++ (spaces k ++ t), m⟩ =
      .ok (bs, max greatest k, ⟨t, (m.after bs).right k⟩) := by
  induction bs generalizing n m greatest with
  | nil =>
    obtain _ | n := n
    · exact absurd hn (Nat.not_lt_zero _)
    have htab : (⟨t, m.right k⟩ : Place).sees '\t' = false := by simpa [Place.sees] using htab
    rw [emptyLinesFuel]
    simp only [List.nil_append, hpass m hm, htab, Bool.and_false, Bool.false_eq_true, if_false,
      Place.takeBreak?_eq_none ht]
    simp [Place.column, hm]
  | cons c cs ih =>
    obtain _ | n := n
    · contradiction
    have hc := hb c List.mem_cons_self
    have hspace : (c == ' ') = false := by
      rw [beq_eq_false_iff_ne]
      rintro rfl
      exact absurd hc (by decide)
    have hskip : skipSpaces column? ⟨c :: (cs ++ (spaces k ++ t)), m⟩ =
        ⟨c :: (cs ++ (spaces k ++ t)), m⟩ := by
      cases column? <;> simp [skipSpaces, hspace]
    have htab : (⟨c :: (cs ++ (spaces k ++ t)), m⟩ : Place).sees '\t' = false := by
      rw [Place.sees_cons, beq_eq_false_iff_ne]
      rintro rfl
      exact absurd hc (by decide)
    rw [List.cons_append, emptyLinesFuel]
    simp only [hskip, htab, Bool.and_false, Bool.false_eq_true, if_false,
      Place.takeBreak?_cons hc (hp c List.mem_cons_self)]
    rw [ih (fun d hd => hb d (.tail _ hd)) (fun d hd => hp d (.tail _ hd))
      (by simpa using hn) _ rfl]
    simp [bind, Except.bind, Mark.after, hc, Place.column, hm]

/-- In front of a line that is deep enough just the indentation of the block is passed. -/
theorem skipSpaces_deep (column : Nat) (t : List Char) {m : Mark} (hm : m.column = 0) :
    skipSpaces (some column) ⟨spaces column ++ t, m⟩ = ⟨t, m.right column⟩ := by
  have hle : column ≤ ((spaces column ++ t).takeWhile (· == ' ')).length := by
    rw [List.takeWhile_append_of_pos fun c hc => by simp [mem_spaces hc]]
    simp
  rw [skipSpaces]
  simp only [Place.column, hm, Nat.sub_zero, Nat.min_eq_right hle, Place.skip_spaces]

/-- In front of a line that is not deep enough all spaces are passed. -/
theorem skipSpaces_flat {column k : Nat} (hk : k ≤ column) {t : List Char}
    (ht : t.head?.all fun c => !isSpace c) {m : Mark} (hm : m.column = 0) :
    skipSpaces (some column) ⟨spaces k ++ t, m⟩ = ⟨t, m.right k⟩ := by
  rw [skipSpaces]
  simp only [takeWhile_spaces (· == ' ') rfl k ht, length_spaces, Place.column, hm, Nat.sub_zero,
    Nat.min_eq_left hk, Place.skip_spaces]

/-- Without a column all spaces are passed. -/
theorem skipSpaces_none (k : Nat) {t : List Char} (ht : t.head?.all fun c => !isSpace c) (m : Mark) :
    skipSpaces none ⟨spaces k ++ t, m⟩ = ⟨t, m.right k⟩ := by
  rw [skipSpaces]
  simp only [takeWhile_spaces (· == ' ') rfl k ht, length_spaces, Place.skip_spaces]

theorem not_isSpace_of_startsPiece {t : List Char} (h : startsPiece t) :
    t.head?.all fun c => !isSpace c := by
  cases t with
  | nil => rfl
  | cons c cs =>
    have := not_isBlank_of_startsPiece h
    simp only [isBlank, Bool.or_eq_false_iff] at this
    simp [isSpace, this.1]

theorem not_isBreak_head_of_startsPiece {t : List Char} (h : startsPiece t) :
    t.head?.all fun c => !isBreak c := by
  cases t with
  | nil => rfl
  | cons c cs => simp [not_isBreak_of_startsPiece h]

theorem head_ne_tab_of_startsPiece {t : List Char} (h : startsPiece t) : t.head? ≠ some '\t' := by
  cases t with
  | nil => simp
  | cons c cs =>
    have := not_isBlank_of_startsPiece h
    simp only [isBlank, Bool.or_eq_false_iff, beq_eq_false_iff_ne] at this
    simpa using this.2

/-- Behind the last line its further line ends are passed and the indentation of what follows. -/
theorem emptyLinesFuel_end (beginning : Mark) {column k : Nat} (hk : k ≤ column) {t : List Char}
    (ht : startsPiece t) {bs : List Char} (hb : ∀ c ∈ bs, isBreak c) (hp : ∀ c ∈ bs, isPrintable c)
    {n : Nat} (hn : bs.length < n) (greatest : Nat) {m : Mark} (hm : m.column = 0) :
    emptyLinesFuel beginning (some column) n greatest ⟨bs ++ (spaces k ++ t), m⟩ =
      .ok (bs, max greatest k, ⟨t, (m.after bs).right k⟩) :=
  emptyLinesFuel_breaks beginning (some column) (not_isBreak_head_of_startsPiece ht)
    (head_ne_tab_of_startsPiece ht)
    (fun _ hm => skipSpaces_flat hk (not_isSpace_of_startsPiece ht) hm) hb hp hn greatest hm

/-! ## Lines -/

/-- A text that may be a literal block is printable. -/
theorem isPrintable_of_block {s : List Char} (h : (shape s).block = true) :
    s ≠ [] ∧ ∀ c ∈ s, isPrintable c := by
  cases s with
  | nil => simp [shape] at h
  | cons c cs =>
    simp only [shape, List.isEmpty_cons, Bool.false_eq_true, if_false, Bool.not_eq_true',
      Bool.or_eq_false_iff] at h
    exact ⟨by simp, List.all_eq_true.mp (by simpa using h.2)⟩

theorem literalBody_line {column : Nat} {line : List Char} (h : ∀ c ∈ line, isBreak c = false)
    (t : List Char) : literalBody column false (line ++ t) = line ++ literalBody column false t := by
  induction line with
  | nil => rfl
  | cons c cs ih =>
    simp [literalBody, h c List.mem_cons_self, ih fun d hd => h d (.tail _ hd)]

theorem literalBody_breaks (column : Nat) {bs : List Char} (hb : ∀ c ∈ bs, isBreak c) (t : List Char) :
    literalBody column true (bs ++ t) = bs ++ literalBody column true t := by
  induction bs with
  | nil => rfl
  | cons c cs ih =>
    simp [literalBody, hb c List.mem_cons_self, ih fun d hd => hb d (.tail _ hd)]

theorem literalBody_run {column : Nat} {b : Char} {bs : List Char} (hb : ∀ c ∈ b :: bs, isBreak c)
    (t : List Char) (fresh : Bool) :
    literalBody column fresh (b :: bs ++ t) = b :: (bs ++ literalBody column true t) := by
  rw [List.cons_append, literalBody, if_pos (hb b List.mem_cons_self),
    literalBody_breaks column fun c hc => hb c (.tail _ hc)]

theorem literalBody_true {column : Nat} {c : Char} (hc : isBreak c = false) (t : List Char) :
    literalBody column true (c :: t) = spaces column ++ literalBody column false (c :: t) := by
  simp [literalBody, hc]

theorem length_le_literalBody (column : Nat) (s : List Char) (fresh : Bool) :
    s.length ≤ (literalBody column fresh s).length := by
  induction s generalizing fresh with
  | nil => simp
  | cons c cs ih =>
    have := ih false
    have := ih true
    rw [literalBody]
    split <;> simp only [List.length_cons, List.length_append] <;> omega

/-- The line end that is put behind a block whose text does not end with one. -/
def lastLineEnd (s : List Char) : List Char := if s.getLast?.all isBreak then [] else ['\n']

theorem lastLineEnd_append (s : List Char) (c : Char) (t : List Char) :
    lastLineEnd (s ++ c :: t) = lastLineEnd (c :: t) := by
  rw [lastLineEnd, lastLineEnd, List.getLast?_append,
    List.getLast?_eq_some_getLast (List.cons_ne_nil c t), Option.some_or]

theorem lastLineEnd_line {c : Char} (hc : isBreak c = false) (line : List Char)
    (h : ∀ d ∈ line, isBreak d = false) : lastLineEnd (c :: line) = ['\n'] := by
  have hmem := List.getLast_mem (List.cons_ne_nil c line)
  have hlast : isBreak ((c :: line).getLast (List.cons_ne_nil c line)) = false := by
    rcases List.mem_cons.mp hmem with heq | hmem
    · rw [heq]
      exact hc
    · exact h _ hmem
  rw [lastLineEnd, List.getLast?_eq_some_getLast (List.cons_ne_nil c line), Option.all_some, hlast]
  rfl

theorem lastLineEnd_breaks {bs : List Char} (h : ∀ c ∈ bs, isBreak c) : lastLineEnd bs = [] := by
  cases hlast : bs.getLast? with
  | none => simp [lastLineEnd, hlast]
  | some c => simp [lastLineEnd, hlast, h c (List.mem_of_getLast? hlast)]

/-- A text falls into its first line, the run of line ends behind it and further lines. -/
theorem exists_line (cs : List Char) :
    ∃ line bs t, cs = line ++ (bs ++ t) ∧ (∀ d ∈ line, isBreak d = false) ∧ (∀ d ∈ bs, isBreak d) ∧
      (t.head?.all fun d => !isBreak d) ∧ (bs = [] → t = []) := by
  refine ⟨cs.takeWhile fun d => !isBreak d, (cs.dropWhile fun d => !isBreak d).takeWhile isBreak,
    (cs.dropWhile fun d => !isBreak d).dropWhile isBreak, ?_, ?_, ?_, ?_, ?_⟩
  · simp
  · intro d hd
    simpa using List.all_eq_true.mp List.all_takeWhile d hd
  · exact List.all_eq_true.mp List.all_takeWhile
  · have := List.head?_dropWhile_not isBreak (cs.dropWhile fun d => !isBreak d)
    cases hdrop : ((cs.dropWhile fun d => !isBreak d).dropWhile isBreak).head? with
    | none => rfl
    | some d => simpa [hdrop] using this
  · intro hempty
    have := List.head?_dropWhile_not (fun d => !isBreak d) cs
    cases hdrop : cs.dropWhile fun d => !isBreak d with
    | nil => rfl
    | cons d ds =>
      rw [hdrop] at hempty this
      have hd : isBreak d = true := by simpa using this
      simp [hd] at hempty

section Lines

variable (beginning : Mark) (chomp : Chomp) {column : Nat} (n : Nat) (afterBlank : Bool)
  (first? : Option Char) (further : List Char) {m : Mark}

/-- A line of a block is taken with its line end and the empty lines behind it. -/
theorem blockLinesFuel_line {c : Char} {line : List Char} (hline : ∀ d ∈ c :: line, isBreak d = false)
    (hm : m.column = column) {b : Char} (hb : isBreak b) (hpb : isPrintable b) {u v : List Char}
    {greatest : Nat} {q : Place}
    (hempty : emptyLinesFuel beginning (some column) (u.length + 1) 0
      ⟨u, (m.right (line.length + 1)).below⟩ = .ok (v, greatest, q)) :
    blockLinesFuel beginning false chomp column (n + 1) afterBlank first? further
        ⟨c :: line ++ b :: u, m⟩ =
      (blockLinesFuel beginning false chomp column n (isBlank c) (some b) v q).map
        fun r => (first?.toList ++ further ++ (c :: line) ++ r.1, r.2) := by
  have htake : (c :: line ++ b :: u).takeWhile (fun d => !isBreak d) = c :: line := by
    rw [List.takeWhile_append_of_pos (by simpa using hline), List.takeWhile_cons_of_neg (by simpa),
      List.append_nil]
  have hskip : (⟨c :: line ++ b :: u, m⟩ : Place).skip (c :: line).length =
      ⟨b :: u, m.right (line.length + 1)⟩ := Place.skip_append (c :: line) (b :: u) m
  rw [blockLinesFuel, if_pos (by simpa [Place.column] using hm)]
  simp only [htake, hskip, Place.takeBreak?_cons hb hpb, hempty]
  change (blockLinesFuel beginning false chomp column n (isBlank c) (some b) v q).bind _ = _
  cases blockLinesFuel beginning false chomp column n (isBlank c) (some b) v q <;> rfl

/-- The block ends in front of what is not as deep. -/
theorem blockLinesFuel_end {t : List Char} (hm : m.column ≠ column) :
    blockLinesFuel beginning false chomp column (n + 1) afterBlank first? further ⟨t, m⟩ =
      .ok (chomp.apply first? further, ⟨t, m⟩) := by
  rw [blockLinesFuel, if_neg fun h => hm h.1]

/-- The last line of a block is taken with the line ends behind it, up to what is not as deep. -/
theorem blockLinesFuel_last {k : Nat} (hk : k < column) {tail : List Char} (htail : startsPiece tail)
    {c : Char} {line : List Char} (hline : ∀ d ∈ c :: line, isBreak d = false) (hm : m.column = column)
    {b : Char} {bs : List Char} (hb : ∀ d ∈ b :: bs, isBreak d) (hp : ∀ d ∈ b :: bs, isPrintable d) :
    ∃ m', blockLinesFuel beginning false chomp column (n + 2) afterBlank first? further
        ⟨c :: line ++ b :: (bs ++ (spaces k ++ tail)), m⟩ =
          .ok (first?.toList ++ further ++ (c :: line) ++ chomp.apply (some b) bs, ⟨tail, m'⟩) ∧
      m'.column = k ∧ m.line < m'.line := by
  have hbs : ∀ d ∈ bs, isBreak d := fun d hd => hb d (.tail _ hd)
  have hcolumn := Mark.below_after_column hbs (m.right (line.length + 1))
  have hbelow : m.line < ((m.right (line.length + 1)).below.after bs).line :=
    Mark.line_lt_below_after (m.right (line.length + 1)) bs
  have hempty := emptyLinesFuel_end beginning (Nat.le_of_lt hk) htail hbs
    (fun d hd => hp d (.tail _ hd)) (n := (bs ++ (spaces k ++ tail)).length + 1)
    (by rw [List.length_append]; omega) 0 (m := (m.right (line.length + 1)).below) rfl
  refine ⟨((m.right (line.length + 1)).below.after bs).right k, ?_, by simp [hcolumn], hbelow⟩
  rw [blockLinesFuel_line beginning chomp (n + 1) _ _ _ hline hm (hb b List.mem_cons_self) (hp b List.mem_cons_self)
    hempty, blockLinesFuel_end beginning chomp n _ _ _ (by simp [hcolumn]; omega)]
  rfl

/-- Any other line is taken with the line ends behind it and the indentation of the next one. -/
theorem blockLinesFuel_next {c : Char} {line : List Char} (hline : ∀ d ∈ c :: line, isBreak d = false)
    (hm : m.column = column) {b : Char} {bs : List Char} (hb : ∀ d ∈ b :: bs, isBreak d)
    (hp : ∀ d ∈ b :: bs, isPrintable d) {u : List Char} (hu : u.head?.all fun d => !isBreak d)
    (htab : u.head? ≠ some '\t') :
    ∃ m' : Mark, m'.column = column ∧ m.line < m'.line ∧
      blockLinesFuel beginning false chomp column (n + 1) afterBlank first? further
          ⟨c :: line ++ b :: (bs ++ (spaces column ++ u)), m⟩ =
        (blockLinesFuel beginning false chomp column n (isBlank c) (some b) bs ⟨u, m'⟩).map
          fun r => (first?.toList ++ further ++ (c :: line) ++ r.1, r.2) := by
  have hbs : ∀ d ∈ bs, isBreak d := fun d hd => hb d (.tail _ hd)
  have hcolumn := Mark.below_after_column hbs (m.right (line.length + 1))
  have hbelow : m.line < ((m.right (line.length + 1)).below.after bs).line :=
    Mark.line_lt_below_after (m.right (line.length + 1)) bs
  have hempty := emptyLinesFuel_breaks beginning (some column) hu htab
    (fun m hm => skipSpaces_deep column u hm) hbs (fun d hd => hp d (.tail _ hd))
    (n := (bs ++ (spaces column ++ u)).length + 1) (by rw [List.length_append]; omega) 0
    (m := (m.right (line.length + 1)).below) rfl
  exact ⟨((m.right (line.length + 1)).below.after bs).right column, by simp [hcolumn], hbelow,
    blockLinesFuel_line beginning chomp n _ _ _ hline hm (hb b List.mem_cons_self) (hp b List.mem_cons_self) hempty⟩

end Lines

theorem literalBody_cons (column : Nat) {d : Char} (hd : isBreak d = false) (t : List Char) :
    literalBody column false (d :: t) = d :: literalBody column false t := by
  simp [literalBody, hd]

theorem ne_tab_of_isPrintable {d : Char} (h : isPrintable d) : d ≠ '\t' := by
  rintro rfl
  exact absurd h (by decide)

/-- The lines of a block are read up to what follows it. -/
theorem blockLinesFuel_literal (beginning : Mark) {column k : Nat} (hk : k < column)
    {tail : List Char} (htail : startsPiece tail) {c : Char} (hc : isBreak c = false) {s : List Char}
    (hp : ∀ d ∈ c :: s, isPrintable d) {n : Nat} (hn : s.length + 1 < n) (afterBlank : Bool)
    (first? : Option Char) (further : List Char) {m : Mark} (hm : m.column = column) :
    ∃ m', blockLinesFuel beginning false (Chomp.ofText (c :: s)) column n afterBlank first? further
        ⟨literalBody column false (c :: s) ++ (lastLineEnd (c :: s) ++ (spaces k ++ tail)), m⟩ =
          .ok (first?.toList ++ further ++ c :: s, ⟨tail, m'⟩) ∧
      m'.column = k ∧ m.line < m'.line := by
  -- the lines behind the first, which are fewer, begin where the line ends behind it were passed
  induction hlength : s.length using Nat.strongRecOn generalizing c s n afterBlank first? further m with
  | ind length ih =>
    subst hlength
    obtain _ | _ | n := n
    · contradiction
    · omega
    obtain ⟨line, bs, t, rfl, hline, hbs, ht, hlast⟩ := exists_line s
    have hwhole : ∀ d ∈ c :: line, isBreak d = false := by simpa [hc] using hline
    rw [← List.cons_append, literalBody_line hwhole]
    cases bs with
    | nil =>
      -- the text ends with this line, and the line end behind it is that of the block
      obtain rfl := hlast rfl
      obtain ⟨m', hread, hplace⟩ := blockLinesFuel_last beginning .strip n afterBlank first? further
        hk htail hwhole hm (List.all_eq_true (l := ['\n']).mp rfl)
        (List.all_eq_true (l := ['\n']).mp rfl)
      refine ⟨m', ?_, hplace⟩
      simpa [literalBody, lastLineEnd_line hc line hline, Chomp.ofText_line hwhole, Chomp.apply]
        using hread
    | cons b bs =>
      have hpbs : ∀ d ∈ b :: bs, isPrintable d := fun d hd =>
        hp d (.tail _ (List.mem_append_right _ (List.mem_append_left _ hd)))
      rw [literalBody_run hbs]
      cases t with
      | nil =>
        obtain ⟨m', hread, hplace⟩ := blockLinesFuel_last beginning
          (Chomp.ofText (c :: line ++ b :: bs)) n afterBlank first? further hk htail hwhole hm hbs hpbs
        refine ⟨m', ?_, hplace⟩
        rw [Chomp.apply_ofText (by simp) hwhole hbs] at hread
        rw [List.append_nil, ← List.cons_append, lastLineEnd_append, lastLineEnd_breaks hbs]
        simpa [literalBody] using hread
      | cons d t =>
        have hd : isBreak d = false := by simpa using ht
        have hpt : ∀ e ∈ d :: t, isPrintable e := fun e he =>
          hp e (.tail _ (List.mem_append_right _ (List.mem_append_right _ he)))
        have hbody := literalBody_cons column hd t
        have htab : d ≠ '\t' := ne_tab_of_isPrintable (hpt d List.mem_cons_self)
        obtain ⟨m', hcolumn, hbelow, hread⟩ := blockLinesFuel_next beginning
          (Chomp.ofText (d :: t)) (n + 1) afterBlank first? further hwhole hm hbs hpbs
          (u := literalBody column false (d :: t) ++ (lastLineEnd (d :: t) ++ (spaces k ++ tail)))
          (by simp [hbody, hd]) (by simp [hbody, htab])
        obtain ⟨m'', hrest, hcolumn', hline'⟩ := ih t.length (by simp; omega) hd hpt
          (show t.length + 1 < n + 1 by simp at hn; omega) (isBlank c) (some b) bs hcolumn rfl
        refine ⟨m'', ?_, hcolumn', Nat.lt_trans hbelow hline'⟩
        have htext : c :: line ++ (b :: bs ++ d :: t) = (c :: line ++ b :: bs) ++ d :: t := by simp
        rw [hrest] at hread
        rw [htext, Chomp.ofText_append _ hd, lastLineEnd_append, literalBody_true hd]
        simpa [Except.map] using hread

/-! ## Blocks -/

/-- What the reader does behind the signs of the indicator. -/
theorem Place.block_eq (least : Nat) (hint : Bool) (chomp : Chomp) (u : List Char) (m : Mark) :
    ∃ m' : Mark, m'.line = m.line ∧
      (⟨'|' :: ((if hint then Nat.toDigits 10 indentStep else []) ++ chomp.sign ++ '\n' :: u), m⟩ :
        Place).block false least = (do
          let column? := if hint then some (least - 1 + indentStep) else none
          let (empty, greatest, q) ← emptyLinesFuel m column? (u.length + 2) 0 ⟨u, m'.below⟩
          blockLinesFuel m false chomp (column?.getD (max greatest (max least 1)))
            (q.rest.length + 1) false none empty q) := by
  obtain ⟨k, hheader⟩ := blockHeader_literal m hint chomp u (m.right 1)
  refine ⟨(m.right 1).right k, rfl, ?_⟩
  have hskip : (⟨'\n' :: u, (m.right 1).right k⟩ : Place).skipWhile isBlank =
      ⟨'\n' :: u, (m.right 1).right k⟩ := rfl
  have hcomment : (⟨'\n' :: u, (m.right 1).right k⟩ : Place).skipComment =
      ⟨'\n' :: u, (m.right 1).right k⟩ := rfl
  have hend : (⟨'\n' :: u, (m.right 1).right k⟩ : Place).atLineEnd = true := rfl
  have hbreak : (⟨'\n' :: u, (m.right 1).right k⟩ : Place).skipBreak =
      ⟨u, ((m.right 1).right k).below⟩ := rfl
  rw [Place.block, Place.skip_one]
  simp only [hheader, bind, Except.bind, hskip, hcomment, hend, hbreak]
  cases hint <;> rfl

/-- The line ends that a block begins with tell its column.  Only a text that begins with a blank or a
line end says it in the indicator. -/
theorem emptyLinesFuel_literal (beginning : Mark) {least column : Nat}
    (hcolumn : least - 1 + indentStep = column) {bs : List Char} (hbs : ∀ c ∈ bs, isBreak c)
    (hpbs : ∀ c ∈ bs, isPrintable c) {d : Char} (hd : isBreak d = false) (htab : d ≠ '\t')
    (t u : List Char) {n : Nat} (hn : bs.length < n) {m : Mark} (hm : m.column = 0) :
    ∃ greatest, emptyLinesFuel beginning
        (if needsIndentation (bs ++ d :: t) then some column else none) n 0
        ⟨bs ++ (spaces column ++ (literalBody column false (d :: t) ++ u)), m⟩ =
          .ok (bs, greatest, ⟨literalBody column false (d :: t) ++ u, (m.after bs).right column⟩) ∧
      (if needsIndentation (bs ++ d :: t) then some column else none).getD
        (max greatest (max least 1)) = column := by
  have hbody := literalBody_cons column hd t
  refine ⟨max 0 column, emptyLinesFuel_breaks _ _ (by simp [hbody, hd]) (by simp [hbody, htab]) ?_
    hbs hpbs hn 0 hm, ?_⟩
  · intro m hm
    split
    · exact skipSpaces_deep column _ hm
    · next hhint =>
      refine skipSpaces_none column ?_ m
      cases bs with
      | nil => simpa [hbody, needsIndentation, hd] using hhint
      | cons b bs => simp [needsIndentation, hbs b List.mem_cons_self] at hhint
  · split
    · rfl
    · simp only [indentStep] at hcolumn
      simp only [Option.getD_none]
      omega

section Blocks

variable {least column : Nat} (hcolumn : least - 1 + indentStep = column) (m : Mark)
include hcolumn

/-- What the reader does with the literal block of a text behind its indicator. -/
theorem Place.block_start (s u : List Char) :
    ∃ m' : Mark, m'.line = m.line ∧
      (⟨literal column s ++ u, m⟩ : Place).block false least = (do
        let column? := if needsIndentation s then some column else none
        let (empty, greatest, q) ← emptyLinesFuel m column?
          ((literalBody column true s ++ (lastLineEnd s ++ u)).length + 2) 0
          ⟨literalBody column true s ++ (lastLineEnd s ++ u), m'.below⟩
        blockLinesFuel m false (Chomp.ofText s) (column?.getD (max greatest (max least 1)))
          (q.rest.length + 1) false none empty q) := by
  have hliteral : literal column s ++ u =
      '|' :: ((if needsIndentation s then Nat.toDigits 10 indentStep else []) ++
        (Chomp.ofText s).sign ++ '\n' :: (literalBody column true s ++ (lastLineEnd s ++ u))) := by
    simp [literal, chomping_eq, lastLineEnd]
  rw [hliteral, ← hcolumn]
  exact Place.block_eq least (needsIndentation s) (Chomp.ofText s) _ m

variable {k : Nat} (hk : k < column) {tail : List Char} (htail : startsPiece tail)
include hk htail

/-- A text of line ends is read back. -/
theorem Place.block_breaks {b : Char} {bs : List Char} (hb : ∀ c ∈ b :: bs, isBreak c)
    (hp : ∀ c ∈ b :: bs, isPrintable c) :
    ∃ m', (⟨literal column (b :: bs) ++ (spaces k ++ tail), m⟩ : Place).block false least =
        .ok (b :: bs, ⟨tail, m'⟩) ∧
      m'.column = k ∧ m.line < m'.line := by
  obtain ⟨m', hline, hblock⟩ := Place.block_start hcolumn m (b :: bs) (spaces k ++ tail)
  have hbelow : m.line < (m'.below.after (b :: bs)).line :=
    hline ▸ Mark.line_lt_below_after m' (b :: bs)
  have hstart := Mark.below_after_column hb m'
  have hhint : needsIndentation (b :: bs) = true := by
    simp [needsIndentation, hb b List.mem_cons_self]
  have hbody : literalBody column true (b :: bs) = b :: bs := by
    simpa [literalBody] using literalBody_breaks column hb []
  have hempty := emptyLinesFuel_end m (Nat.le_of_lt hk) htail hb hp
    (n := (b :: bs ++ (spaces k ++ tail)).length + 2) (by simp; omega) 0 (m := m'.below) rfl
  refine ⟨(m'.below.after (b :: bs)).right k, ?_, by simp [hstart], hbelow⟩
  rw [hblock, hhint, hbody, lastLineEnd_breaks hb, List.nil_append]
  simp only [if_true, bind, Except.bind, hempty, Option.getD_some]
  rw [blockLinesFuel_end _ _ _ _ _ _ (by simp [hstart]; omega), Chomp.ofText_breaks hb]
  rfl

/-- A text that has a line behind some line ends is read back. -/
theorem Place.block_lines {bs : List Char} (hbs : ∀ c ∈ bs, isBreak c) {d : Char}
    (hd : isBreak d = false) {t : List Char} (hp : ∀ c ∈ bs ++ d :: t, isPrintable c) :
    ∃ m', (⟨literal column (bs ++ d :: t) ++ (spaces k ++ tail), m⟩ : Place).block false least =
        .ok (bs ++ d :: t, ⟨tail, m'⟩) ∧
      m'.column = k ∧ m.line < m'.line := by
  obtain ⟨m', hline, hblock⟩ := Place.block_start hcolumn m (bs ++ d :: t) (spaces k ++ tail)
  have hbelow : m.line < (m'.below.after bs).line := hline ▸ Mark.line_lt_below_after m' bs
  have hstart := Mark.below_after_column hbs m'
  have hpbs : ∀ c ∈ bs, isPrintable c := fun c hc => hp c (List.mem_append_left _ hc)
  have hpt : ∀ c ∈ d :: t, isPrintable c := fun c hc => hp c (List.mem_append_right _ hc)
  rw [literalBody_breaks column hbs, literalBody_true hd, lastLineEnd_append,
    Chomp.ofText_append bs hd, List.append_assoc, List.append_assoc] at hblock
  generalize hbody : literalBody column false (d :: t) ++
    (lastLineEnd (d :: t) ++ (spaces k ++ tail)) = body at hblock
  have hfuel : t.length + 1 < body.length + 1 := by
    have := length_le_literalBody column (d :: t) false
    rw [← hbody]
    simp only [List.length_append, List.length_cons] at this ⊢
    omega
  have hlength : bs.length < (bs ++ (spaces column ++ body)).length + 2 := by
    rw [List.length_append]
    omega
  obtain ⟨greatest, hempty, hgreatest⟩ := emptyLinesFuel_literal m hcolumn hbs hpbs hd
    (ne_tab_of_isPrintable (hpt d List.mem_cons_self)) t (lastLineEnd (d :: t) ++ (spaces k ++ tail))
    hlength (m := m'.below) rfl
  obtain ⟨m'', hrest, hcolumn', hline'⟩ := blockLinesFuel_literal m hk htail hd hpt hfuel false none
    bs (m := (m'.below.after bs).right column) (by simp [hstart])
  rw [hbody] at hempty hrest
  refine ⟨m'', ?_, hcolumn', Nat.lt_trans hbelow hline'⟩
  rw [hblock]
  simp only [bind, Except.bind, hempty, hgreatest]
  simpa using hrest

end Blocks

/-- A text is read back from its literal block. -/
theorem Place.block_literal {least k : Nat} (hk : k < least - 1 + indentStep) {tail : List Char}
    (htail : startsPiece tail) {s : List Char} (hs : s ≠ []) (hp : ∀ c ∈ s, isPrintable c) (m : Mark) :
    ∃ m', (⟨literal (least - 1 + indentStep) s ++ (spaces k ++ tail), m⟩ : Place).block false least =
        .ok (s, ⟨tail, m'⟩) ∧
      m'.column = k ∧ m.line < m'.line := by
  have hfirst : s = s.takeWhile isBreak ++ s.dropWhile isBreak := by simp
  have hbs : ∀ c ∈ s.takeWhile isBreak, isBreak c := List.all_eq_true.mp List.all_takeWhile
  generalize s.takeWhile isBreak = bs at hfirst hbs
  cases ht : s.dropWhile isBreak with
  | nil =>
    rw [ht, List.append_nil] at hfirst
    subst hfirst
    obtain ⟨b, bs, rfl⟩ := List.exists_cons_of_ne_nil hs
    exact Place.block_breaks rfl m hk htail hbs hp
  | cons d t =>
    have hd : isBreak d = false := by
      simpa [ht] using List.head?_dropWhile_not isBreak s
    rw [ht] at hfirst
    subst hfirst
    exact Place.block_lines rfl m hk htail hbs hd hp

end BackingServices.Yaml
