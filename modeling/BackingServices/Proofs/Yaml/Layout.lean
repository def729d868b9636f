import BackingServices.Proofs.Yaml.Lexing
import BackingServices.Proofs.Yaml.Numeral

/-!
# The tokens of a rendered value

`nodeTokens` gives the kinds of tokens of a value.  A sequence that is not empty has no
tokens of its own below a simple key, where its dashes are at the column of the key.

`node_reads` follows the printer: behind a sign or a simple key the text of a value is
read as these tokens, whatever token comes next and however many blocks it closes.
Sequences, mappings and nodes are proved together, along the value.
-/

namespace BackingServices.Yaml

open Lexer

/-! ## The kinds of tokens of a value -/

/-- The token of a text. -/
def textToken (s : String) : TokenKind := .scalar s.toList (Style.ofText s == .plain)

mutual

/-- The kinds of the tokens of a value, which may stand below a simple key. -/
def nodeTokens (below : Bool) : Json → List TokenKind
  | .null => [.scalar "null".toList true]
  | .bool b => [.scalar (if b then "true" else "false").toList true]
  | .number n => [.scalar (numberChars n) true]
  | .string s => [textToken s]
  | .array [] => [.flowSequence, .flowSequenceEnd]
  | .object [] => [.flowMapping, .flowMappingEnd]
  | .array (v :: vs) =>
    if below then elementTokens (v :: vs) else .blockSequence :: elementTokens (v :: vs) ++ [.blockEnd]
  | .object (m :: ms) => .blockMapping :: entryTokens (m :: ms) ++ [.blockEnd]

/-- The kinds of the tokens of elements. -/
def elementTokens : List Json → List TokenKind
  | [] => []
  | v :: vs => .dash :: nodeTokens false v ++ elementTokens vs

/-- The kinds of the tokens of members. -/
def entryTokens : List (String × Json) → List TokenKind
  | [] => []
  | (key, v) :: ms =>
    .key :: textToken key :: .value :: nodeTokens (isSimpleKey key) v ++ entryTokens ms

end

/-! ## Values on one line or of one text -/

/-- What a value is that is neither a sequence nor a mapping with something in it, with its line end. -/
inductive Leaf (column : Nat) : Json → List Char → Prop where
  | null : Leaf column .null "null\n".toList
  | bool (b : Bool) : Leaf column (.bool b) (if b then "true\n" else "false\n").toList
  | number (n : Number) : Leaf column (.number n) (numberChars n ++ ['\n'])
  | string (s : String) : Leaf column (.string s) (textLine (column + indentStep) s)
  | array : Leaf column (.array []) "[]\n".toList
  | object : Leaf column (.object []) "\x7b\x7d\n".toList

theorem Leaf.follow_eq {column : Nat} {v : Json} {text : List Char} (h : Leaf column v text)
    (simple : Bool) : follow column simple v = ' ' :: text := by
  cases h with
  | bool b => cases b <;> rfl
  | _ => rfl

theorem plainText_word {w : List Char} (h : w ∈ ["null".toList, "true".toList, "false".toList]) :
    PlainText w := by
  have hshape : ∀ w ∈ ["null".toList, "true".toList, "false".toList], w ≠ [] ∧ (shape w).plain := by
    decide
  exact .of_shape (hshape w h).1 (hshape w h).2

theorem Leaf.startsToken {column : Nat} {v : Json} {text : List Char} (h : Leaf column v text)
    (t : List Char) : startsToken (text ++ t) := by
  cases h with
  | null => rfl
  | bool b => cases b <;> rfl
  | number n => simpa using (plainText_numberChars n).startsToken_append ('\n' :: t)
  | string s => exact startsToken_textLine _ s t
  | array => rfl
  | object => rfl

/-- Such a value is read as its token or its two tokens. -/
theorem Leaf.reads {column next : Nat} {v : Json} {text t : List Char} (hv : Leaf column v text)
    (below : Bool) {s : Lexer} {blocks : List Nat} {place : Nat} {allowed : Bool}
    (hleast : leastIn blocks - 1 = column) (ht : Yaml.startsToken t)
    (hnext : next < leastIn blocks ∨ t = [] ∧ next = 0) (hplace : leastIn blocks ≤ place + 1)
    (hkey : allowed = false ∨ blocks.head? ≠ some place)
    (hs : Ready s (text ++ (spaces next ++ t)) place blocks allowed) :
    ∃ s', Reads s (nodeTokens below v ++ closings blocks next) s' ∧
      Ready s' t next (remaining blocks next) true := by
  cases hv with
  | null => exact reads_word ht hnext hplace hkey (plainText_word (by simp)) hs
  | bool b =>
    cases b with
    | false => exact reads_word ht hnext hplace hkey (plainText_word (by simp)) hs
    | true => exact reads_word ht hnext hplace hkey (plainText_word (by simp)) hs
  | number n =>
    rw [List.append_assoc, List.singleton_append] at hs
    exact reads_word ht hnext hplace hkey (plainText_numberChars n) hs
  | string value =>
    subst hleast
    exact reads_textLine ht hnext hplace hkey value hs
  | array => exact reads_brackets .sequence ht hkey hs
  | object => exact reads_brackets .mapping ht hkey hs

/-! ## Sequences and mappings -/

theorem startsToken_elements (column : Nat) (v : Json) (vs : List Json) (t : List Char) :
    startsToken (elements column (v :: vs) ++ t) := by
  cases vs <;> simp [elements, isGap, isBlank, isBreak]

theorem startsToken_keyed (column : Nat) (key : String) (simple : Bool) (t : List Char) :
    startsToken (keyed column key simple ++ t) := by
  cases simple with
  | true => simpa [keyed] using startsToken_simpleKey key (':' :: t)
  | false => rfl

theorem startsToken_entries (column : Nat) (m : String × Json) (ms : List (String × Json))
    (t : List Char) : startsToken (entries column (m :: ms) ++ t) := by
  obtain ⟨key, v⟩ := m
  cases ms with
  | nil => simpa [entries] using startsToken_keyed column key (isSimpleKey key) _
  | cons m ms => simpa [entries] using startsToken_keyed column key (isSimpleKey key) _

/-- The elements of a sequence, the first one apart from the others. -/
theorem elements_cons (column next : Nat) (v : Json) (vs : List Json) (t : List Char) :
    ∃ next' t', elements column (v :: vs) ++ (spaces next ++ t) =
        '-' :: (follow column false v ++ (spaces next' ++ t')) ∧
      (vs = [] ∧ next' = next ∧ t' = t ∨
        vs ≠ [] ∧ next' = column ∧ t' = elements column vs ++ (spaces next ++ t)) := by
  cases vs with
  | nil => exact ⟨next, t, by simp [elements], .inl ⟨rfl, rfl, rfl⟩⟩
  | cons w ws => exact ⟨column, _, by simp [elements], .inr ⟨by simp, rfl, rfl⟩⟩

/-- The members of a mapping, the first one apart from the others. -/
theorem entries_cons (column next : Nat) (key : String) (v : Json) (ms : List (String × Json))
    (t : List Char) :
    ∃ next' t', entries column ((key, v) :: ms) ++ (spaces next ++ t) =
        keyed column key (isSimpleKey key) ++
          (follow column (isSimpleKey key) v ++ (spaces next' ++ t')) ∧
      (ms = [] ∧ next' = next ∧ t' = t ∨
        ms ≠ [] ∧ next' = column ∧ t' = entries column ms ++ (spaces next ++ t)) := by
  cases ms with
  | nil => exact ⟨next, t, by simp [entries], .inl ⟨rfl, rfl, rfl⟩⟩
  | cons m ms => exact ⟨column, _, by simp [entries], .inr ⟨by simp, rfl, rfl⟩⟩

theorem leaf_or_nested (column : Nat) (v : Json) :
    (∃ text, Leaf column v text) ∨ (∃ w ws, v = .array (w :: ws)) ∨
      ∃ key w ms, v = .object ((key, w) :: ms) := by
  cases v with
  | null => exact .inl ⟨_, .null⟩
  | bool b => exact .inl ⟨_, .bool b⟩
  | number n => exact .inl ⟨_, .number n⟩
  | string s => exact .inl ⟨_, .string s⟩
  | array vs =>
    cases vs with
    | nil => exact .inl ⟨_, .array⟩
    | cons w ws => exact .inr (.inl ⟨w, ws, rfl⟩)
  | object ms =>
    cases ms with
    | nil => exact .inl ⟨_, .object⟩
    | cons m ms => exact .inr (.inr ⟨m.1, m.2, ms, rfl⟩)

/-- Behind a sign the text of a value follows after a space. -/
theorem exists_follow (column : Nat) (v : Json) :
    ∃ u, follow column false v = ' ' :: u ∧ ∀ t, startsToken (u ++ t) := by
  obtain ⟨text, hv⟩ | ⟨w, ws, rfl⟩ | ⟨key, w, ms, rfl⟩ := leaf_or_nested column v
  · exact ⟨text, hv.follow_eq false, hv.startsToken⟩
  · exact ⟨elements (column + indentStep) (w :: ws), by simp [follow], startsToken_elements _ w ws⟩
  · exact ⟨entries (column + indentStep) ((key, w) :: ms), by simp [follow],
      startsToken_entries _ _ ms⟩

theorem blankNext_follow (column : Nat) (simple : Bool) (v : Json) (t : List Char) :
    blankNext (follow column simple v ++ t) := by
  obtain ⟨text, hv⟩ | ⟨w, ws, rfl⟩ | ⟨key, w, ms, rfl⟩ := leaf_or_nested column v
  · rw [hv.follow_eq simple]
    rfl
  · cases simple <;> simp [follow, blankNext, isBlank, isBreak]
  · cases simple <;> simp [follow, blankNext, isBlank, isBreak]

/-- A key with its colon is read up to the node behind it. -/
theorem exists_behind_keyed {s : Lexer} {key : String} {u : List Char} {column : Nat}
    {blocks : List Nat} (hblocks : leastIn blocks ≤ column + 1)
    (hspace : isSimpleKey key = false → ∃ u', u = ' ' :: u') (hu : blankNext u)
    (hs : Ready s (keyed column key (isSimpleKey key) ++ u) column blocks true) :
    ∃ l, Behind s l (opening .blockMapping blocks column ++ [.key, textToken key, .value]) u column
      (opened blocks column) (!isSimpleKey key) := by
  cases hsimple : isSimpleKey key with
  | true =>
    rw [hsimple, keyed, List.append_assoc, List.singleton_append] at hs
    exact exists_behind_key hsimple hu hblocks hs
  | false =>
    obtain ⟨u, rfl⟩ := hspace hsimple
    rw [hsimple, keyed] at hs
    simp only [List.cons_append, List.append_assoc, List.nil_append] at hs
    have hleast := leastIn_opened hblocks
    obtain ⟨l, hl⟩ := exists_behind_sign hs (advance_questionMark hs)
    obtain ⟨s₁, hkey, hready⟩ := hl.space hleast (startsToken_textLine _ _ _) rfl
    rw [hl.next rfl] at hready
    have hcolumn : leastIn (opened blocks column) - 1 + indentStep = column + indentStep := by
      rw [hleast, Nat.add_sub_cancel]
    rw [← hcolumn] at hready
    have hother : (opened blocks column).head? ≠ some (column + 1 + 1) := by
      intro heq
      cases hopened : opened blocks column with
      | nil => simp [hopened] at heq
      | cons b bs =>
        rw [hopened, leastIn] at hleast
        rw [hopened, List.head?_cons, Option.some.injEq] at heq
        omega
    obtain ⟨s₂, htext, hready₂⟩ := reads_textLine (t := ':' :: ' ' :: u) rfl
      (.inl (by omega : column < leastIn (opened blocks column))) (by omega) (.inr hother) key hready
    rw [closings_eq (Nat.le_of_eq hleast)] at htext
    rw [remaining_eq (Nat.le_of_eq hleast)] at hready₂
    obtain ⟨l', hl'⟩ := exists_behind_sign hready₂ (advance_colon hready₂)
    rw [opening_opened _ hblocks, opened_opened hblocks] at hl'
    refine ⟨l', { hl' with reads := ?_ }⟩
    intro s' ks hsettle hheld shorter
    have := (hkey.trans htext).trans (hl'.reads s' ks hsettle hheld shorter)
    simpa [textToken] using this

/-- A block that is opened two columns deeper is closed again in front of what is not as deep. -/
theorem nested (kind : TokenKind) {blocks : List Nat} {column next : Nat}
    (hblocks : leastIn blocks = column + 1) (hnext : next ≤ column) :
    opening kind blocks (column + indentStep) = [kind] ∧
      closings (opened blocks (column + indentStep)) next = .blockEnd :: closings blocks next ∧
      remaining (opened blocks (column + indentStep)) next = remaining blocks next := by
  have hopen : leastIn blocks ≤ column + indentStep := by simp only [indentStep]; omega
  have hdeep : next < column + indentStep := by simp only [indentStep]; omega
  simp [opening, opened, closings, remaining, hopen, hdeep]

section Behind

variable {s l : Lexer} {kinds : List TokenKind} {column next : Nat} {blocks : List Nat}
  {t : List Char}

/-- Behind a sign or a simple key a value on one line or of one text is read. -/
theorem Lexer.Behind.reads_leaf {v : Json} {text : List Char} {simple : Bool}
    (hl : Behind s l kinds (follow column simple v ++ (spaces next ++ t)) column blocks (!simple))
    (hv : Leaf column v text) (hblocks : leastIn blocks = column + 1) (ht : startsToken t)
    (hnext : next ≤ column) :
    ∃ s', Reads s (kinds ++ (nodeTokens simple v ++ closings blocks next)) s' ∧
      Ready s' t next (remaining blocks next) true := by
  rw [hv.follow_eq simple] at hl
  obtain ⟨s₁, hfirst, hready⟩ := hl.space hblocks (hv.startsToken _) rfl
  have hright := hl.right
  have hkey : blocks.head? ≠ some (l.place.column + 1) := by
    cases blocks with
    | nil => simp
    | cons b bs =>
      simp only [leastIn] at hblocks
      simp only [List.head?_cons, ne_eq, Option.some.injEq]
      omega
  obtain ⟨s', hreads, hready'⟩ :=
    hv.reads simple (by omega) ht (.inl (by omega)) (by omega) (.inr hkey) hready
  exact ⟨s', hfirst.trans hreads, hready'⟩

/-- The first dash of a sequence behind a simple key is below the key. -/
theorem Lexer.Behind.line_elements {w : Json} {ws : List Json} {allowed : Bool}
    (hl : Behind s l kinds (follow column true (.array (w :: ws)) ++ (spaces next ++ t)) column
      blocks allowed) (hblocks : leastIn blocks = column + 1) :
    ∃ s₁, Reads s kinds s₁ ∧
      Ready s₁ (elements column (w :: ws) ++ (spaces next ++ t)) column blocks true :=
  hl.line hblocks (startsToken_elements column w ws _) (Nat.le_refl column) (by simp [follow])

/-- The first dash of a sequence behind a sign is two columns to the right of the sign. -/
theorem Lexer.Behind.space_elements {w : Json} {ws : List Json}
    (hl : Behind s l kinds (follow column false (.array (w :: ws)) ++ (spaces next ++ t)) column
      blocks true) (hblocks : leastIn blocks = column + 1) :
    ∃ s₁, Reads s kinds s₁ ∧ Ready s₁
      (elements (column + indentStep) (w :: ws) ++ (spaces next ++ t)) (column + indentStep) blocks
        true := by
  have hspace := hl.space hblocks
    (startsToken_elements (column + indentStep) w ws (spaces next ++ t)) (by simp [follow])
  rw [hl.next rfl] at hspace
  exact hspace

/-- The first member of a mapping is two columns to the right of what it is behind. -/
theorem Lexer.Behind.before_entries {key : String} {w : Json} {ms : List (String × Json)} {simple : Bool}
    (hl : Behind s l kinds (follow column simple (.object ((key, w) :: ms)) ++ (spaces next ++ t))
      column blocks (!simple)) (hblocks : leastIn blocks = column + 1) :
    ∃ s₁, Reads s kinds s₁ ∧ Ready s₁
      (entries (column + indentStep) ((key, w) :: ms) ++ (spaces next ++ t)) (column + indentStep)
        blocks true := by
  cases simple with
  | true => exact hl.line hblocks (startsToken_entries _ _ ms _) (by omega) (by simp [follow])
  | false =>
    have hspace := hl.space hblocks
      (startsToken_entries (column + indentStep) (key, w) ms (spaces next ++ t)) (by simp [follow])
    rw [hl.next rfl] at hspace
    exact hspace

end Behind

mutual

/-- A value behind a sign or a simple key is read. -/
theorem node_reads (v : Json) {s l : Lexer} {kinds : List TokenKind} {column next : Nat}
    {blocks : List Nat} (simple : Bool) {t : List Char}
    (hl : Behind s l kinds (follow column simple v ++ (spaces next ++ t)) column blocks (!simple))
    (hblocks : leastIn blocks = column + 1) (ht : startsToken t) (hnext : next ≤ column) :
    ∃ s', Reads s (kinds ++ (nodeTokens simple v ++ closings blocks next)) s' ∧
      Ready s' t next (remaining blocks next) true := by
  rcases leaf_or_nested column v with ⟨text, hv⟩ | ⟨w, ws, rfl⟩ | ⟨key, w, ms, rfl⟩
  · exact hl.reads_leaf hv hblocks ht hnext
  · cases simple with
    | true =>
      -- The dashes are at the column of the key, so no block is opened for them.
      obtain ⟨s₁, hfirst, hready⟩ := hl.line_elements hblocks
      obtain ⟨s', hreads, hready'⟩ := elements_reads w ws hready (Nat.le_of_eq hblocks) ht hnext
      have hopen : ¬leastIn blocks ≤ column := by omega
      rw [opening, opened, if_neg hopen, if_neg hopen] at hreads
      rw [opened, if_neg hopen] at hready'
      refine ⟨s', ?_, hready'⟩
      simpa [nodeTokens] using hfirst.trans hreads
    | false =>
      obtain ⟨s₁, hfirst, hready⟩ := hl.space_elements hblocks
      obtain ⟨s', hreads, hready'⟩ := elements_reads w ws hready
        (by simp only [indentStep]; omega) ht (by omega)
      obtain ⟨hopening, hclosings, hremaining⟩ := nested .blockSequence hblocks hnext
      rw [hopening, hclosings] at hreads
      rw [hremaining] at hready'
      refine ⟨s', ?_, hready'⟩
      simpa [nodeTokens] using hfirst.trans hreads
  · obtain ⟨s₁, hfirst, hready⟩ := hl.before_entries hblocks
    obtain ⟨s', hreads, hready'⟩ := entries_reads key w ms hready
      (by simp only [indentStep]; omega) ht (by omega)
    obtain ⟨hopening, hclosings, hremaining⟩ := nested .blockMapping hblocks hnext
    rw [hopening, hclosings] at hreads
    rw [hremaining] at hready'
    refine ⟨s', ?_, hready'⟩
    simpa [nodeTokens] using hfirst.trans hreads
termination_by sizeOf v

/-- The elements of a sequence are read. -/
theorem elements_reads (v : Json) (vs : List Json) {s : Lexer} {column next : Nat}
    {blocks : List Nat} {t : List Char}
    (hs : Ready s (elements column (v :: vs) ++ (spaces next ++ t)) column blocks true)
    (hblocks : leastIn blocks ≤ column + 1) (ht : startsToken t) (hnext : next ≤ column) :
    ∃ s', Reads s (opening .blockSequence blocks column ++
        (elementTokens (v :: vs) ++ closings (opened blocks column) next)) s' ∧
      Ready s' t next (remaining (opened blocks column) next) true := by
  obtain ⟨next', t', htext, hrest⟩ := elements_cons column next v vs t
  rw [htext] at hs
  obtain ⟨u, hfollow, -⟩ := exists_follow column v
  have hleast := leastIn_opened hblocks
  obtain ⟨l, hl⟩ := exists_behind_sign hs
    (advance_dash (t := u ++ (spaces next' ++ t')) (by rw [hfollow] at hs; exact hs))
  cases vs with
  | nil =>
    obtain ⟨-, rfl, rfl⟩ | ⟨hne, -⟩ := hrest
    · obtain ⟨s', hreads, hready⟩ := node_reads v false hl hleast ht hnext
      refine ⟨s', ?_, hready⟩
      simpa [elementTokens] using hreads
    · contradiction
  | cons w ws =>
    obtain ⟨hnil, -⟩ | ⟨-, rfl, rfl⟩ := hrest
    · contradiction
    · obtain ⟨s₁, hfirst, hready₁⟩ := node_reads v false hl hleast
        (startsToken_elements next' w ws _) (Nat.le_refl next')
      rw [closings_eq (Nat.le_of_eq hleast), List.append_nil] at hfirst
      rw [remaining_eq (Nat.le_of_eq hleast)] at hready₁
      obtain ⟨s', hothers, hready⟩ := elements_reads w ws hready₁ (Nat.le_of_eq hleast) ht hnext
      rw [opening_opened _ hblocks, opened_opened hblocks, List.nil_append] at hothers
      rw [opened_opened hblocks] at hready
      refine ⟨s', ?_, hready⟩
      simpa [elementTokens] using hfirst.trans hothers
termination_by sizeOf (v :: vs)

/-- The members of a mapping are read. -/
theorem entries_reads (key : String) (v : Json) (ms : List (String × Json)) {s : Lexer}
    {column next : Nat} {blocks : List Nat} {t : List Char}
    (hs : Ready s (entries column ((key, v) :: ms) ++ (spaces next ++ t)) column blocks true)
    (hblocks : leastIn blocks ≤ column + 1) (ht : startsToken t) (hnext : next ≤ column) :
    ∃ s', Reads s (opening .blockMapping blocks column ++
        (entryTokens ((key, v) :: ms) ++ closings (opened blocks column) next)) s' ∧
      Ready s' t next (remaining (opened blocks column) next) true := by
  obtain ⟨next', t', htext, hrest⟩ := entries_cons column next key v ms t
  rw [htext] at hs
  have hleast := leastIn_opened hblocks
  have hspace : isSimpleKey key = false →
      ∃ u, follow column (isSimpleKey key) v ++ (spaces next' ++ t') = ' ' :: u := by
    intro hsimple
    obtain ⟨u, hfollow, -⟩ := exists_follow column v
    exact ⟨u ++ (spaces next' ++ t'), by rw [hsimple, hfollow, List.cons_append]⟩
  obtain ⟨l, hl⟩ := exists_behind_keyed hblocks hspace (blankNext_follow column _ v _) hs
  cases hms : ms with
  | nil =>
    rw [hms] at hrest
    obtain ⟨-, rfl, rfl⟩ | ⟨hne, -⟩ := hrest
    · obtain ⟨s', hreads, hready⟩ := node_reads v (isSimpleKey key) hl hleast ht hnext
      refine ⟨s', ?_, hready⟩
      simpa [entryTokens] using hreads
    · contradiction
  | cons m ms' =>
    rw [hms] at hrest
    obtain ⟨hnil, -⟩ | ⟨-, rfl, rfl⟩ := hrest
    · contradiction
    · obtain ⟨s₁, hfirst, hready₁⟩ := node_reads v (isSimpleKey key) hl hleast
        (startsToken_entries next' m ms' _) (Nat.le_refl next')
      rw [closings_eq (Nat.le_of_eq hleast), List.append_nil] at hfirst
      rw [remaining_eq (Nat.le_of_eq hleast)] at hready₁
      obtain ⟨s', hothers, hready⟩ := entries_reads m.1 m.2 ms' hready₁ (Nat.le_of_eq hleast) ht hnext
      rw [opening_opened _ hblocks, opened_opened hblocks, List.nil_append] at hothers
      rw [opened_opened hblocks] at hready
      refine ⟨s', ?_, hready⟩
      simpa [entryTokens] using hfirst.trans hothers
termination_by sizeOf ((key, v) :: ms)
decreasing_by
  · decreasing_tactic
  · decreasing_tactic
  · subst hms
    cases m
    decreasing_tactic

end

/-! ## Documents -/

/-- A document is read as the tokens of its value, except that the end of the stream closes the block
of the root. -/
theorem document_reads (v : Json) {s : Lexer} (hs : Ready s (document v) 0 [] true) :
    ∃ s' ks blocks, Reads s ks s' ∧ Ready s' [] 0 blocks true ∧
      ks ++ blocks.map (fun _ => TokenKind.blockEnd) = nodeTokens false v := by
  rcases leaf_or_nested 0 v with ⟨text, hv⟩ | ⟨w, ws, rfl⟩ | ⟨key, w, ms, rfl⟩
  · have htext : document v = text ++ (spaces 0 ++ []) := by
      have hfollow := hv.follow_eq false
      cases hv with
      | string s => simp [document]
      | _ => simp [document, hfollow]
    rw [htext] at hs
    obtain ⟨s', hreads, hready⟩ := hv.reads false rfl rfl (.inr ⟨rfl, rfl⟩) (Nat.zero_le _)
      (.inr (by simp)) hs
    exact ⟨s', _, [], hreads, hready, by simp [closings]⟩
  · rw [document, ← List.append_nil (elements 0 (w :: ws))] at hs
    obtain ⟨s', hreads, hready⟩ := elements_reads w ws (t := [])
      (show Ready s (elements 0 (w :: ws) ++ (spaces 0 ++ [])) 0 [] true from hs) (Nat.zero_le _) rfl
      (Nat.le_refl 0)
    exact ⟨s', _, [0], hreads, hready, by simp [opening, opened, leastIn, closings, nodeTokens]⟩
  · rw [document, ← List.append_nil (entries 0 ((key, w) :: ms))] at hs
    obtain ⟨s', hreads, hready⟩ := entries_reads key w ms (t := [])
      (show Ready s (entries 0 ((key, w) :: ms) ++ (spaces 0 ++ [])) 0 [] true from hs)
      (Nat.zero_le _) rfl (Nat.le_refl 0)
    exact ⟨s', _, [0], hreads, hready, by simp [opening, opened, leastIn, closings, nodeTokens]⟩

/-- At the end of the stream the open blocks are closed. -/
theorem tokensFuel_end {s l : Lexer} {blocks : List Nat} (hs : Ready s [] 0 blocks true)
    (hl : l.settle = .ok s) (n : Nat) :
    ∃ ts, l.tokensFuel (n + 1) = (s.held ++ ts, none) ∧
      ts.map Token.kind = blocks.map (fun _ => TokenKind.blockEnd) ++ [.streamEnd] := by
  have hcolumn : s.place.mark.column = 0 := hs.column
  obtain ⟨l', hnext, hheld, hkey, houter⟩ : ∃ l', l.next = .ok l' ∧
      l'.held = s.held ++ (blocks.map (fun _ => ⟨.blockEnd, s.place.mark⟩) ++
        [⟨.streamEnd, s.place.mark⟩]) ∧ l'.key? = none ∧ l'.outerKeys = [] := by
    simp only [next_eq, hl, advance, hs.rest, streamEnd, hcolumn, if_true, bind, Except.bind, closeAll,
      inFlow, hs.outer, hs.blocks, dropKey, hs.key]
    refine ⟨_, refreshKeys_none rfl rfl, ?_, rfl, rfl⟩
    simp [addAt]
  have hrelease : l'.release.1 = l'.held := by simp [release, firstHeld?, hkey, houter]
  refine ⟨blocks.map (fun _ => ⟨.blockEnd, s.place.mark⟩) ++ [⟨.streamEnd, s.place.mark⟩], ?_, ?_⟩
  · rw [tokensFuel, hnext]
    simp [hrelease, hheld, isLast]
  · rw [List.map_append, List.map_map]
    rfl

mutual

theorem streamEnd_not_mem_nodeTokens (v : Json) (below : Bool) :
    TokenKind.streamEnd ∉ nodeTokens below v := by
  match v with
  | .null | .bool _ | .number _ | .string _ | .array [] | .object [] => simp [nodeTokens, textToken]
  | .array (w :: ws) =>
    have := streamEnd_not_mem_elementTokens (w :: ws)
    cases below <;> simp [nodeTokens, this]
  | .object (m :: ms) =>
    have := streamEnd_not_mem_entryTokens (m :: ms)
    simp [nodeTokens, this]

theorem streamEnd_not_mem_elementTokens (vs : List Json) : TokenKind.streamEnd ∉ elementTokens vs := by
  match vs with
  | [] => simp [elementTokens]
  | w :: ws =>
    simp [elementTokens, streamEnd_not_mem_nodeTokens w, streamEnd_not_mem_elementTokens ws]

theorem streamEnd_not_mem_entryTokens (ms : List (String × Json)) :
    TokenKind.streamEnd ∉ entryTokens ms := by
  match ms with
  | [] => simp [entryTokens]
  | (key, w) :: ms =>
    simp [entryTokens, textToken, streamEnd_not_mem_nodeTokens w, streamEnd_not_mem_entryTokens ms]

end

/-- The tokens of a stream that has a document behind some other tokens. -/
theorem tokensFuel_document (v : Json) {s₀ s l : Lexer} {front : List TokenKind}
    (hfront : Reads s₀ front s) (hnone : TokenKind.streamEnd ∉ front)
    (hs : Ready s (document v) 0 [] true) (hl : l.settle = .ok s₀) (hheld : s₀.held = []) {n : Nat}
    (hn : s₀.place.rest.length < n) :
    (l.tokensFuel n).1.map Token.kind = front ++ (nodeTokens false v ++ [.streamEnd]) ∧
      (l.tokensFuel n).2 = none := by
  obtain ⟨s', ks, blocks, hreads, hready, hblocks⟩ := document_reads v hs
  obtain ⟨ts, hpasses, hkinds⟩ := hfront.trans hreads
  simp only [heldKinds, hheld, List.map_nil, List.nil_append] at hkinds
  have hlast : ∀ t ∈ ts, t.kind ≠ .streamEnd := by
    intro t ht heq
    have hmem : TokenKind.streamEnd ∈ front ++ ks := by
      rw [← hkinds, ← heq]
      exact List.mem_append_left _ (List.mem_map_of_mem ht)
    rcases List.mem_append.mp hmem with hmem | hmem
    · exact hnone hmem
    · exact streamEnd_not_mem_nodeTokens v false (hblocks ▸ List.mem_append_left _ hmem)
  obtain ⟨l', n', hl', hn', htokens⟩ := tokensFuel_of_passes hpasses hlast hl hn
  obtain ⟨n', rfl⟩ : ∃ k, n' = k + 1 := ⟨n' - 1, by omega⟩
  obtain ⟨us, hend, hus⟩ := tokensFuel_end hready hl' n'
  rw [htokens, hend]
  simp only [List.map_append, hus, and_true]
  rw [← hblocks, ← List.append_assoc, hkinds]
  simp

theorem startsToken_document (v : Json) : startsToken (document v) := by
  rcases leaf_or_nested 0 v with ⟨text, hv⟩ | ⟨w, ws, rfl⟩ | ⟨key, w, ms, rfl⟩
  · have htext : document v = text ++ [] := by
      have hfollow := hv.follow_eq false
      cases hv with
      | string s => simp [document]
      | _ => simp [document, hfollow]
    rw [htext]
    exact hv.startsToken []
  · simpa [document] using startsToken_elements 0 w ws []
  · simpa [document] using startsToken_entries 0 (key, w) ms []

theorem settle_start {text : List Char} (h : startsToken text) :
    (start text).settle = .ok (start text) := by
  rw [settle, skipGap_token h]
  rfl

/-- The line that begins a document is read as its mark. -/
theorem reads_documentStart (v : Json) : ∃ s, Reads (start ("---\n".toList ++ document v))
    [.documentStart] s ∧ Ready s (document v) 0 [] true := by
  have hadvance : (start ("---\n".toList ++ document v)).advance =
      .ok { start ("---\n".toList ++ document v) with
        place := ⟨'\n' :: (spaces 0 ++ document v), ⟨3, 0, 3⟩⟩
        keyAllowed := false
        held := [⟨.documentStart, .start⟩] } := by
    rfl
  exact reads_line rfl hadvance rfl rfl [_] rfl (by simp [CanLapse, start])
    (startsToken_document v) (.inl ⟨rfl, Nat.le_refl 0⟩) (by simp [start, Place.start]; omega)

/-! ## Readable characters -/

theorem isReadable_keyed (column : Nat) (key : String) (simple : Bool) :
    ∀ c ∈ keyed column key simple, isReadable c := by
  intro c hc
  cases simple with
  | true =>
    rcases List.mem_append.mp hc with hc | hc
    · exact isReadable_simpleKey key c hc
    · rw [List.mem_singleton.mp hc]
      rfl
  | false =>
    simp only [keyed, List.mem_cons, List.mem_append, List.not_mem_nil, or_false] at hc
    rcases hc with ((rfl | rfl | hc) | hc) | rfl
    · rfl
    · rfl
    · exact isReadable_textLine _ key c hc
    · exact isReadable_spaces hc
    · rfl

theorem Leaf.isReadable {column : Nat} {v : Json} {text : List Char} (h : Leaf column v text) :
    ∀ c ∈ text, isReadable c := by
  cases h with
  | null => exact List.all_eq_true.mp rfl
  | bool b => cases b <;> exact List.all_eq_true.mp rfl
  | number n =>
    intro c hc
    rcases List.mem_append.mp hc with hc | hc
    · exact isReadable_of_isPrintable ((plainText_numberChars n).printable c hc)
    · rw [List.mem_singleton.mp hc]
      rfl
  | string s => exact isReadable_textLine _ s
  | array => exact List.all_eq_true.mp rfl
  | object => exact List.all_eq_true.mp rfl

mutual

theorem isReadable_follow (column : Nat) (simple : Bool) (v : Json) :
    ∀ c ∈ follow column simple v, isReadable c := by
  intro c hc
  rcases leaf_or_nested column v with ⟨text, hv⟩ | ⟨w, ws, rfl⟩ | ⟨key, w, ms, rfl⟩
  · rw [hv.follow_eq simple] at hc
    rcases List.mem_cons.mp hc with rfl | hc
    · rfl
    · exact hv.isReadable c hc
  · cases simple with
    | true =>
      simp only [follow, if_true, List.cons_append, List.mem_cons, List.mem_append] at hc
      rcases hc with rfl | hc | hc
      · rfl
      · exact isReadable_spaces hc
      · exact isReadable_elements column (w :: ws) c hc
    | false =>
      simp only [follow, Bool.false_eq_true, if_false, List.mem_cons] at hc
      rcases hc with rfl | hc
      · rfl
      · exact isReadable_elements _ (w :: ws) c hc
  · cases simple with
    | true =>
      simp only [follow, if_true, List.cons_append, List.mem_cons, List.mem_append] at hc
      rcases hc with rfl | hc | hc
      · rfl
      · exact isReadable_spaces hc
      · exact isReadable_entries _ ((key, w) :: ms) c hc
    | false =>
      simp only [follow, Bool.false_eq_true, if_false, List.mem_cons] at hc
      rcases hc with rfl | hc
      · rfl
      · exact isReadable_entries _ ((key, w) :: ms) c hc

theorem isReadable_elements (column : Nat) (vs : List Json) :
    ∀ c ∈ elements column vs, isReadable c := by
  intro c hc
  match vs with
  | [] => simp [elements] at hc
  | [v] =>
    rcases List.mem_cons.mp hc with rfl | hc
    · rfl
    · exact isReadable_follow column false v c hc
  | v :: w :: ws =>
    simp only [elements, List.cons_append, List.mem_cons, List.mem_append] at hc
    rcases hc with rfl | (hc | hc) | hc
    · rfl
    · exact isReadable_follow column false v c hc
    · exact isReadable_spaces hc
    · exact isReadable_elements column (w :: ws) c hc

theorem isReadable_entries (column : Nat) (ms : List (String × Json)) :
    ∀ c ∈ entries column ms, isReadable c := by
  intro c hc
  match ms with
  | [] => simp [entries] at hc
  | [(key, v)] =>
    simp only [entries, List.mem_append] at hc
    rcases hc with hc | hc
    · exact isReadable_keyed column key _ c hc
    · exact isReadable_follow column _ v c hc
  | (key, v) :: m :: ms =>
    simp only [entries, List.mem_append] at hc
    rcases hc with ((hc | hc) | hc) | hc
    · exact isReadable_keyed column key _ c hc
    · exact isReadable_follow column _ v c hc
    · exact isReadable_spaces hc
    · exact isReadable_entries column (m :: ms) c hc

end

/-- All characters of a document may stand in a stream. -/
theorem isReadable_document (v : Json) : ∀ c ∈ document v, isReadable c := by
  rcases leaf_or_nested 0 v with ⟨text, hv⟩ | ⟨w, ws, rfl⟩ | ⟨key, w, ms, rfl⟩
  · have htext : document v = text := by
      have hfollow := hv.follow_eq false
      cases hv with
      | string s => simp [document]
      | _ => simp [document, hfollow]
    rw [htext]
    exact hv.isReadable
  · exact isReadable_elements 0 (w :: ws)
  · exact isReadable_entries 0 ((key, w) :: ms)

/-! ## Streams -/

/-- The tokens of a rendered value. -/
theorem tokens_render (v : Json) :
    (tokens (render v)).1.map Token.kind = nodeTokens false v ++ [.streamEnd] ∧
      (tokens (render v)).2 = none := by
  have hready : Ready (start (document v)) (document v) 0 [] true := ⟨rfl, rfl, rfl, rfl, rfl, rfl⟩
  have hfront : Reads (start (document v)) [] (start (document v)) := ⟨[], .refl _, rfl⟩
  rw [tokens, render, String.toList_ofList]
  simp only [unreadable?_eq_none (isReadable_document v)]
  exact tokensFuel_document v hfront (by simp) hready (settle_start (startsToken_document v)) rfl
    (by simp [start, Place.start])

/-- The tokens of a rendered value behind the line that begins a document. -/
theorem tokens_marked (v : Json) :
    (tokens ("---\n" ++ render v)).1.map Token.kind =
        .documentStart :: (nodeTokens false v ++ [.streamEnd]) ∧
      (tokens ("---\n" ++ render v)).2 = none := by
  obtain ⟨s, hfront, hready⟩ := reads_documentStart v
  have hreadable : ∀ c ∈ "---\n".toList ++ document v, isReadable c := by
    intro c hc
    rcases List.mem_append.mp hc with hc | hc
    · exact List.all_eq_true.mp (by decide : "---\n".toList.all isReadable = true) c hc
    · exact isReadable_document v c hc
  have htext : ("---\n" ++ render v).toList = "---\n".toList ++ document v := by
    simp [render]
  rw [tokens, htext]
  simp only [unreadable?_eq_none hreadable]
  exact tokensFuel_document v hfront (by simp) hready (settle_start rfl) rfl
    (by simp [start, Place.start])

end BackingServices.Yaml
