import BackingServices.Proofs.Text
import BackingServices.Proofs.Yaml.Literal
import BackingServices.Proofs.Yaml.Plain

/-!
# What the style of a text promises

A text is written in the style that `Style.ofText` chooses for it.  The choice promises
what the readers of the styles need (`plainText_of_style`, `singleText_of_style`,
`block_of_style`).  In every style a text begins with a token and has readable characters
only, and as a simple key it is short enough for its colon to be found.
-/

namespace BackingServices.Yaml

/-! ## What is promised -/

/-- A text in plain style is a plain text. -/
theorem plainText_of_style {value : String} (h : Style.ofText value = .plain) :
    PlainText value.toList := by
  have hempty : value ≠ "" := by
    rintro rfl
    exact absurd h (by decide)
  have hne : value.toList ≠ [] := by simpa using hempty
  refine .of_shape hne ?_
  rw [Style.ofText] at h
  split at h
  · split at h <;> contradiction
  · split at h
    · assumption
    · split at h <;> contradiction
  · split at h <;> contradiction
  · contradiction

/-- A text in the style of single quotes may stand between them. -/
theorem singleText_of_style {value : String} (h : Style.ofText value = .single) :
    SingleText value.toList := by
  have hwanted : Style.wanted value ≠ .literal := by
    intro heq
    rw [Style.ofText, heq] at h
    simp only at h
    split at h <;> contradiction
  have hlineFeed : '\n' ∉ value.toList := by
    intro hmem
    exact hwanted (by simp [Style.wanted, hmem])
  refine .of_shape ?_ hlineFeed
  rw [Style.ofText] at h
  split at h
  · contradiction
  · split at h
    · contradiction
    · split at h
      · assumption
      · contradiction
  · split at h
    · assumption
    · contradiction
  · contradiction

/-- A text in the style of blocks may be one. -/
theorem block_of_style {value : String} (h : Style.ofText value = .literal) :
    (shape value.toList).block = true := by
  rw [Style.ofText] at h
  split at h
  · split at h
    · assumption
    · contradiction
  · split at h
    · contradiction
    · split at h <;> contradiction
  · split at h <;> contradiction
  · contradiction

/-! ## What a written text begins with -/

theorem startsToken_textLine (column : Nat) (s : String) (t : List Char) :
    startsToken (textLine column s ++ t) := by
  rw [textLine]
  cases hstyle : Style.ofText s with
  | plain => simpa using (plainText_of_style hstyle).startsToken_append ('\n' :: t)
  | single => rfl
  | double => rfl
  | literal => rfl

theorem startsToken_simpleKey (key : String) (t : List Char) : startsToken (simpleKey key ++ t) := by
  rw [simpleKey]
  cases hstyle : Style.ofText key with
  | plain => exact (plainText_of_style hstyle).startsToken_append t
  | single => rfl
  | double => rfl
  | literal => rfl

theorem simpleKey_ne_nil (value : String) : simpleKey value ≠ [] := by
  rw [simpleKey]
  cases hstyle : Style.ofText value with
  | plain => exact (plainText_of_style hstyle).ne_nil
  | single => simp [singleQuoted]
  | double | literal => simp [doubleQuoted]

/-! ## The length of a key -/

/-- An escape and its backslash have at most four characters for each octet. -/
theorem length_escape_lt (c : Char) : (escape c).length < 4 * c.utf8Size := by
  have hsize : 1 ≤ c.utf8Size ∧ (0xFF < c.toNat → 2 ≤ c.utf8Size) ∧
      (0xFFFF < c.toNat → 4 ≤ c.utf8Size) := by
    have heq : c.utf8Size = if c.toNat ≤ 0x7F then 1 else if c.toNat ≤ 0x7FF then 2
      else if c.toNat ≤ 0xFFFF then 3 else 4 := rfl
    rw [heq]
    grind
  have hlt : c.toNat < 1114112 := by
    rcases c.valid with h | h
    · exact Nat.lt_trans h (by decide)
    · exact h.2
  have hdigits : ∀ width, c.toNat < 16 ^ width → 0 < width →
      (upperHex width c.toNat).length = width := fun width h hwidth =>
    length_upperHex ((Nat.length_toDigits_le_iff (by decide) hwidth).mpr h)
  rw [escape]
  split
  · rw [List.length_singleton]
    omega
  split
  · rw [List.length_cons, hdigits 2 (by omega) (by decide)]
    omega
  split
  · rw [List.length_cons, hdigits 4 (by omega) (by decide)]
    omega
  · rw [List.length_cons, hdigits 8 (by omega) (by decide)]
    omega

theorem length_doubleBody_le (s : List Char) :
    (s.flatMap doubleChar).length ≤ 4 * (String.ofList s).utf8ByteSize := by
  induction s with
  | nil => simp
  | cons c cs ih =>
    have hchar : (doubleChar c).length ≤ 4 * c.utf8Size := by
      have := length_escape_lt c
      rw [doubleChar]
      split
      · exact this
      · rw [List.length_singleton]
        omega
    rw [List.flatMap_cons, List.length_append, Text.utf8ByteSize_cons]
    omega

theorem length_singleBody_le (column : Nat) {s : List Char} (h : ∀ c ∈ s, isBreak c = false) :
    (singleBody column false s).length ≤ 2 * s.length := by
  induction s with
  | nil => simp [singleBody]
  | cons c cs ih =>
    have := ih fun d hd => h d (.tail _ hd)
    rw [singleBody_cons (h c List.mem_cons_self), List.length_append, List.length_cons]
    split <;> simp only [List.length_cons, List.length_nil] <;> omega

theorem not_isBreak_of_mem_singleQuoted {column : Nat} {s : List Char}
    (h : ∀ c ∈ s, isBreak c = false) : ∀ c ∈ singleQuoted column s, isBreak c = false := by
  have hbody : ∀ c ∈ singleBody column false s, isBreak c = false := by
    induction s with
    | nil => simp [singleBody]
    | cons d ds ih =>
      rw [singleBody_cons (h d List.mem_cons_self)]
      intro c hc
      rcases List.mem_append.mp hc with hc | hc
      · have : c = '\'' ∨ c = d := by
          split at hc <;> simp_all
        rcases this with rfl | rfl
        · decide
        · exact h c List.mem_cons_self
      · exact ih (fun e he => h e (.tail _ he)) c hc
  intro c hc
  simp only [singleQuoted, List.mem_append, List.mem_cons, List.not_mem_nil, or_false] at hc
  rcases hc with (rfl | hc) | rfl
  · decide
  · exact hbody c hc
  · decide

/-- On one line the column does not matter. -/
theorem singleBody_inline {column : Nat} {s : List Char} (h : ∀ c ∈ s, isBreak c = false)
    (column' : Nat) : singleBody column false s = singleBody column' false s := by
  induction s with
  | nil => rfl
  | cons c cs ih =>
    rw [singleBody_cons (h c List.mem_cons_self), singleBody_cons (h c List.mem_cons_self),
      ih fun d hd => h d (.tail _ hd)]

/-- A simple key has no line end and is short enough for its colon to be found. -/
theorem simpleKey_inline {value : String} (h : isSimpleKey value) :
    (∀ c ∈ value.toList, isBreak c = false) ∧ value.utf8ByteSize ≤ simpleKeyLength := by
  simp only [isSimpleKey, Bool.and_eq_true, decide_eq_true_eq, Bool.not_eq_true'] at h
  refine ⟨?_, h.1⟩
  obtain ⟨-, hlines⟩ := h
  cases hvalue : value.toList with
  | nil => simp
  | cons c cs =>
    simp only [shape, hvalue, List.isEmpty_cons, Bool.false_eq_true, if_false] at hlines
    intro d hd
    exact Bool.eq_false_iff.mpr (List.any_eq_false.mp hlines d hd)

/-! ## Readable characters -/

theorem isReadable_of_isPrintable {c : Char} (h : isPrintable c) : isReadable c := by
  simp only [isPrintable, isReadable, Bool.or_eq_true, Bool.and_eq_true] at h ⊢
  grind

theorem unreadable?_eq_none {cs : List Char} (h : ∀ c ∈ cs, isReadable c) (n : Nat) :
    unreadable? n cs = none := by
  induction cs generalizing n with
  | nil => rfl
  | cons c cs ih => simp [unreadable?, h c List.mem_cons_self, ih fun d hd => h d (.tail _ hd)]

theorem isReadable_singleBody {column : Nat} {s : List Char} (hs : ∀ c ∈ s, isPrintable c)
    (broken : Bool) : ∀ c ∈ singleBody column broken s, isReadable c := by
  induction s generalizing broken with
  | nil =>
    intro c hc
    rw [singleBody] at hc
    split at hc
    · exact mem_spaces hc ▸ rfl
    · simp at hc
  | cons d ds ih =>
    have hd := isReadable_of_isPrintable (hs d List.mem_cons_self)
    have hds := ih fun c hc => hs c (.tail _ hc)
    intro c hc
    rw [singleBody] at hc
    split at hc
    · rcases List.mem_cons.mp hc with rfl | hc
      · exact hd
      · exact hds true c hc
    · rcases List.mem_append.mp hc with hc | hc
      · rcases List.mem_append.mp hc with hc | hc
        · split at hc
          · exact mem_spaces hc ▸ rfl
          · simp at hc
        · have : c = '\'' ∨ c = d := by
            split at hc <;> simp_all
          rcases this with rfl | rfl
          · rfl
          · exact hd
      · exact hds false c hc

theorem isReadable_literalBody {column : Nat} {s : List Char} (hs : ∀ c ∈ s, isPrintable c)
    (fresh : Bool) : ∀ c ∈ literalBody column fresh s, isReadable c := by
  induction s generalizing fresh with
  | nil => simp [literalBody]
  | cons d ds ih =>
    have hd := isReadable_of_isPrintable (hs d List.mem_cons_self)
    have hds := ih fun c hc => hs c (.tail _ hc)
    intro c hc
    rw [literalBody] at hc
    split at hc
    · rcases List.mem_cons.mp hc with rfl | hc
      · exact hd
      · exact hds true c hc
    · rcases List.mem_append.mp hc with hc | hc
      · split at hc
        · exact mem_spaces hc ▸ rfl
        · simp at hc
      · rcases List.mem_cons.mp hc with rfl | hc
        · exact hd
        · exact hds false c hc

/-- The characters of an escape are visible ones of ASCII. -/
theorem visible_of_mem_escape {c d : Char} (h : d ∈ escape c) : 0x21 ≤ d.toNat ∧ d.toNat ≤ 0x7E := by
  have hletters : ∀ p ∈ escapeLetters, 0x21 ≤ p.2.toNat ∧ p.2.toNat ≤ 0x7E := by decide
  have hdigits : ∀ d < 16, 0x21 ≤ d.digitChar.toUpper.toNat ∧ d.digitChar.toUpper.toNat ≤ 0x7E := by
    decide
  have hhex : ∀ width x, 0x21 ≤ x.toNat ∧ x.toNat ≤ 0x7E → d ∈ x :: upperHex width c.toNat →
      0x21 ≤ d.toNat ∧ d.toNat ≤ 0x7E := by
    intro width x hx hd
    rcases List.mem_cons.mp hd with rfl | hd
    · exact hx
    · obtain ⟨k, hk, rfl⟩ := exists_of_mem_upperHex hd
      exact hdigits k hk
  rw [escape] at h
  split at h
  · rename_i letter hlookup
    obtain ⟨l₁, l₂, hl, -⟩ := List.lookup_eq_some_iff.mp hlookup
    rw [List.mem_singleton] at h
    exact h ▸ hletters (c, letter) (by simp [hl])
  split at h
  · exact hhex 2 'x' (by decide) h
  split at h
  · exact hhex 4 'u' (by decide) h
  · exact hhex 8 'U' (by decide) h

theorem isReadable_escape {c d : Char} (h : d ∈ escape c) : isReadable d := by
  obtain ⟨hleast, hgreatest⟩ := visible_of_mem_escape h
  refine isReadable_of_isPrintable ?_
  simp only [isPrintable, Bool.or_eq_true, Bool.and_eq_true, decide_eq_true_eq]
  omega

theorem isReadable_doubleChar {c d : Char} (h : d ∈ doubleChar c) : isReadable d := by
  cases hraw : !isPrintable c || isBreak c || c == '"' || c == '\\' with
  | true =>
    rw [doubleChar_escaped hraw] at h
    rcases List.mem_cons.mp h with rfl | h
    · rfl
    · exact isReadable_escape h
  | false =>
    rw [doubleChar_raw hraw, List.mem_singleton] at h
    subst h
    simp only [Bool.or_eq_false_iff, Bool.not_eq_false'] at hraw
    exact isReadable_of_isPrintable hraw.1.1.1

theorem isReadable_doubleQuoted (s : List Char) : ∀ c ∈ doubleQuoted s, isReadable c := by
  intro c hc
  simp only [doubleQuoted, List.mem_append, List.mem_cons, List.mem_flatMap, List.not_mem_nil,
    or_false] at hc
  rcases hc with (rfl | ⟨d, -, hd⟩) | rfl
  · rfl
  · exact isReadable_doubleChar hd
  · rfl

theorem isReadable_singleQuoted {column : Nat} {s : List Char} (hs : ∀ c ∈ s, isPrintable c) :
    ∀ c ∈ singleQuoted column s, isReadable c := by
  intro c hc
  simp only [singleQuoted, List.mem_append, List.mem_cons, List.not_mem_nil, or_false] at hc
  rcases hc with (rfl | hc) | rfl
  · rfl
  · exact isReadable_singleBody hs false c hc
  · rfl

theorem isReadable_literal {column : Nat} {s : List Char} (hs : ∀ c ∈ s, isPrintable c) :
    ∀ c ∈ literal column s, isReadable c := by
  intro c hc
  have hsign : ∀ c ∈ chomping s, isReadable c := by
    rw [chomping_eq]
    cases Chomp.ofText s <;> simp [Chomp.sign, isReadable]
  have hhint : ∀ c ∈ (if needsIndentation s then Nat.toDigits 10 indentStep else []), isReadable c := by
    split
    · exact List.all_eq_true.mp (by decide)
    · simp
  have hend : ∀ c ∈ (if s.getLast?.all isBreak then [] else ['\n']), isReadable c := by
    split <;> simp [isReadable]
  simp only [literal, List.cons_append, List.mem_cons, List.mem_append] at hc
  rcases hc with rfl | ((hc | hc) | rfl | hc) | hc
  · rfl
  · exact hhint c hc
  · exact hsign c hc
  · rfl
  · exact isReadable_literalBody hs true c hc
  · exact hend c hc

theorem isReadable_textLine (column : Nat) (s : String) : ∀ c ∈ textLine column s, isReadable c := by
  have hend : ∀ {t : List Char}, (∀ c ∈ t, isReadable c) → ∀ c ∈ t ++ ['\n'], isReadable c := by
    intro t ht c hc
    rcases List.mem_append.mp hc with hc | hc
    · exact ht c hc
    · rw [List.mem_singleton.mp hc]
      rfl
  rw [textLine]
  cases hstyle : Style.ofText s with
  | plain =>
    exact hend fun c hc => isReadable_of_isPrintable ((plainText_of_style hstyle).printable c hc)
  | single => exact hend (isReadable_singleQuoted (singleText_of_style hstyle).printable)
  | double => exact hend (isReadable_doubleQuoted s.toList)
  | literal => exact isReadable_literal (isPrintable_of_block (block_of_style hstyle)).2

theorem isReadable_simpleKey (key : String) : ∀ c ∈ simpleKey key, isReadable c := by
  rw [simpleKey]
  cases hstyle : Style.ofText key with
  | plain =>
    exact fun c hc => isReadable_of_isPrintable ((plainText_of_style hstyle).printable c hc)
  | single => exact isReadable_singleQuoted (singleText_of_style hstyle).printable
  | double | literal => exact isReadable_doubleQuoted key.toList

theorem isReadable_spaces {n : Nat} {c : Char} (h : c ∈ spaces n) : isReadable c := mem_spaces h ▸ rfl

end BackingServices.Yaml
