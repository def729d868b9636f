import BackingServices.Proofs.Binary64
import BackingServices.Proofs.Yaml.Digits
import BackingServices.Proofs.Yaml.Plain
import BackingServices.Yaml.Printer

/-!
# Numbers are read back

The text of a number is plain (`plainText_numberChars`), and as an unquoted scalar it is
this number (`resolve_numberChars`): an integer stays an integer, and a double is the same
double.

`DecimalText` says how the text of a decimal looks, and `StandsFor` how its digits are
counted.  What is known of such texts is derived from these two.
-/

namespace BackingServices.Yaml

/-! ## Numerals are plain -/

/-- Whether a character occurs in numerals. -/
def isNumeralCharacter (c : Char) : Bool := c.isDigit || c == '-' || c == '.' || c == 'e'

/-- Whether a text begins with a digit. -/
def startsDigit (s : List Char) : Bool := s.head?.any Char.isDigit

theorem isDigit_decimalDigits {n : Nat} {c : Char} (h : c ∈ decimalDigits n) : c.isDigit :=
  Nat.isDigit_of_mem_toDigits (by decide) (by decide) h

theorem exists_decimalDigits (n : Nat) :
    ∃ c cs, decimalDigits n = c :: cs ∧ c.isDigit ∧ ∀ d ∈ cs, d.isDigit := by
  cases h : decimalDigits n with
  | nil => exact absurd h (Nat.toDigits_ne_nil)
  | cons c cs =>
    have hdigits : ∀ d ∈ c :: cs, d.isDigit := fun d hd => isDigit_decimalDigits (h ▸ hd)
    exact ⟨c, cs, rfl, hdigits c List.mem_cons_self, fun d hd => hdigits d (.tail _ hd)⟩

theorem isNumeralCharacter_of_isDigit {c : Char} (h : c.isDigit) : isNumeralCharacter c := by
  simp [isNumeralCharacter, h]

theorem isPrintable_of_isNumeralCharacter {c : Char} (h : isNumeralCharacter c) : isPrintable c := by
  simp only [isNumeralCharacter, Bool.or_eq_true, beq_iff_eq] at h
  rcases h with ((h | rfl) | rfl) | rfl
  · have hdigit : 48 ≤ c.toNat ∧ c.toNat ≤ 57 := Char.isDigit_iff_toNat.mp h
    simp only [isPrintable, Bool.or_eq_true, Bool.and_eq_true, decide_eq_true_eq]
    omega
  · decide
  · decide
  · decide

/-- A character that is none of numerals does not occur in one. -/
theorem ne_of_isNumeralCharacter {c : Char} (h : isNumeralCharacter c) (d : Char)
    (hd : isNumeralCharacter d = false) : c ≠ d := by
  rintro rfl
  rw [h] at hd
  contradiction

theorem isBreak_of_isNumeralCharacter {c : Char} (h : isNumeralCharacter c) : isBreak c = false := by
  have hne := ne_of_isNumeralCharacter h
  simp only [isBreak, Bool.or_eq_false_iff, beq_eq_false_iff_ne]
  exact ⟨⟨⟨⟨hne _ (by decide), hne _ (by decide)⟩, hne _ (by decide)⟩, hne _ (by decide)⟩,
    hne _ (by decide)⟩

theorem badLater_of_numeral {s : List Char} (hs : ∀ c ∈ s, isNumeralCharacter c) (previous : Char) :
    badLater previous s = false := by
  induction s generalizing previous with
  | nil => rfl
  | cons c cs ih =>
    have hne := ne_of_isNumeralCharacter (hs c List.mem_cons_self)
    have hcolon : (c == ':') = false := beq_eq_false_iff_ne.mpr (hne ':' (by decide))
    have hhash : (c == '#') = false := beq_eq_false_iff_ne.mpr (hne '#' (by decide))
    simp [badLater, hcolon, hhash, ih fun d hd => hs d (.tail _ hd)]

/-- No character of numerals is one that keeps a text from being plain by beginning it. -/
theorem not_indicator_of_isNumeralCharacter {c : Char} (h : isNumeralCharacter c) :
    "#,[]\x7b\x7d&*!|>'\"%@`".toList.contains c = false := by
  simp only [List.contains_eq_mem, decide_eq_false_iff_not]
  intro hmem
  have hnone : ("#,[]\x7b\x7d&*!|>'\"%@`".toList.all fun d => !isNumeralCharacter d) = true := by
    decide
  have hother := List.all_eq_true.mp hnone c hmem
  rw [h] at hother
  contradiction

/-- A text begins with a digit, or with a minus and a digit. -/
inductive BeginsNumeral : List Char → Prop where
  | digit {c : Char} (hc : c.isDigit) (cs : List Char) : BeginsNumeral (c :: cs)
  | minus {c : Char} (hc : c.isDigit) (cs : List Char) : BeginsNumeral ('-' :: c :: cs)

/-- A text of characters of numerals with a digit behind its sign begins so: its sign is no plus. -/
theorem BeginsNumeral.of_withoutSign {s : List Char} (hs : ∀ c ∈ s, isNumeralCharacter c)
    (hfirst : startsDigit (withoutSign s)) : BeginsNumeral s := by
  unfold withoutSign at hfirst
  split at hfirst
  · rename_i cs
    cases cs with
    | nil => simp [startsDigit] at hfirst
    | cons c cs => exact .minus (by simpa [startsDigit] using hfirst) cs
  · exact absurd (hs '+' List.mem_cons_self) (by decide)
  · cases s with
    | nil => simp [startsDigit] at hfirst
    | cons c cs => exact .digit (by simpa [startsDigit] using hfirst) cs

section BeginsNumeral

variable {s : List Char} (h : BeginsNumeral s)
include h

theorem BeginsNumeral.ne_nil : s ≠ [] := by
  cases h with
  | digit => exact List.cons_ne_nil _ _
  | minus => exact List.cons_ne_nil _ _

theorem BeginsNumeral.badFirst : badFirst s = false := by
  cases h with
  | @digit c hc cs =>
    have hlist := not_indicator_of_isNumeralCharacter (isNumeralCharacter_of_isDigit hc)
    have hne : c ≠ '?' ∧ c ≠ ':' ∧ c ≠ '-' := by
      refine ⟨?_, ?_, ?_⟩ <;> (rintro rfl; exact absurd hc (by decide))
    rw [Yaml.badFirst, hlist]
    simp [hne]
  | @minus c hc cs =>
    have hc := isNumeralCharacter_of_isDigit hc
    have hblank : isBlank c = false := by
      simp only [isBlank, Bool.or_eq_false_iff, beq_eq_false_iff_ne]
      exact ⟨ne_of_isNumeralCharacter hc ' ' (by decide),
        ne_of_isNumeralCharacter hc '\t' (by decide)⟩
    have hnext : blankNext (c :: cs) = false := by
      simp [blankNext, isBreak_of_isNumeralCharacter hc, hblank]
    rw [Yaml.badFirst, not_indicator_of_isNumeralCharacter (by decide), hnext]
    rfl

/-- The marks of documents have no digits. -/
theorem BeginsNumeral.beginsWithMark : beginsWithMark s = false := by
  unfold Yaml.beginsWithMark
  split
  · cases h with
    | digit hc => exact absurd hc (by decide)
    | minus hc => exact absurd hc (by decide)
  · cases h with
    | digit hc => exact absurd hc (by decide)
  · rfl

end BeginsNumeral

/-- Behind at most a minus, a text of digits, points, letters and minuses is plain if it begins with
a digit. -/
theorem PlainText.of_numeral {s : List Char} (hs : ∀ c ∈ s, isNumeralCharacter c)
    (hfirst : startsDigit (withoutSign s)) : PlainText s := by
  have hbegin := BeginsNumeral.of_withoutSign hs hfirst
  have hspace : ∀ c ∈ s, c ≠ ' ' := fun c hc => ne_of_isNumeralCharacter (hs c hc) ' ' (by decide)
  exact {
    ne_nil := hbegin.ne_nil
    printable := fun c hc => isPrintable_of_isNumeralCharacter (hs c hc)
    inline := fun c hc => isBreak_of_isNumeralCharacter (hs c hc)
    head := fun h => hspace ' ' (List.mem_of_mem_head? h) rfl
    last := fun h => hspace ' ' (List.mem_of_getLast? h) rfl
    first := hbegin.badFirst
    later := badLater_of_numeral hs ' '
    mark := hbegin.beginsWithMark }

/-! ## The text of a number -/

theorem isNumeralCharacter_integerText {n : Int} {c : Char} (h : c ∈ integerText n) :
    isNumeralCharacter c := by
  rw [integerText] at h
  split at h
  · rcases List.mem_cons.mp h with rfl | h
    · decide
    · exact isNumeralCharacter_of_isDigit (isDigit_decimalDigits h)
  · exact isNumeralCharacter_of_isDigit (isDigit_decimalDigits h)

theorem withoutSign_of_startsDigit {s : List Char} (h : startsDigit s) : withoutSign s = s := by
  unfold withoutSign
  split
  · exact absurd h (by simp [startsDigit])
  · exact absurd h (by simp [startsDigit])
  · rfl

theorem startsDigit_decimalDigits (n : Nat) (t : List Char) : startsDigit (decimalDigits n ++ t) := by
  obtain ⟨c, cs, h, hc, -⟩ := exists_decimalDigits n
  simp [startsDigit, h, hc]

theorem startsDigit_integerText (n : Int) : startsDigit (withoutSign (integerText n)) := by
  have := startsDigit_decimalDigits n.natAbs []
  rw [List.append_nil] at this
  rw [integerText]
  split
  · exact this
  · rw [withoutSign_of_startsDigit this]
    exact this

/-! ## The text of a decimal -/

/-- Digits and an exponent that stand for a decimal: they are its own, or they count a natural in
tenths. -/
def StandsFor (d : Decimal) (digits : List Char) (exponent : Int) : Prop :=
  (digitsValue? 10 digits = some d.digits ∧ exponent = d.exponent) ∨
    ∃ n : Nat, d.exponent = n ∧ digitsValue? 10 digits = some (d.digits * Nat.pow 10 (n + 1)) ∧
      exponent = -1

/-- How the text of a decimal looks. -/
inductive DecimalText (d : Decimal) : List Char → Prop where
  | point {whole fraction : List Char} (hwhole : whole ≠ []) (hdigits : ∀ c ∈ whole, c.isDigit)
      (hfraction : ∀ c ∈ fraction, c.isDigit)
      (hvalue : StandsFor d (whole ++ fraction) (-(fraction.length : Int))) :
      DecimalText d (whole ++ '.' :: fraction)
  | scientific {c : Char} {fraction : List Char} {exponent : Int} (hc : c.isDigit)
      (hfraction : ∀ c ∈ fraction, c.isDigit)
      (hvalue : StandsFor d (c :: fraction) (exponent - fraction.length)) :
      DecimalText d
        (c :: ((if fraction = [] then [] else '.' :: fraction) ++ 'e' :: integerText exponent))

theorem isDigit_of_mem_zeros {n : Nat} {c : Char} (h : c ∈ List.replicate n '0') : c.isDigit := by
  rw [List.eq_of_mem_replicate h]
  decide

section Positional

variable {d : Decimal} {digits : List Char} {point : Int} (hdigits : ∀ c ∈ digits, c.isDigit)
  (hvalue : digitsValue? 10 digits = some d.digits) (hpoint : point = d.exponent + digits.length)
include hdigits hvalue hpoint

/-- A point in front of all digits has a zero in front of it, and zeros behind it. -/
theorem positional_small (hsmall : point ≤ 0) :
    DecimalText d (Decimal.positional digits point) := by
  have htext : Decimal.positional digits point =
      ['0'] ++ '.' :: (List.replicate (-point).toNat '0' ++ digits) := by
    simp [Decimal.positional, hsmall]
  rw [htext]
  refine .point (by simp) (List.all_eq_true.mp rfl) ?_ (.inl ⟨?_, ?_⟩)
  · intro c hc
    rcases List.mem_append.mp hc with hc | hc
    · exact isDigit_of_mem_zeros hc
    · exact hdigits c hc
  · have := digitsValue?_zeros (by decide : 1 < 10) ((-point).toNat + 1) digits
    rwa [List.replicate_succ, List.cons_append, hvalue] at this
  · rw [List.length_append, List.length_replicate]
    omega

/-- A point among the digits cuts them. -/
theorem positional_among (hsmall : ¬ point ≤ 0) (hlength : point.toNat < digits.length) :
    DecimalText d (Decimal.positional digits point) := by
  have hne : digits.drop point.toNat ≠ [] := by
    rw [Ne, List.drop_eq_nil_iff]
    omega
  have htext : Decimal.positional digits point =
      digits.take point.toNat ++ '.' :: digits.drop point.toNat := by
    rw [Decimal.positional, if_neg hsmall, show point.toNat - digits.length = 0 by omega]
    cases hdrop : digits.drop point.toNat with
    | nil => contradiction
    | cons c cs => simp
  rw [htext]
  refine .point ?_ (fun c hc => hdigits c (List.mem_of_mem_take hc))
    (fun c hc => hdigits c (List.mem_of_mem_drop hc)) (.inl ⟨?_, ?_⟩)
  · rw [Ne, List.take_eq_nil_iff]
    rintro (h | rfl)
    · omega
    · simp at hlength
  · rwa [List.take_append_drop]
  · rw [List.length_drop]
    omega

/-- A decimal with the point behind all digits is a natural: the digits are followed by zeros, and a zero
behind the point. -/
theorem positional_natural (hne : digits ≠ []) (hsmall : ¬ point ≤ 0)
    (hlength : ¬ point.toNat < digits.length) :
    DecimalText d (Decimal.positional digits point) := by
  obtain ⟨n, hn⟩ : ∃ n : Nat, d.exponent = n := ⟨d.exponent.toNat, by omega⟩
  have htext : Decimal.positional digits point = digits ++ List.replicate n '0' ++ '.' :: ['0'] := by
    rw [Decimal.positional, if_neg hsmall, List.drop_eq_nil_iff.mpr (by omega),
      List.take_of_length_le (by omega), show point.toNat - digits.length = n by omega]
  rw [htext]
  refine .point ?_ ?_ (List.all_eq_true.mp rfl) (.inr ⟨n, hn, ?_, rfl⟩)
  · exact fun hnil => hne (List.append_eq_nil_iff.mp hnil).1
  · intro c hc
    rcases List.mem_append.mp hc with hc | hc
    · exact hdigits c hc
    · exact isDigit_of_mem_zeros hc
  · have := digitsValue?_append_zeros digits (n + 1)
    rwa [List.replicate_succ', ← List.append_assoc, hvalue] at this

end Positional

theorem positional_text (d : Decimal) {point : Int}
    (hpoint : point = d.exponent + (decimalDigits d.digits).length) :
    DecimalText d (Decimal.positional (decimalDigits d.digits) point) := by
  have hdigits : ∀ c ∈ decimalDigits d.digits, c.isDigit := fun c hc => isDigit_decimalDigits hc
  have hvalue : digitsValue? 10 (decimalDigits d.digits) = some d.digits :=
    digitsValue?_toDigits d.digits
  by_cases hsmall : point ≤ 0
  · exact positional_small hdigits hvalue hpoint hsmall
  by_cases hlength : point.toNat < (decimalDigits d.digits).length
  · exact positional_among hdigits hvalue hpoint hsmall hlength
  · exact positional_natural hdigits hvalue hpoint Nat.toDigits_ne_nil hsmall hlength

theorem text_decimal (d : Decimal) : DecimalText d (d.text layout) := by
  simp only [Decimal.text]
  split
  · exact positional_text d (by omega)
  · have hvalue : digitsValue? 10 (decimalDigits d.digits) = some d.digits :=
      digitsValue?_toDigits d.digits
    obtain ⟨c, cs, hdigits, hc, hcs⟩ := exists_decimalDigits d.digits
    rw [hdigits] at hvalue ⊢
    generalize hexponent : d.exponent + ((c :: cs).length : Int) - 1 = exponent
    have htext : Decimal.scientific layout.positiveSign (c :: cs) exponent =
        c :: ((if cs = [] then [] else '.' :: cs) ++ 'e' :: integerText exponent) := by
      cases cs <;> simp [Decimal.scientific, layout]
    rw [htext]
    refine .scientific hc hcs (.inl ⟨hvalue, ?_⟩)
    rw [List.length_cons] at hexponent
    omega

section DecimalText

variable {d : Decimal} {s : List Char} (h : DecimalText d s)
include h

theorem DecimalText.startsDigit : startsDigit s := by
  cases h with
  | @point whole _ hwhole hdigits =>
    cases whole with
    | nil => contradiction
    | cons c cs => simpa [Yaml.startsDigit] using hdigits c List.mem_cons_self
  | scientific hc => simpa [Yaml.startsDigit] using hc

/-- The text of a decimal has no foreign characters. -/
theorem DecimalText.isNumeralCharacter {c : Char} (hc : c ∈ s) : isNumeralCharacter c := by
  have hpoint : Yaml.isNumeralCharacter '.' := by decide
  have he : Yaml.isNumeralCharacter 'e' := by decide
  cases h with
  | point hwhole hdigits hfraction =>
    rcases List.mem_append.mp hc with hc | hc
    · exact isNumeralCharacter_of_isDigit (hdigits c hc)
    rcases List.mem_cons.mp hc with rfl | hc
    · exact hpoint
    · exact isNumeralCharacter_of_isDigit (hfraction c hc)
  | scientific hdigit hfraction =>
    rcases List.mem_cons.mp hc with rfl | hc
    · exact isNumeralCharacter_of_isDigit hdigit
    rcases List.mem_append.mp hc with hc | hc
    · split at hc
      · simp at hc
      rcases List.mem_cons.mp hc with rfl | hc
      · exact hpoint
      · exact isNumeralCharacter_of_isDigit (hfraction c hc)
    rcases List.mem_cons.mp hc with rfl | hc
    · exact he
    · exact isNumeralCharacter_integerText hc

/-- It is no integer: it has a point or an exponent. -/
theorem DecimalText.exists_mark : ∃ c ∈ s, c = '.' ∨ c = 'e' := by
  cases h with
  | point => exact ⟨'.', by simp, .inl rfl⟩
  | scientific => exact ⟨'e', by simp, .inr rfl⟩

end DecimalText

/-- The text of a number is plain. -/
theorem plainText_numberChars (n : Number) : PlainText (numberChars n) := by
  cases n with
  | integer n _ _ =>
    exact .of_numeral (fun c hc => isNumeralCharacter_integerText hc) (startsDigit_integerText n)
  | real x =>
    have htext := text_decimal x.shortest
    have hfirst := htext.startsDigit
    rw [numberChars, Binary64.text]
    refine .of_numeral ?_ ?_
    · intro c hc
      rcases List.mem_append.mp hc with hc | hc
      · split at hc
        · rw [List.mem_singleton.mp hc]
          decide
        · simp at hc
      · exact htext.isNumeralCharacter hc
    · split
      · exact hfirst
      · rw [List.nil_append, withoutSign_of_startsDigit hfirst]
        exact hfirst

/-! ## Integers are read back -/

theorem sign_of_startsDigit {s : List Char} (h : startsDigit s) : sign s = (false, s) := by
  unfold sign
  split
  · exact absurd h (by simp [startsDigit])
  · exact absurd h (by simp [startsDigit])
  · rfl

theorem natural?_decimalDigits (n : Nat) : natural? 10 (decimalDigits n) = some n := by
  have hne : decimalDigits n ≠ [] := Nat.toDigits_ne_nil
  rw [natural?, if_neg (by simpa using hne)]
  exact digitsValue?_toDigits n

/-- A text without the letters of other bases is read in base ten. -/
theorem magnitude?_of_numeral {s : List Char} (hs : ∀ c ∈ s, isNumeralCharacter c) :
    magnitude? s = natural? 10 s := by
  unfold magnitude?
  split
  · exact absurd (hs 'x' (by simp)) (by decide)
  · exact absurd (hs 'o' (by simp)) (by decide)
  · exact absurd (hs 'b' (by simp)) (by decide)
  · rfl

/-- Only the digits of zero begin with a zero. -/
theorem decimalDigits_head {n : Nat} (hn : n ≠ 0) : (decimalDigits n).head? ≠ some '0' := by
  induction n using Nat.strongRecOn with
  | ind n ih =>
    rw [decimalDigits]
    by_cases hlt : n < 10
    · have hdigit : ∀ d < 10, d ≠ 0 → d.digitChar ≠ '0' := by decide
      rw [Nat.toDigits_of_lt_base hlt]
      simpa using hdigit n hlt hn
    · have hne : Nat.toDigits 10 (n / 10) ≠ [] := Nat.toDigits_ne_nil
      rw [Nat.toDigits_of_base_le (by decide) (by omega), List.head?_append,
        List.head?_eq_some_head hne]
      have := ih (n / 10) (by omega) (by omega)
      rwa [decimalDigits, List.head?_eq_some_head hne] at this

theorem hasNeedlessZero_integerText (n : Int) : hasNeedlessZero (integerText n) = false := by
  have hdigits : withoutSign (integerText n) = decimalDigits n.natAbs := by
    have := startsDigit_decimalDigits n.natAbs []
    rw [List.append_nil] at this
    rw [integerText]
    split
    · rfl
    · exact withoutSign_of_startsDigit this
  rw [hasNeedlessZero, hdigits]
  by_cases hn : n.natAbs = 0
  · rw [hn]
    rfl
  · have hhead := decimalDigits_head hn
    split
    · rename_i heq
      rw [heq] at hhead
      contradiction
    · rfl

/-- The text of an integer is read as it. -/
theorem integer?_integerText {n : Int} (hlo : -9223372036854775808 ≤ n)
    (hhi : n < 18446744073709551616) : integer? (integerText n) = some n := by
  have hmagnitude : magnitude? (decimalDigits n.natAbs) = some n.natAbs :=
    (magnitude?_of_numeral fun c hc => isNumeralCharacter_of_isDigit (isDigit_decimalDigits hc)).trans
      (natural?_decimalDigits n.natAbs)
  have hfirst := startsDigit_decimalDigits n.natAbs []
  rw [List.append_nil] at hfirst
  rw [integer?, hasNeedlessZero_integerText, integerText]
  simp only [Bool.false_eq_true, if_false]
  split
  · simp only [sign, hmagnitude, Option.bind_some, if_true]
    rw [if_pos (by omega)]
    exact congrArg some (by omega)
  · simp only [sign_of_startsDigit hfirst, hmagnitude, Option.bind_some, Bool.false_eq_true, if_false]
    rw [if_pos (by omega)]
    exact congrArg some (by omega)

/-! ## Doubles are read back -/

/-- A text with a point or an exponent is no integer. -/
theorem natural?_eq_none {s : List Char} (h : ∃ c ∈ s, c = '.' ∨ c = 'e') : natural? 10 s = none := by
  obtain ⟨c, hc, hmark⟩ := h
  have hdigit : digitValue? 10 c = none := by
    rcases hmark with rfl | rfl <;> decide
  rw [natural?, digitsValue?_eq_none hc hdigit]
  split <;> rfl

theorem takeWhile_digits {digits : List Char} (hdigits : ∀ c ∈ digits, c.isDigit) {c : Char}
    (hc : c.isDigit = false) (t : List Char) :
    (digits ++ c :: t).takeWhile Char.isDigit = digits ∧
      (digits ++ c :: t).dropWhile Char.isDigit = c :: t := by
  rw [List.takeWhile_append_of_pos hdigits, List.dropWhile_append_of_pos hdigits]
  simp [hc]

theorem takeWhile_all {digits : List Char} (hdigits : ∀ c ∈ digits, c.isDigit) :
    digits.takeWhile Char.isDigit = digits ∧ digits.dropWhile Char.isDigit = [] := by
  rw [← List.append_nil digits, List.takeWhile_append_of_pos hdigits,
    List.dropWhile_append_of_pos hdigits]
  exact ⟨rfl, rfl⟩

theorem exponent?_integerText (n : Int) : exponent? (integerText n) = some n := by
  have hfirst := startsDigit_decimalDigits n.natAbs []
  rw [List.append_nil] at hfirst
  by_cases hn : n < 0
  · simp only [exponent?, integerText, if_pos hn, sign, natural?_decimalDigits, if_true]
    exact congrArg some (show -(n.natAbs : Int) = n by omega)
  · simp only [exponent?, integerText, if_neg hn, sign_of_startsDigit hfirst, natural?_decimalDigits,
      Bool.false_eq_true, if_false]
    exact congrArg some (show (n.natAbs : Int) = n by omega)

/-- The text of a decimal is a numeral for it. -/
theorem DecimalText.numeral {d : Decimal} {s : List Char} (h : DecimalText d s) :
    ∃ digits exponent, numeral? s = some (digits, exponent) ∧ StandsFor d digits exponent := by
  cases h with
  | @point whole fraction hwhole hdigits hfraction hvalue =>
    refine ⟨_, _, ?_, hvalue⟩
    obtain ⟨htake, hdrop⟩ := takeWhile_digits hdigits (c := '.') (by decide) fraction
    have hne : (whole ++ fraction).isEmpty = false := by
      cases whole with
      | nil => contradiction
      | cons => rfl
    simp only [numeral?, htake, hdrop, takeWhile_all hfraction, hne, Bool.false_eq_true, if_false]
  | @scientific c fraction exponent hc hfraction hvalue =>
    refine ⟨_, _, ?_, hvalue⟩
    have hwhole : ∀ d ∈ [c], d.isDigit := by simpa using hc
    by_cases hnil : fraction = []
    · obtain ⟨htake, hdrop⟩ := takeWhile_digits hwhole (c := 'e') (by decide) (integerText exponent)
      rw [List.singleton_append] at htake hdrop
      simp [numeral?, hnil, htake, hdrop, exponent?_integerText]
    · obtain ⟨htake, hdrop⟩ := takeWhile_digits hwhole (c := '.') (by decide)
        (fraction ++ 'e' :: integerText exponent)
      obtain ⟨htake', hdrop'⟩ :=
        takeWhile_digits hfraction (c := 'e') (by decide) (integerText exponent)
      rw [List.singleton_append] at htake hdrop
      simp [numeral?, hnil, htake, hdrop, htake', hdrop', exponent?_integerText]

theorem ofDecimal?_of_standsFor {x : Binary64} {digits : List Char} {exponent : Int}
    (h : StandsFor x.shortest digits exponent) :
    ∃ n, digitsValue? 10 digits = some n ∧ Binary64.ofDecimal? x.negative n exponent = some x := by
  rcases h with ⟨hdigits, rfl⟩ | ⟨n, hn, hdigits, rfl⟩
  · exact ⟨_, hdigits, x.ofDecimal?_shortest⟩
  · exact ⟨_, hdigits, x.ofDecimal?_shortest_tenths hn⟩

theorem sign_text (x : Binary64) : sign (x.text layout) = (x.negative, x.shortest.text layout) := by
  rw [Binary64.text]
  cases x.negative with
  | true => rfl
  | false => exact sign_of_startsDigit (text_decimal x.shortest).startsDigit

/-- The text of a double is read as it. -/
theorem real?_text (x : Binary64) : real? (x.text layout) = some x := by
  obtain ⟨digits, exponent, hnumeral, hvalue⟩ := (text_decimal x.shortest).numeral
  obtain ⟨n, hdigits, hx⟩ := ofDecimal?_of_standsFor hvalue
  simp [real?, sign_text, hnumeral, hdigits, hx]

/-- The text of a double is no integer. -/
theorem integer?_text (x : Binary64) : integer? (x.text layout) = none := by
  have htext := text_decimal x.shortest
  have hmagnitude : magnitude? (x.shortest.text layout) = none :=
    (magnitude?_of_numeral fun _ hc => htext.isNumeralCharacter hc).trans
      (natural?_eq_none htext.exists_mark)
  rw [integer?]
  split
  · rfl
  · simp only [sign_text, hmagnitude, Option.bind_none]

theorem hasNeedlessZero_text (x : Binary64) : hasNeedlessZero (x.text layout) = false := by
  have htext := text_decimal x.shortest
  have hsign : withoutSign (x.text layout) = x.shortest.text layout := by
    rw [Binary64.text]
    cases x.negative with
    | true => rfl
    | false => exact withoutSign_of_startsDigit htext.startsDigit
  obtain ⟨c, hc, hmark⟩ := htext.exists_mark
  rw [hasNeedlessZero, hsign]
  split
  · rename_i first cs heq
    rw [heq] at hc
    have hne : c ≠ '0' ∧ c.isDigit = false := by rcases hmark with rfl | rfl <;> decide
    have hc := (List.mem_cons.mp hc).resolve_left hne.1
    rw [List.all_eq_false]
    exact ⟨c, hc, by simp [hne.2]⟩
  · rfl

/-! ## The meaning of the text of a number -/

/-- A numeral is none of some words if none of them looks like one. -/
theorem not_mem_words {s : List Char} (hs : startsDigit (withoutSign s)) {words : List String}
    (hwords : ∀ w ∈ words, startsDigit (withoutSign w.toList) = false) : String.ofList s ∉ words := by
  intro hmem
  have := hwords _ hmem
  rw [String.toList_ofList, hs] at this
  contradiction

theorem startsDigit_numberChars (n : Number) : startsDigit (withoutSign (numberChars n)) := by
  cases n with
  | integer n _ _ => exact startsDigit_integerText n
  | real x =>
    have hfirst := (text_decimal x.shortest).startsDigit
    rw [numberChars, Binary64.text]
    cases x.negative with
    | true => exact hfirst
    | false =>
      rw [if_neg (by decide), List.nil_append, withoutSign_of_startsDigit hfirst]
      exact hfirst

/-- An unquoted scalar with the text of a number is this number. -/
theorem resolve_numberChars (n : Number) : resolve (String.ofList (numberChars n)) = .number n := by
  have hs := startsDigit_numberChars n
  have hnull : isNull (String.ofList (numberChars n)) = false :=
    decide_eq_false (not_mem_words hs (by decide))
  have htruth : truth? (String.ofList (numberChars n)) = none := by
    rw [truth?, if_neg (not_mem_words hs (by decide)), if_neg (not_mem_words hs (by decide))]
  rw [resolve, hnull, htruth]
  simp only [Bool.false_eq_true, if_false]
  cases n with
  | integer n hlo hhi =>
    rw [whole?, String.toList_ofList, numberChars, integer?_integerText hlo hhi]
    simp [Number.ofInt?, hlo, hhi]
  | real x =>
    rw [whole?, String.toList_ofList, numberChars, integer?_text, hasNeedlessZero_text]
    rw [numberChars] at hs
    simp only [Option.map_none, Bool.false_eq_true, if_false]
    rw [double?, if_neg (not_mem_words hs (by decide)), if_neg (not_mem_words hs (by decide)),
      if_neg (not_mem_words hs (by decide)), String.toList_ofList, real?_text]
    rfl

end BackingServices.Yaml
