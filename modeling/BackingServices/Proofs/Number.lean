import BackingServices.Config
import Mathlib.Data.Nat.Digits.Defs

/-!
# Numbers

A number is written in decimal digits, of which there is at least one, with a plus in front or not.
Its value is that of the digits as they stand, however many there are and however many zeros are in
front (`decimal`).  Reading stops at the first character that is no digit and at the first digit
where the value so far exceeds the greatest number, whichever comes first (`readNumber_of`).
-/

namespace BackingServices

/-- The value of decimal digits, of which the last one counts once. -/
def decimal (cs : List Char) : Nat := Nat.ofDigits 10 (cs.reverse.map fun c => c.toNat - 48)

/-- A text is a number: digits, with a plus in front or not. -/
inductive IsNumber (text : String) : Nat → Prop where
  | digits {cs : List Char} (hsign : text.toList = cs ∨ text.toList = '+' :: cs) (hne : cs ≠ [])
      (hdigits : ∀ c ∈ cs, c.isDigit = true) : IsNumber text (decimal cs)

/-! ## Digits -/

theorem decimal_concat (cs : List Char) (c : Char) :
    decimal (cs ++ [c]) = decimal cs * 10 + (c.toNat - 48) := by
  rw [decimal, List.reverse_append, List.reverse_singleton, List.singleton_append, List.map_cons,
    Nat.ofDigits_cons, ← decimal]
  omega

theorem decimal_le_append (front rest : List Char) : decimal front ≤ decimal (front ++ rest) := by
  induction rest generalizing front with
  | nil => rw [List.append_nil]
  | cons c cs ih =>
    have hrest := ih (front ++ [c])
    rw [decimal_concat, List.append_assoc, List.singleton_append] at hrest
    omega

/-- What comes of reading some characters as digits: their value, or the first fault among them. -/
inductive DigitsRead (greatest : Nat) (cs : List Char) : Except NumberFault Nat → Prop where
  | value (hdigits : ∀ c ∈ cs, c.isDigit = true) (hle : decimal cs ≤ greatest) :
      DigitsRead greatest cs (.ok (decimal cs))
  | tooLarge {front rest : List Char} (hcs : cs = front ++ rest)
      (hdigits : ∀ c ∈ front, c.isDigit = true) (hlt : greatest < decimal front) :
      DigitsRead greatest cs (.error .tooLarge)
  | badDigit {front rest : List Char} {c : Char} (hcs : cs = front ++ c :: rest)
      (hdigits : ∀ c ∈ front, c.isDigit = true) (hle : decimal front ≤ greatest)
      (hc : c.isDigit = false) : DigitsRead greatest cs (.error .badDigit)

/-- Behind digits whose value is not too large the rest is read, beginning with that value. -/
theorem readDigits_behind {greatest : Nat} {front : List Char}
    (hdigits : ∀ c ∈ front, c.isDigit = true) (hle : decimal front ≤ greatest) (cs : List Char) :
    DigitsRead greatest (front ++ cs) (readDigits greatest (decimal front) cs) := by
  induction cs generalizing front with
  | nil =>
    rw [readDigits, List.append_nil]
    exact .value hdigits hle
  | cons c cs ih =>
    rw [readDigits]
    cases hc : c.isDigit with
    | false =>
      rw [if_neg Bool.false_ne_true]
      exact .badDigit rfl hdigits hle hc
    | true =>
      have hfront : ∀ d ∈ front ++ [c], d.isDigit = true := by
        intro d hd
        rcases List.mem_append.mp hd with hd | hd
        · exact hdigits d hd
        · exact List.mem_singleton.mp hd ▸ hc
      have hsplit : front ++ c :: cs = (front ++ [c]) ++ cs := by simp
      rw [if_pos rfl, ← decimal_concat, hsplit]
      by_cases hlt : greatest < decimal (front ++ [c])
      · rw [if_pos hlt]
        exact .tooLarge rfl hfront hlt
      · rw [if_neg hlt]
        exact ih hfront (Nat.le_of_not_lt hlt)

theorem readDigits_of (greatest : Nat) (cs : List Char) :
    DigitsRead greatest cs (readDigits greatest 0 cs) :=
  @readDigits_behind greatest [] (fun _ hc => nomatch hc) (Nat.zero_le greatest) cs

/-- Digits whose value is not too large are read as that value. -/
theorem DigitsRead.eq_ok {greatest : Nat} {cs : List Char} {result : Except NumberFault Nat}
    (h : DigitsRead greatest cs result) (hdigits : ∀ c ∈ cs, c.isDigit = true)
    (hle : decimal cs ≤ greatest) : result = .ok (decimal cs) := by
  cases h with
  | value _ _ => rfl
  | @tooLarge front rest hcs _ hlt =>
    have hfront := decimal_le_append front rest
    rw [← hcs] at hfront
    omega
  | badDigit hcs _ _ hc =>
    rw [hdigits _ (hcs ▸ by simp)] at hc
    contradiction

/-! ## Texts -/

/-- What comes of reading a text as a number: its value, or why it is none. -/
inductive NumberRead (greatest : Nat) (text : String) : Except NumberFault Nat → Prop where
  | empty (h : text = "") : NumberRead greatest text (.error .empty)
  | signOnly (h : text = "+") : NumberRead greatest text (.error .badDigit)
  | digits {cs : List Char} {result : Except NumberFault Nat} (hne : cs ≠ [])
      (hsign : text.toList = '+' :: cs ∨ text.toList = cs ∧ cs.head? ≠ some '+')
      (h : DigitsRead greatest cs result) : NumberRead greatest text result

theorem readNumber_of (greatest : Nat) (text : String) :
    NumberRead greatest text (readNumber greatest text) := by
  rw [readNumber]
  split
  next h => exact .empty (String.toList_eq_nil_iff.mp h)
  next h => exact .signOnly (String.toList_inj.mp h)
  next cs hne h =>
    refine .digits ?_ (.inl h) (readDigits_of greatest cs)
    rintro rfl
    exact hne rfl
  next hne hsign hplus =>
    refine .digits hne (.inr ⟨rfl, ?_⟩) (readDigits_of greatest _)
    intro hhead
    obtain ⟨cs, hcs⟩ := List.head?_eq_some_iff.mp hhead
    exact hplus cs hcs

/-- A text of digits is read as these, whether there is a plus in front or not. -/
theorem NumberRead.digitsRead {greatest : Nat} {text : String} {result : Except NumberFault Nat}
    (h : NumberRead greatest text result) {cs : List Char}
    (hsign : text.toList = cs ∨ text.toList = '+' :: cs) (hne : cs ≠ [])
    (hdigits : ∀ c ∈ cs, c.isDigit = true) : DigitsRead greatest cs result := by
  have hplus : ∀ rest : List Char, cs ≠ '+' :: rest := by
    rintro rest rfl
    exact absurd (hdigits '+' List.mem_cons_self) (by decide)
  cases h with
  | empty h =>
    subst h
    rcases hsign with h | h
    · exact absurd h.symm hne
    · contradiction
  | signOnly h =>
    subst h
    rcases hsign with h | h
    · exact absurd h.symm (hplus [])
    · exact absurd (List.cons.inj h).2.symm hne
  | digits _ hread h =>
    rcases hsign with hcs | hcs <;> rcases hread with hcs' | ⟨hcs', hhead⟩ <;> rw [hcs'] at hcs
    · exact absurd hcs.symm (hplus _)
    · exact hcs ▸ h
    · exact (List.cons.inj hcs).2 ▸ h
    · rw [hcs] at hhead
      exact absurd rfl hhead

/-- A text is read if and only if it is a number that is not too large. -/
theorem readNumber_ok_iff {greatest n : Nat} {text : String} :
    readNumber greatest text = .ok n ↔ IsNumber text n ∧ n ≤ greatest := by
  have hread := readNumber_of greatest text
  constructor
  · intro h
    rw [h] at hread
    cases hread with
    | digits hne hsign hcs =>
      cases hcs with
      | value hdigits hle => exact ⟨.digits (hsign.symm.imp And.left id) hne hdigits, hle⟩
  · rintro ⟨⟨hsign, hne, hdigits⟩, hle⟩
    exact (hread.digitsRead hsign hne hdigits).eq_ok hdigits hle

example : readNumber 1024 "+00000000000000000000000000000000000000001024" = .ok 1024 := by decide

end BackingServices
