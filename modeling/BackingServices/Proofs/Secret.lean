import BackingServices.Secret
import Mathlib.Algebra.Order.Floor.Div
import Mathlib.Data.Fintype.BigOperators
import Mathlib.Data.Vector.Basic
import Mathlib.SetTheory.Cardinal.Finite

/-!
# Secrets are exact and unbiased

Bytes and their digits tell each other: `bytesOf` reads back what `hexText` writes
(`bytesOf_hexText`), and every even number of digits is the text of some bytes
(`hexText_bytesOf`).  So the bytes that give a secret are as many as the ways to go on with its
digits up to the last byte (`completions`), which is one way for an even length and sixteen ways for
an odd one.

Lengths are refused or have a secret of exactly so many digits (`generate_exact`).
-/

namespace BackingServices.Secret

/-! ## Digits -/

/-- The digits of secrets, by value. -/
def alphabet : List Char := "0123456789abcdef".toList

/-- The value of a digit. -/
def digitValue (c : Char) : Nat := alphabet.idxOf c

theorem hexDigit_eq {n : Nat} (h : n < 16) : hexDigit n = n.digitChar := by
  revert n
  decide

theorem hexDigit_mem {n : Nat} (h : n < 16) : hexDigit n ∈ alphabet := by
  revert n
  decide

theorem digitValue_hexDigit {n : Nat} (h : n < 16) : digitValue (hexDigit n) = n := by
  revert n
  decide

theorem hexDigit_digitValue {c : Char} (h : c ∈ alphabet) : hexDigit (digitValue c) = c := by
  have hall : alphabet.all (fun d => hexDigit (digitValue d) = d) = true := by decide
  exact decide_eq_true_iff.mp (List.all_eq_true.mp hall c h)

theorem digitValue_lt {c : Char} (h : c ∈ alphabet) : digitValue c < 16 := List.idxOf_lt_length_iff.mpr h

/-! ## Bytes and their digits -/

theorem hexText_cons (b : UInt8) (bs : List UInt8) :
    hexText (b :: bs) = hexDigit (b.toNat / 16) :: hexDigit (b.toNat % 16) :: hexText bs := rfl

theorem length_hexText (bytes : List UInt8) : (hexText bytes).length = 2 * bytes.length := by
  induction bytes with
  | nil => rfl
  | cons b bs ih =>
    rw [hexText_cons, List.length_cons, List.length_cons, ih, List.length_cons]
    omega

/-- All that is written are digits. -/
theorem mem_alphabet_of_mem_hexText {bytes : List UInt8} {c : Char} (h : c ∈ hexText bytes) :
    c ∈ alphabet := by
  obtain ⟨b, -, hc⟩ := List.mem_flatMap.mp h
  have hbyte := b.toNat_lt
  rcases List.mem_cons.mp hc with rfl | hc
  · exact hexDigit_mem (by omega)
  · obtain rfl := List.mem_singleton.mp hc
    exact hexDigit_mem (by omega)

/-- The bytes that have some digits, two digits each. -/
def bytesOf : List Char → List UInt8
  | high :: low :: rest => .ofNat (16 * digitValue high + digitValue low) :: bytesOf rest
  | _ => []

theorem bytesOf_hexText (bytes : List UInt8) : bytesOf (hexText bytes) = bytes := by
  induction bytes with
  | nil => rfl
  | cons b bs ih =>
    have hbyte := b.toNat_lt
    have hvalue : 16 * (b.toNat / 16) + b.toNat % 16 = b.toNat := by omega
    rw [hexText_cons, bytesOf, ih, digitValue_hexDigit (by omega), digitValue_hexDigit (by omega),
      hvalue, UInt8.ofNat_toNat]

theorem hexText_bytesOf {k : Nat} {digits : List Char} (hlength : digits.length = 2 * k)
    (hdigits : ∀ c ∈ digits, c ∈ alphabet) : hexText (bytesOf digits) = digits := by
  induction k generalizing digits with
  | zero =>
    obtain rfl := List.eq_nil_of_length_eq_zero hlength
    rfl
  | succ k ih =>
    match digits, hlength with
    | high :: low :: rest, hlength =>
      rw [List.length_cons, List.length_cons] at hlength
      have hhigh := hdigits high List.mem_cons_self
      have hlow := hdigits low (List.mem_cons_of_mem _ List.mem_cons_self)
      have hrest : ∀ c ∈ rest, c ∈ alphabet := fun c hc =>
        hdigits c (List.mem_cons_of_mem _ (List.mem_cons_of_mem _ hc))
      have hhighlt := digitValue_lt hhigh
      have hlowlt := digitValue_lt hlow
      have hbyte : (UInt8.ofNat (16 * digitValue high + digitValue low)).toNat =
          16 * digitValue high + digitValue low := UInt8.toNat_ofNat_of_lt' (by rw [UInt8.size]; omega)
      have hfirst : (16 * digitValue high + digitValue low) / 16 = digitValue high := by omega
      have hsecond : (16 * digitValue high + digitValue low) % 16 = digitValue low := by omega
      rw [bytesOf, hexText_cons, hbyte, hfirst, hsecond, hexDigit_digitValue hhigh,
        hexDigit_digitValue hlow, ih (by omega) hrest]

/-! ## How many bytes there are -/

/-- The texts of so many digits. -/
abbrev Digits (k : Nat) : Type := {t : List Char // t.length = k ∧ ∀ c ∈ t, c ∈ alphabet}

/-- There are sixteen times as many texts with each digit. -/
theorem card_digits (k : Nat) : Nat.card (Digits k) = 16 ^ k := by
  let e : Digits k ≃ List.Vector {c : Char // c ∈ alphabet} k := {
    toFun := fun t => ⟨t.1.attachWith (· ∈ alphabet) t.2.2, by rw [List.length_attachWith, t.2.1]⟩
    invFun := fun v => ⟨v.1.unattach, by rw [List.length_unattach, v.2], fun c hc => by
      obtain ⟨hc, -⟩ := List.mem_unattach.mp hc
      exact hc⟩
    left_inv := fun t => Subtype.ext (List.unattach_attachWith ..)
    right_inv := fun v =>
      Subtype.ext (List.map_injective_iff.mpr Subtype.val_injective (List.unattach_attachWith ..)) }
  have hletters : Fintype.card {c : Char // c ∈ alphabet} = 16 := by decide
  rw [Nat.card_congr e, Nat.card_eq_fintype_card, card_vector, hletters]

/-- The bytes that give some digits. -/
abbrev Fibre (n : Nat) (digits : List Char) : Type :=
  {bytes : Vector UInt8 (bytesFor n) // (ofBytes n bytes).digits = digits}

theorem bytesFor_eq (n : Nat) : 2 * bytesFor n = n + n % 2 := by
  rw [bytesFor]
  omega

section
variable {n : Nat} {digits : List Char}

theorem hexText_completed (hlength : digits.length = n) (hdigits : ∀ c ∈ digits, c ∈ alphabet)
    (t : Digits (n % 2)) : hexText (bytesOf (digits ++ t.1)) = digits ++ t.1 := by
  refine hexText_bytesOf (k := bytesFor n) ?_ ?_
  · rw [List.length_append, hlength, t.2.1, bytesFor_eq]
  · exact List.forall_mem_append.mpr ⟨hdigits, t.2.2⟩

theorem bytesOf_begun {bytes : List UInt8} (h : (hexText bytes).take n = digits) :
    bytesOf (digits ++ (hexText bytes).drop n) = bytes := by
  rw [← h, List.take_append_drop, bytesOf_hexText]

/-- The bytes that give some digits are the ways to go on with these up to the last byte. -/
def completions (hlength : digits.length = n) (hdigits : ∀ c ∈ digits, c ∈ alphabet) :
    Fibre n digits ≃ Digits (n % 2) where
  toFun bytes := ⟨(hexText bytes.1.toList).drop n, by
    rw [List.length_drop, length_hexText, Vector.length_toList, bytesFor_eq]
    omega, fun c hc => mem_alphabet_of_mem_hexText (List.mem_of_mem_drop hc)⟩
  invFun t := ⟨⟨(bytesOf (digits ++ t.1)).toArray, by
    have htext := congrArg List.length (hexText_completed hlength hdigits t)
    rw [length_hexText, List.length_append, hlength, t.2.1, ← bytesFor_eq] at htext
    rw [List.size_toArray]
    omega⟩, by
    rw [ofBytes, Vector.toList_mk, hexText_completed hlength hdigits, List.take_left' hlength]⟩
  left_inv bytes := Subtype.ext (Vector.toList_inj.mp (bytesOf_begun bytes.2))
  right_inv t := by
    refine Subtype.ext ?_
    change (hexText (Vector.toList _)).drop n = t.1
    rw [Vector.toList_mk, hexText_completed hlength hdigits, List.drop_left' hlength]

/-- Every text of digits is given by equally many bytes: by one vector of bytes if all digits of the
last byte count, and by sixteen if the last of them does not. -/
theorem card_fibre (hlength : digits.length = n) (hdigits : ∀ c ∈ digits, c ∈ alphabet) :
    Nat.card (Fibre n digits) = if n % 2 = 0 then 1 else 16 := by
  rw [Nat.card_congr (completions hlength hdigits), card_digits]
  rcases Nat.mod_two_eq_zero_or_one n with h | h <;> rw [h] <;> rfl

end

/-! ## Lengths -/

/-- The number of bytes counted in words of 64 bits: half of the length, and one more if a digit is
left over. -/
def wordBytesFor (length : UInt64) : UInt64 :=
  if length % 2 = 0 then length / 2 else length / 2 + 1

/-- No step of this count leaves the 64 bits. -/
theorem toNat_wordBytesFor (length : UInt64) : (wordBytesFor length).toNat = bytesFor length.toNat := by
  have hlength := length.toNat_lt
  have hhalf : (length / 2).toNat = length.toNat / 2 := UInt64.toNat_div length 2
  have hrest : (length % 2).toNat = length.toNat % 2 := UInt64.toNat_mod length 2
  rw [wordBytesFor, bytesFor]
  split
  next hzero =>
    have hzero' := congrArg UInt64.toNat hzero
    rw [hrest] at hzero'
    change _ = 0 at hzero'
    omega
  next hone =>
    have hone' : length.toNat % 2 ≠ 0 := fun h => hone (UInt64.toNat_inj.mp (hrest.trans h))
    rw [UInt64.toNat_add, hhalf]
    change (length.toNat / 2 + 1) % 2 ^ 64 = _
    omega

/-- How the bytes of secrets of a length make these secrets. -/
structure Unbiased (n : Nat) : Prop where
  /-- As many bytes are drawn as have so many digits. -/
  drawn : bytesFor n = n ⌈/⌉ 2
  /-- A secret is what the two digits of each byte begin with. -/
  begins : ∀ bytes : Vector UInt8 (bytesFor n), (ofBytes n bytes).digits <+:
    bytes.toList.flatMap fun b => [(b.toNat / 16).digitChar, (b.toNat % 16).digitChar]
  /-- It has exactly so many of them. -/
  measured : ∀ bytes : Vector UInt8 (bytesFor n), (ofBytes n bytes).length = n
  /-- All of them are digits. -/
  spelled : ∀ bytes : Vector UInt8 (bytesFor n), ∀ c ∈ (ofBytes n bytes).digits, c ∈ alphabet
  /-- Equally many bytes give each text of so many digits: one vector of them, or sixteen. -/
  even : ∀ digits : List Char, digits.length = n → (∀ c ∈ digits, c ∈ alphabet) →
    Nat.card {bytes : Vector UInt8 (bytesFor n) // (ofBytes n bytes).digits = digits} =
      if n % 2 = 0 then 1 else 16

theorem unbiased (n : Nat) : Unbiased n where
  drawn := rfl
  begins bytes := by
    have htext : hexText bytes.toList =
        bytes.toList.flatMap fun b => [(b.toNat / 16).digitChar, (b.toNat % 16).digitChar] := by
      refine List.flatMap_congr fun b _ => ?_
      have hbyte := b.toNat_lt
      rw [byteDigits, hexDigit_eq (by omega), hexDigit_eq (by omega)]
    rw [← htext]
    exact List.take_prefix n _
  measured bytes := by
    have hdrawn := bytesFor_eq n
    rw [Secret.length, ofBytes, List.length_take, length_hexText, Vector.length_toList]
    omega
  spelled bytes c hc := mem_alphabet_of_mem_hexText (List.mem_of_mem_take hc)
  even digits := card_fibre

section Outcomes

variable {length : Nat} {random : RandomSource}

/-- There is no secret if the length is refused, and else if there are no bytes. -/
theorem generate_error_iff {e : ProvisionError} :
    generate length random = .error e ↔
      (length = 0 ∨ maxSecretLength < length) ∧ e = .request (.badSecretLength length) ∨
        ¬ (length = 0 ∨ maxSecretLength < length) ∧
          ∃ reason, random (bytesFor length) = .error reason ∧ e = .randomness reason := by
  constructor
  · intro h
    rw [generate] at h
    split at h
    next hrefused => exact .inl ⟨hrefused, (Except.error.inj h).symm⟩
    next haccepted =>
      split at h
      next reason hreason => exact .inr ⟨haccepted, reason, hreason, (Except.error.inj h).symm⟩
      next => contradiction
  · rintro (⟨hrefused, rfl⟩ | ⟨haccepted, reason, hreason, rfl⟩)
    · exact if_pos hrefused
    · rw [generate, if_neg haccepted, hreason]

/-- Else the bytes make it. -/
theorem generate_ok_iff {s : Secret} :
    generate length random = .ok s ↔
      ¬ (length = 0 ∨ maxSecretLength < length) ∧
        ∃ bytes, random (bytesFor length) = .ok bytes ∧ s = ofBytes length bytes := by
  constructor
  · intro h
    rw [generate] at h
    split at h
    next => contradiction
    next haccepted =>
      split at h
      next => contradiction
      next bytes hbytes => exact ⟨haccepted, bytes, hbytes, (Except.ok.inj h).symm⟩
  · rintro ⟨haccepted, bytes, hbytes, rfl⟩
    rw [generate, if_neg haccepted, hbytes]

end Outcomes

/-- A length of zero or above 1024 is refused, and nothing else is: for any other there is no secret only
if there are no bytes.  The bytes for any other length are counted in 64 bits without a carry, and
make its secrets without a bias. -/
theorem generate_exact (length : UInt64) :
    (∀ random e, generate length.toNat random = .error e ↔
        (length = 0 ∨ 1024 < length) ∧ e = .request (.badSecretLength length.toNat) ∨
          ¬ (length = 0 ∨ 1024 < length) ∧
            ∃ reason, random (bytesFor length.toNat) = .error reason ∧ e = .randomness reason) ∧
      (∀ random s, generate length.toNat random = .ok s ↔
        ¬ (length = 0 ∨ 1024 < length) ∧
          ∃ bytes, random (bytesFor length.toNat) = .ok bytes ∧ s = ofBytes length.toNat bytes) ∧
      (wordBytesFor length).toNat = bytesFor length.toNat ∧ Unbiased length.toNat := by
  have hrange : (length.toNat = 0 ∨ maxSecretLength < length.toNat) ↔
      (length = 0 ∨ 1024 < length) := by
    rw [← UInt64.toNat_inj, UInt64.lt_iff_toNat_lt]
    exact Iff.rfl
  refine ⟨fun random e => ?_, fun random s => ?_, toNat_wordBytesFor length, unbiased length.toNat⟩
  · rw [generate_error_iff, hrange]
  · rw [generate_ok_iff, hrange]

end BackingServices.Secret
