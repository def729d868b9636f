import BackingServices.Proofs.Text
import BackingServices.Url.Domain

/-!
# Percent signs

A percent sign with two hexadecimal digits behind it stands for a byte.  Everything else stands for
itself, and so bytes change only where there is such an escape (`percentDecode_ne_iff`).  The digits are
in ASCII, so that the escapes of a text are those of its bytes (`percentDecode_encode_ne_iff`).
-/

namespace BackingServices.Url

/-! ## Escapes in bytes -/

theorem length_percentDecode_le (bs : List UInt8) : (percentDecode bs).length ≤ bs.length := by
  fun_induction percentDecode bs with
  | case1 b high low rest byte hbyte ih =>
    simp only [List.length_cons]
    omega
  | case2 b high low rest hbyte ih =>
    simp only [List.length_cons] at ih ⊢
    omega
  | case3 bs hshort => exact Nat.le_refl _

/-- Bytes stand for other ones exactly where a percent sign has two digits behind it. -/
theorem percentDecode_ne_iff {bs : List UInt8} :
    percentDecode bs ≠ bs ↔
      ∃ front high low back, bs = front ++ 0x25 :: high :: low :: back ∧
        (hexByte? high low).isSome := by
  fun_induction percentDecode bs with
  | case1 b high low rest byte hbyte ih =>
    have hb : b = 0x25 := Classical.byContradiction fun hb => by
      rw [if_neg hb] at hbyte
      contradiction
    subst hb
    rw [if_pos rfl] at hbyte
    refine iff_of_true (fun hsame => ?_) ⟨[], high, low, rest, rfl, by rw [hbyte]; rfl⟩
    have hlength := congrArg List.length hsame
    have hle := length_percentDecode_le rest
    simp only [List.length_cons] at hlength
    omega
  | case2 b high low rest hbyte ih =>
    rw [Ne, List.cons.injEq, and_iff_right rfl]
    refine ih.trans ⟨?_, ?_⟩
    · rintro ⟨front, high', low', back, hsplit, hsome⟩
      exact ⟨b :: front, high', low', back, by rw [hsplit, List.cons_append], hsome⟩
    · rintro ⟨front, high', low', back, hsplit, hsome⟩
      cases front with
      | nil =>
        obtain ⟨rfl, rfl, rfl, rfl⟩ : b = 0x25 ∧ high = high' ∧ low = low' ∧ rest = back := by
          simpa using hsplit
        rw [if_pos rfl] at hbyte
        rw [hbyte] at hsome
        contradiction
      | cons b' front =>
        rw [List.cons_append, List.cons.injEq] at hsplit
        exact ⟨front, high', low', back, hsplit.2, hsome⟩
  | case3 bs hshort =>
    refine iff_of_false (fun h => h rfl) ?_
    rintro ⟨front, high, low, back, rfl, -⟩
    rcases front with _ | ⟨b, _ | ⟨b', _ | ⟨b'', front⟩⟩⟩ <;> exact hshort _ _ _ _ rfl

/-- Bytes without a percent sign stand for themselves. -/
theorem percentDecode_of_not_mem {bs : List UInt8} (h : 0x25 ∉ bs) : percentDecode bs = bs := by
  refine Classical.byContradiction fun hne => ?_
  obtain ⟨front, high, low, back, rfl, -⟩ := percentDecode_ne_iff.mp hne
  exact h (List.mem_append_right _ List.mem_cons_self)

/-- A byte at the end that is no digit stays there. -/
theorem getLast?_percentDecode {bs : List UInt8} {b : UInt8}
    (hb : hexDigit? (Char.ofNat b.toNat) = none) (h : bs.getLast? = some b) :
    (percentDecode bs).getLast? = some b := by
  fun_induction percentDecode bs with
  | case1 p high low rest byte hbyte ih =>
    cases rest with
    | nil =>
      obtain rfl : low = b := by simpa using h
      split at hbyte
      · simp [hexByte?, hb] at hbyte
      · contradiction
    | cons next rest =>
      rw [List.getLast?_cons, ih (by simpa using h)]
      rfl
  | case2 p high low rest hbyte ih =>
    rw [List.getLast?_cons_cons] at h
    rw [List.getLast?_cons, ih h]
    rfl
  | case3 bs hshort => exact h

/-! ## Escapes in texts -/

theorem hexByte?_isSome {high low : UInt8} :
    (hexByte? high low).isSome ↔
      (hexDigit? (Char.ofNat high.toNat)).isSome ∧ (hexDigit? (Char.ofNat low.toNat)).isSome := by
  rw [hexByte?]
  cases hexDigit? (Char.ofNat high.toNat) with
  | none => simp
  | some x =>
    cases hexDigit? (Char.ofNat low.toNat) with
    | none => simp
    | some y => simp

/-- The digits are in ASCII. -/
theorem lt_of_hexDigit? {c : Char} (h : (hexDigit? c).isSome) : c.toNat < 0x80 := by
  rw [hexDigit?] at h
  split at h
  · rename_i hdigit
    exact Nat.lt_of_le_of_lt (Char.isDigit_iff_toNat.mp hdigit).2 (by decide : '9'.toNat < 0x80)
  · split at h
    · rename_i hletter
      exact Nat.lt_of_le_of_lt hletter.2 (by decide : 'f'.toNat < 0x80)
    · split at h
      · rename_i hletter
        exact Nat.lt_of_le_of_lt hletter.2 (by decide : 'F'.toNat < 0x80)
      · contradiction

/-- Whether there is a percent sign with two hexadecimal digits behind it. -/
def HasEscape (cs : List Char) : Prop :=
  ∃ front high low back, cs = front ++ '%' :: high :: low :: back ∧
    (hexDigit? high).isSome ∧ (hexDigit? low).isSome

theorem percentDecode_encode_ne_iff {s : String} :
    percentDecode (Text.encode s) ≠ Text.encode s ↔ HasEscape s.toList := by
  rw [percentDecode_ne_iff, ← String.ofList_toList (s := s), Text.encode_ofList, String.toList_ofList]
  constructor
  · rintro ⟨front, high, low, back, hsplit, hsome⟩
    obtain ⟨hhigh, hlow⟩ := hexByte?_isSome.mp hsome
    have hlt {b : UInt8} (h : (hexDigit? (Char.ofNat b.toNat)).isSome) : b.toNat < 0x80 := by
      have hb : b.toNat < 0x100 := b.toNat_lt
      have hvalid : b.toNat.isValidChar := .inl (by omega)
      have hsmall := lt_of_hexDigit? h
      rwa [Char.ofNat, dif_pos hvalid] at hsmall
    obtain ⟨before, digits, hs, -, hdigits⟩ := Text.exists_split_of_flatMap (by decide) hsplit
    obtain ⟨digit, rfl, hdigit⟩ := Text.exists_cons_of_flatMap (hlt hhigh) hdigits
    obtain ⟨behind, rfl, -⟩ := Text.exists_cons_of_flatMap (hlt hlow) hdigit
    exact ⟨before, _, _, behind, hs, hhigh, hlow⟩
  · rintro ⟨front, high, low, back, hsplit, hhigh, hlow⟩
    have hbyte {c : Char} (h : (hexDigit? c).isSome) :
        (hexDigit? (Char.ofNat (UInt8.ofNat c.toNat).toNat)).isSome := by
      have := lt_of_hexDigit? h
      rwa [UInt8.toNat_ofNat', Nat.mod_eq_of_lt (by omega), Char.ofNat_toNat]
    have hsingle {c : Char} (h : (hexDigit? c).isSome) := Text.utf8EncodeChar_of_lt (lt_of_hexDigit? h)
    refine ⟨front.flatMap String.utf8EncodeChar, .ofNat high.toNat, .ofNat low.toNat,
      back.flatMap String.utf8EncodeChar, ?_, hexByte?_isSome.mpr ⟨hbyte hhigh, hbyte hlow⟩⟩
    rw [hsplit, List.flatMap_append, List.flatMap_cons, List.flatMap_cons, List.flatMap_cons,
      hsingle hhigh, hsingle hlow]
    rfl

end BackingServices.Url
