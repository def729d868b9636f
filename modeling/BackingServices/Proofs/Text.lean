import BackingServices.Text.Utf8

/-!
# Texts in UTF-8

How long a text is in UTF-8, from its characters, and that its bytes are those of its parts one
after the other (`encode_append`) and tell the text (`encode_inj`).  A byte of ASCII is a character by
itself (`exists_split_of_flatMap`).
-/

namespace BackingServices.Text

/-! ## Sizes -/

theorem utf8ByteSize_cons (c : Char) (cs : List Char) :
    (String.ofList (c :: cs)).utf8ByteSize = c.utf8Size + (String.ofList cs).utf8ByteSize := by
  rw [← List.singleton_append, String.ofList_append, String.utf8ByteSize_append,
    ← String.singleton_eq_ofList, String.utf8ByteSize_singleton]

theorem length_le_utf8ByteSize (s : List Char) : s.length ≤ (String.ofList s).utf8ByteSize := by
  induction s with
  | nil => simp
  | cons c cs ih =>
    have := c.utf8Size_pos
    rw [utf8ByteSize_cons, List.length_cons]
    omega

/-- A text of characters of one byte has as many bytes as characters. -/
theorem utf8ByteSize_of_single {s : List Char} (h : ∀ c ∈ s, c.utf8Size = 1) :
    (String.ofList s).utf8ByteSize = s.length := by
  induction s with
  | nil => simp
  | cons c cs ih =>
    rw [utf8ByteSize_cons, List.length_cons, h c List.mem_cons_self,
      ih fun d hd => h d (List.mem_cons_of_mem c hd)]
    omega

/-! ## Bytes -/

/-- Listing the bytes from an index on behind those that were listed before, the last one first. -/
theorem toList_loop (bytes : ByteArray) (i : Nat) (listed : List UInt8) :
    ByteArray.toList.loop bytes i listed = listed.reverse ++ bytes.data.toList.drop i := by
  induction h : bytes.size - i generalizing i listed with
  | zero =>
    rw [ByteArray.toList.loop, if_neg (by omega), List.drop_eq_nil_of_le, List.append_nil]
    rw [Array.length_toList, ByteArray.size_data]
    omega
  | succ n ih =>
    have hi : i < bytes.data.size := by
      rw [ByteArray.size_data]
      omega
    have hbyte : bytes.get! i = bytes.data.toList[i] := getElem!_pos bytes.data i hi
    rw [ByteArray.toList.loop, if_pos (by omega), ih (i + 1) _ (by omega), List.reverse_cons,
      List.append_assoc, List.drop_eq_getElem_cons hi, hbyte, List.singleton_append]

theorem encode_eq (s : String) : encode s = s.toByteArray.data.toList := toList_loop _ 0 []

theorem encode_append (s t : String) : encode (s ++ t) = encode s ++ encode t := by
  rw [encode_eq, encode_eq, encode_eq, String.toByteArray_append, ByteArray.data_append,
    Array.toList_append]

/-- The bytes of a text tell the text. -/
theorem encode_inj {s t : String} : encode s = encode t ↔ s = t := by
  rw [encode_eq, encode_eq, Array.toList_inj, ← String.toByteArray_inj]
  exact ⟨ByteArray.ext, congrArg ByteArray.data⟩

theorem encode_ofList (cs : List Char) :
    encode (String.ofList cs) = cs.flatMap String.utf8EncodeChar := by
  rw [encode_eq, String.toByteArray_ofList, List.utf8Encode, List.toList_data_toByteArray]

/-- The bytes of characters of one byte are their numbers. -/
theorem mem_encode_of_single {s : String} (h : ∀ c ∈ s.toList, c.utf8Size = 1) {b : UInt8}
    (hb : b ∈ encode s) : ∃ c ∈ s.toList, b = c.val.toUInt8 := by
  rw [← String.ofList_toList (s := s), encode_ofList] at hb
  obtain ⟨c, hc, hb⟩ := List.mem_flatMap.mp hb
  rw [String.utf8EncodeChar_eq_singleton (h c hc)] at hb
  exact ⟨c, hc, List.mem_singleton.mp hb⟩

/-! ## Bytes of single characters -/

theorem utf8EncodeChar_of_lt {c : Char} (hc : c.toNat < 0x80) :
    String.utf8EncodeChar c = [UInt8.ofNat c.toNat] := by
  have hle : c.val.toNat ≤ 127 := Nat.le_of_lt_succ hc
  simp only [String.utf8EncodeChar, if_pos hle]
  rfl

/-- The bytes of a character outside ASCII are all outside ASCII. -/
theorem le_of_mem_utf8EncodeChar {c : Char} (hc : 0x80 ≤ c.toNat) {b : UInt8}
    (hb : b ∈ String.utf8EncodeChar c) : 0x80 ≤ b.toNat := by
  have hnot : ¬ c.val.toNat ≤ 127 := by
    change ¬ c.toNat ≤ 127
    omega
  -- the leading byte has at least 192, any other one 128
  have hlarge : ∃ n, b = UInt8.ofNat n ∧ 0x80 ≤ n ∧ n < 0x100 := by
    simp only [String.utf8EncodeChar, if_neg hnot] at hb
    split at hb
    · simp only [List.mem_cons, List.not_mem_nil, or_false] at hb
      rcases hb with rfl | rfl <;> exact ⟨_, rfl, by omega, by omega⟩
    · split at hb
      · simp only [List.mem_cons, List.not_mem_nil, or_false] at hb
        rcases hb with rfl | rfl | rfl <;> exact ⟨_, rfl, by omega, by omega⟩
      · simp only [List.mem_cons, List.not_mem_nil, or_false] at hb
        rcases hb with rfl | rfl | rfl | rfl <;> exact ⟨_, rfl, by omega, by omega⟩
  obtain ⟨n, rfl, hle, hlt⟩ := hlarge
  rwa [UInt8.toNat_ofNat', Nat.mod_eq_of_lt hlt]

/-- A character with a byte of ASCII is that byte. -/
theorem utf8EncodeChar_of_mem {c : Char} {b : UInt8} (hb : b.toNat < 0x80)
    (hmem : b ∈ String.utf8EncodeChar c) :
    c = Char.ofNat b.toNat ∧ String.utf8EncodeChar c = [b] := by
  have hc : c.toNat < 0x80 := Nat.lt_of_not_le fun hle =>
    absurd hb (Nat.not_lt.mpr (le_of_mem_utf8EncodeChar hle hmem))
  rw [utf8EncodeChar_of_lt hc, List.mem_singleton] at hmem
  have hnumber : b.toNat = c.toNat := by
    rw [hmem, UInt8.toNat_ofNat', Nat.mod_eq_of_lt (by omega)]
  exact ⟨by rw [hnumber, Char.ofNat_toNat], by rw [utf8EncodeChar_of_lt hc, hmem]⟩

/-- Where the bytes of some characters have a byte of ASCII, the characters have that one. -/
theorem exists_split_of_flatMap {cs : List Char} {front back : List UInt8} {b : UInt8}
    (hb : b.toNat < 0x80) (h : cs.flatMap String.utf8EncodeChar = front ++ b :: back) :
    ∃ before behind, cs = before ++ Char.ofNat b.toNat :: behind ∧
      before.flatMap String.utf8EncodeChar = front ∧ behind.flatMap String.utf8EncodeChar = back := by
  induction cs generalizing front with
  | nil => simp at h
  | cons c cs ih =>
    rw [List.flatMap_cons] at h
    rcases List.append_eq_append_iff.mp h with ⟨more, rfl, hrest⟩ | ⟨more, hc, hrest⟩
    · obtain ⟨before, behind, rfl, rfl, hback⟩ := ih hrest
      exact ⟨c :: before, behind, rfl, List.flatMap_cons, hback⟩
    · cases more with
      | nil =>
        have hbehind : cs.flatMap String.utf8EncodeChar = [] ++ b :: back := hrest.symm
        obtain ⟨before, behind, rfl, hfront, hback⟩ := ih hbehind
        refine ⟨c :: before, behind, rfl, ?_, hback⟩
        rw [List.flatMap_cons, hfront, hc, List.append_nil, List.append_nil]
      | cons b' more =>
        -- the byte is in this character, which therefore has no other
        simp only [List.cons_append, List.cons.injEq] at hrest
        obtain ⟨rfl, rfl⟩ := hrest
        have hsingle := utf8EncodeChar_of_mem hb (hc ▸ List.mem_append_right front List.mem_cons_self)
        have hlength := congrArg List.length (hc.symm.trans hsingle.2)
        simp only [List.length_append, List.length_cons, List.length_nil] at hlength
        obtain rfl : front = [] := List.eq_nil_of_length_eq_zero (by omega)
        obtain rfl : more = [] := List.eq_nil_of_length_eq_zero (by omega)
        exact ⟨[], cs, by rw [hsingle.1, List.nil_append], rfl, rfl⟩

/-- Characters whose bytes begin with a byte of ASCII begin with that one. -/
theorem exists_cons_of_flatMap {cs : List Char} {back : List UInt8} {b : UInt8} (hb : b.toNat < 0x80)
    (h : cs.flatMap String.utf8EncodeChar = b :: back) :
    ∃ behind, cs = Char.ofNat b.toNat :: behind ∧ behind.flatMap String.utf8EncodeChar = back := by
  have hsplit : cs.flatMap String.utf8EncodeChar = [] ++ b :: back := h
  obtain ⟨before, behind, rfl, hfront, hback⟩ := exists_split_of_flatMap hb hsplit
  cases before with
  | nil => exact ⟨behind, rfl, hback⟩
  | cons c before => exact absurd hfront (by simp)

/-! ## Cutting -/

/-- What does not go on with what is taken does not add to it. -/
theorem takeWhile_append_of_stop {α : Type} {p : α → Bool} {front back : List α}
    (h : back.takeWhile p = []) : (front ++ back).takeWhile p = front.takeWhile p := by
  rw [List.takeWhile_append, h, List.append_nil]
  split
  · rename_i hlength
    exact ((List.takeWhile_prefix p).eq_of_length hlength).symm
  · rfl

end BackingServices.Text
