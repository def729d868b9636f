import BackingServices.Proofs.Url.Escapes
import BackingServices.Url

/-!
# Blanks and controls at the end of a host

A host that ends in a blank or a control is no domain name (`domain?_of_trimmed`).  Such a character is
a byte by itself, since it is in ASCII.  It is no part of an escape, stands for itself, and is not put
together with what is in front of it.  Nothing is behind it, so that it is the last character of the
standard form, too, where it is not allowed.
-/

namespace BackingServices

/-! ## Bytes -/

namespace Text

/-- The bytes that fit a character are outside ASCII. -/
theorem Utf8.fitting_le {need : Nat} {lo hi : UInt8} (hlo : 0x80 ≤ lo) {bs : List UInt8} :
    ∀ b ∈ bs.take (fitting need lo hi bs), 0x80 ≤ b := by
  induction need generalizing lo hi bs with
  | zero => simp [fitting]
  | succ need ih =>
    cases bs with
    | nil => simp [fitting]
    | cons b bs =>
      rw [fitting]
      split
      · rename_i hb
        rw [Nat.add_comm, List.take_succ_cons]
        exact List.forall_mem_cons.mpr ⟨UInt8.le_trans hlo hb.1, ih (by decide)⟩
      · simp

/-- A byte of ASCII leads a character of one byte, and any other byte one whose second byte is outside
ASCII. -/
theorem Utf8.lead?_some {b lo hi : UInt8} {length : Nat} (h : lead? b = some (length, lo, hi)) :
    1 ≤ length ∧ (b < 0x80 → length = 1) ∧ (length = 1 ∨ 0x80 ≤ lo) := by
  rw [lead?] at h
  split at h
  · cases h
    exact ⟨by decide, fun _ => rfl, .inl rfl⟩
  · rename_i hb
    refine ⟨?_, fun hlt => absurd hlt hb, ?_⟩ <;> grind

/-- Behind the first byte of a character there is no byte of ASCII in it, and none at all if the first
one is. -/
theorem Utf8.front_character {b : UInt8} {bs : List UInt8} {length : Nat}
    (h : front b bs = .character length) :
    1 ≤ length ∧ (b < 0x80 → length = 1) ∧ ∀ b' ∈ bs.take (length - 1), 0x80 ≤ b' := by
  rw [front] at h
  cases hlead : lead? b with
  | none =>
    rw [hlead] at h
    contradiction
  | some lead =>
    obtain ⟨need, lo, hi⟩ := lead
    obtain ⟨hpos, hascii, hlo⟩ := lead?_some hlead
    simp only [hlead] at h
    split at h
    · rename_i hfound
      cases h
      refine ⟨hpos, hascii, ?_⟩
      rcases hlo with rfl | hlo
      · simp
      · have hfits : ∀ b' ∈ bs.take (fitting (length - 1) lo hi bs), 0x80 ≤ b' := fitting_le hlo
        rwa [hfound] at hfits
    · split at h <;> contradiction

/-- Well-formed bytes that end in a byte of ASCII have a text that ends in this character. -/
theorem Utf8.getLast?_scan {fuel index : Nat} {bytes : List UInt8} {cs : List Char}
    (hfuel : bytes.length ≤ fuel) (h : scan fuel index bytes = (cs, none)) {b : UInt8}
    (hb : b < 0x80) (hlast : bytes.getLast? = some b) : cs.getLast? = some (Char.ofNat b.toNat) := by
  induction fuel generalizing index bytes cs with
  | zero =>
    rw [List.eq_nil_of_length_eq_zero (Nat.le_zero.mp hfuel)] at hlast
    contradiction
  | succ fuel ih =>
    cases bytes with
    | nil => contradiction
    | cons first bytes =>
      rw [scan] at h
      cases hfront : front first bytes with
      | broken | incomplete => simp [hfront] at h
      | character length =>
        obtain ⟨hpos, hascii, hlater⟩ := front_character hfront
        obtain ⟨length, rfl⟩ := Nat.exists_eq_add_of_le' hpos
        simp only [hfront, List.drop_succ_cons] at h
        obtain ⟨rfl, hfault⟩ := Prod.mk.inj h
        cases bytes with
        | nil =>
          obtain rfl : first = b := by simpa using hlast
          obtain rfl : length = 0 := by simpa using hascii hb
          cases fuel <;> rfl
        | cons second bytes =>
          rw [List.getLast?_cons_cons] at hlast
          have hlonger : ¬ (second :: bytes).length ≤ length := by
            -- the last byte is none of this character's, which are outside ASCII
            intro hle
            have hmem := List.mem_of_getLast? hlast
            rw [← List.take_of_length_le hle] at hmem
            exact absurd (hlater b hmem) (UInt8.not_le.mpr hb)
          have hdrop : ((second :: bytes).drop length).getLast? = some b := by
            rw [List.getLast?_drop, if_neg hlonger, hlast]
          have hlength : ((second :: bytes).drop length).length ≤ fuel := by
            simp only [List.length_cons] at hfuel
            rw [List.length_drop, List.length_cons]
            omega
          rw [List.getLast?_cons, ih hlength (Prod.ext rfl hfault) hdrop]
          rfl

theorem getLast?_of_decode? {bytes : List UInt8} {text : String} (h : decode? bytes = .ok text)
    {b : UInt8} (hb : b < 0x80) (hlast : bytes.getLast? = some b) :
    text.toList.getLast? = some (Char.ofNat b.toNat) := by
  rw [decode?] at h
  split at h
  · rename_i cs hscan
    cases h
    rw [String.toList_ofList]
    exact Utf8.getLast?_scan (Nat.le_refl _) hscan hb hlast
  · contradiction

end Text

/-! ## Composed texts -/

namespace Text

namespace Composition

/-- No blank and no control is put together with a character in front of it. -/
theorem join?_eq_none {a d : Char} (hd : d.toNat ≤ 0x20) : join? a d = none := by
  have hforms : ∀ form ∈ forms, 0x20 < form.1 := by decide
  have hangul : hangul? a d = none := by
    have hvowel : ¬ vowel ≤ d.toNat := Nat.not_le.mpr (Nat.lt_of_le_of_lt hd (by decide))
    have htrailing : ¬ trailing < d.toNat := Nat.not_lt.mpr (Nat.le_trans hd (by decide))
    rw [hangul?, if_neg fun h => hvowel h.2.2.1, if_neg fun h => htrailing h.2.2.2.1]
  rw [join?, hangul, Option.none_or, List.findSome?_eq_none_iff]
  intro form hform
  have := hforms form hform
  exact if_neg (by omega)

theorem getLast?_sorted {d : Char} (hd : markOrder d = 0) {marks cs : List Char}
    (h : cs.getLast? = some d) : (sorted marks cs).getLast? = some d := by
  induction cs generalizing marks with
  | nil => contradiction
  | cons c cs ih =>
    cases cs with
    | nil =>
      obtain rfl : c = d := by simpa using h
      simp [sorted, hd]
    | cons next cs =>
      rw [List.getLast?_cons_cons] at h
      rw [sorted]
      split
      · rw [List.getLast?_append, List.getLast?_cons, ih h]
        rfl
      · exact ih h

/-- A blank or a control at the end is not lost when characters are put together. -/
theorem mem_assemble {d : Char} (hd : d.toNat ≤ 0x20) (horder : markOrder d = 0) {base : Char}
    {marks : List Char} {last? : Option Nat} {cs : List Char} (h : cs.getLast? = some d) :
    d ∈ assemble base marks last? cs := by
  induction cs generalizing base marks last? with
  | nil => contradiction
  | cons c cs ih =>
    cases cs with
    | nil =>
      obtain rfl : c = d := by simpa using h
      simp [assemble, join?_eq_none hd, horder]
    | cons next cs =>
      rw [List.getLast?_cons_cons] at h
      rw [assemble]
      split
      · exact ih h
      · split
        · exact List.mem_append_right _ (ih h)
        · exact ih h

end Composition

theorem markOrder_of_le {d : Char} (hd : d.toNat ≤ 0x20) : markOrder d = 0 :=
  if_pos (Nat.lt_of_le_of_lt hd (by decide))

theorem mem_composed {d : Char} (hd : d.toNat ≤ 0x20) {cs : List Char} (h : cs.getLast? = some d) :
    d ∈ composed cs := by
  obtain ⟨front, rfl⟩ := List.getLast?_eq_some_iff.mp h
  have hparts : Composition.parts Composition.greatestDepth d = [d] :=
    if_pos (Nat.lt_of_le_of_lt hd (by decide))
  have hflat : ((front ++ [d]).flatMap (Composition.parts Composition.greatestDepth)).getLast? =
      some d := by
    rw [List.flatMap_append, List.flatMap_singleton, hparts, List.getLast?_concat]
  have hsorted : (Composition.sorted []
      ((front ++ [d]).flatMap (Composition.parts Composition.greatestDepth))).getLast? = some d :=
    Composition.getLast?_sorted (markOrder_of_le hd) hflat
  rw [composed]
  split
  · rename_i hnil
    rw [hnil] at hsorted
    contradiction
  · rename_i c rest hcons
    rw [hcons] at hsorted
    cases rest with
    | nil =>
      obtain rfl : c = d := by simpa using hsorted
      exact List.mem_cons_self
    | cons next rest =>
      rw [List.getLast?_cons_cons] at hsorted
      exact Composition.mem_assemble hd (markOrder_of_le hd) hsorted

end Text

/-! ## Domain names -/

namespace Url

section

variable {d : Char} (hd : d.toNat ≤ 0x20)

include hd

theorem hexDigit?_of_le : hexDigit? d = none := by
  have hdigit : ¬ d.isDigit = true := fun h => by
    have : '0'.toNat ≤ d.toNat := (Char.isDigit_iff_toNat.mp h).1
    exact absurd (Nat.le_trans this hd) (by decide)
  have hletter (c : Char) (hc : 0x20 < c.toNat) : ¬ c ≤ d := fun h =>
    absurd (Nat.le_trans h hd) (Nat.not_le.mpr hc)
  rw [hexDigit?, if_neg hdigit, if_neg fun h => hletter 'a' (by decide) h.1,
    if_neg fun h => hletter 'A' (by decide) h.1]

theorem Mapping.of_le : of d = .itself := by
  have hupper : ¬ d.isUpper = true := fun h => by
    have hletter : d.val ≥ 'A'.val ∧ d.val ≤ 'Z'.val := of_decide_eq_true h
    have hle : 'A'.toNat ≤ d.toNat := UInt32.le_iff_toNat_le.mp hletter.1
    exact absurd (Nat.le_trans hle hd) (by decide)
  rw [of, if_pos (Nat.lt_of_le_of_lt hd (by decide)), if_neg hupper]

end

/-- A character at the end that stands for itself stays there. -/
theorem Mapping.getLast?_all? {d : Char} (hd : of d = .itself) {cs mapped : List Char}
    (h : all? cs = some mapped) (hlast : cs.getLast? = some d) : mapped.getLast? = some d := by
  induction cs generalizing mapped with
  | nil => contradiction
  | cons c cs ih =>
    rw [all?] at h
    cases hrest : all? cs with
    | none =>
      rw [hrest] at h
      contradiction
    | some rest =>
      simp only [hrest, Option.bind_eq_bind, Option.bind_some] at h
      cases cs with
      | nil =>
        obtain rfl : c = d := by simpa using hlast
        obtain rfl : rest = [] := by simpa [all?] using hrest.symm
        rw [hd] at h
        cases h
        rfl
      | cons next cs =>
        rw [List.getLast?_cons_cons] at hlast
        have hbehind := ih hrest hlast
        split at h
        · cases h
          rw [List.getLast?_cons, hbehind]
          rfl
        · cases h
          exact hbehind
        · cases h
          rw [List.getLast?_append, hbehind]
          rfl
        · contradiction

/-- What ends in a blank or a control is no domain name. -/
theorem domain?_of_trimmed {host : String} {d : Char} (hd : isTrimmed d = true)
    (h : host.toList.getLast? = some d) : domain? host = none := by
  have hle : d.toNat ≤ 0x20 := of_decide_eq_true hd
  have hbyte : (UInt8.ofNat d.toNat).toNat = d.toNat := by
    rw [UInt8.toNat_ofNat', Nat.mod_eq_of_lt (by omega)]
  have hlt : UInt8.ofNat d.toNat < 0x80 := by
    rw [UInt8.lt_iff_toNat_lt, hbyte]
    exact Nat.lt_of_le_of_lt hle (by decide)
  have hchar : Char.ofNat (UInt8.ofNat d.toNat).toNat = d := by rw [hbyte, Char.ofNat_toNat]
  have hbytes : (Text.encode host).getLast? = some (UInt8.ofNat d.toNat) := by
    obtain ⟨front, hfront⟩ := List.getLast?_eq_some_iff.mp h
    rw [← String.ofList_toList (s := host), hfront, Text.encode_ofList, List.flatMap_append,
      List.flatMap_singleton, Text.utf8EncodeChar_of_lt (by omega), List.getLast?_concat]
  have hdecoded := getLast?_percentDecode (by rw [hchar]; exact hexDigit?_of_le hle) hbytes
  rw [domain?]
  split
  · rfl
  · rename_i text htext
    have htextLast := Text.getLast?_of_decode? htext hlt hdecoded
    rw [hchar] at htextLast
    cases hmapped : Mapping.all? text.toList with
    | none => rfl
    | some mapped =>
      have hmem := Text.mem_composed hle (Mapping.getLast?_all? (Mapping.of_le hle) hmapped htextLast)
      have hdelimiter : (Text.composed mapped).any isDelimiter = true :=
        List.any_eq_true.mpr ⟨d, hmem, by simp [isDelimiter, hle]⟩
      have hdomain : isDomain (Text.composed mapped) = false := by rw [isDomain, hdelimiter]; rfl
      simp [hdomain]

end Url

end BackingServices
