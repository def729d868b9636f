import BackingServices.NamespaceName
import BackingServices.Proofs.Text
import Mathlib.Computability.RegularExpressions

/-!
# Labels

The DNS-1123 labels as a grammar: a label begins and ends with a letter in lower case or a
digit, and between the two there may be hyphens as well.  The test of characters is this
grammar (`isLabel_iff`), and a name is accepted if and only if it is a label of at most 63
characters (`validate_ok_iff`, `validate_eq_error`).

All characters of a label are of one byte, so that its size is its length.

The grammar is that of the regular expression `[a-z0-9]([-a-z0-9]*[a-z0-9])?`
(`label_iff_matches`), in terms of which the whole check is stated (`validate_decides`).
-/

namespace BackingServices.NamespaceName

open RegularExpression (char matches'_add matches'_char matches'_epsilon matches'_mul matches'_star star)

/-! ## The grammar -/

/-- The letters in lower case and the digits, of which one begins and one ends a label. -/
def IsEnd (c : Char) : Prop := ('a' ≤ c ∧ c ≤ 'z') ∨ ('0' ≤ c ∧ c ≤ '9')

/-- The DNS-1123 labels. -/
inductive Label : List Char → Prop where
  | single {c : Char} (h : IsEnd c) : Label [c]
  | between {first last : Char} {middle : List Char} (hfirst : IsEnd first)
      (hmiddle : ∀ c ∈ middle, c = '-' ∨ IsEnd c) (hlast : IsEnd last) :
      Label (first :: (middle ++ [last]))

/-! ## Characters -/

theorem isEnd_iff {c : Char} :
    IsEnd c ↔ 97 ≤ c.toNat ∧ c.toNat ≤ 122 ∨ 48 ≤ c.toNat ∧ c.toNat ≤ 57 := Iff.rfl

theorem isLower_iff {c : Char} : c.isLower = true ↔ 97 ≤ c.toNat ∧ c.toNat ≤ 122 :=
  Bool.and_eq_true_iff.trans (and_congr decide_eq_true_iff decide_eq_true_iff)

theorem isLabelChar_iff {c : Char} : isLabelChar c = true ↔ c = '-' ∨ IsEnd c := by
  simp only [isLabelChar, Bool.or_eq_true, beq_iff_eq, isLower_iff, Char.isDigit_iff_toNat, isEnd_iff]
  exact or_comm

/-- An upper-case letter is no character of a label, so that at the ends only `IsEnd` is left. -/
theorem isEnd_of_isAlphanum {c : Char} (h : isLabelChar c = true) (hends : c.isAlphanum = true) :
    IsEnd c := by
  rcases isLabelChar_iff.mp h with rfl | h
  · exact absurd hends (by decide)
  · exact h

theorem isAlphanum_of_isEnd {c : Char} (h : IsEnd c) : c.isAlphanum = true := by
  change ((c.isUpper || c.isLower) || c.isDigit) = true
  rw [Bool.or_eq_true, Bool.or_eq_true, isLower_iff, Char.isDigit_iff_toNat]
  rcases isEnd_iff.mp h with h | h
  · exact .inl (.inr h)
  · exact .inr h

theorem utf8Size_of_isLabelChar {c : Char} (h : isLabelChar c = true) : c.utf8Size = 1 := by
  rw [Char.utf8Size_eq_one_iff]
  have hrange : c.toNat ≤ 127 := by
    rcases isLabelChar_iff.mp h with rfl | h
    · decide
    · have := isEnd_iff.mp h
      omega
  exact hrange

/-! ## Labels -/

theorem Label.isLabelChar {cs : List Char} (h : Label cs) : ∀ c ∈ cs, isLabelChar c = true := by
  intro c hc
  rw [isLabelChar_iff]
  cases h with
  | single h =>
    obtain rfl := List.mem_singleton.mp hc
    exact .inr h
  | between hfirst hmiddle hlast =>
    rcases List.mem_cons.mp hc with rfl | hc
    · exact .inr hfirst
    rcases List.mem_append.mp hc with hc | hc
    · exact hmiddle c hc
    · obtain rfl := List.mem_singleton.mp hc
      exact .inr hlast

/-- The three tests of a text are the grammar. -/
theorem isLabel_iff {cs : List Char} : isLabel cs = true ↔ Label cs := by
  have hlast (first last : Char) (middle : List Char) :
      (first :: (middle ++ [last])).getLast? = some last := by
    rw [← List.cons_append, List.getLast?_concat]
  rw [isLabel, Bool.and_eq_true, Bool.and_eq_true, List.all_eq_true]
  constructor
  · rintro ⟨⟨hall, hhead⟩, htail⟩
    cases cs with
    | nil => contradiction
    | cons first rest =>
      have hfirst : IsEnd first := isEnd_of_isAlphanum (hall first List.mem_cons_self) hhead
      rcases List.eq_nil_or_concat rest with rfl | ⟨middle, last, rfl⟩
      · exact .single hfirst
      · rw [List.concat_eq_append] at hall htail ⊢
        rw [hlast] at htail
        refine .between hfirst (fun c hc => isLabelChar_iff.mp (hall c ?_))
          (isEnd_of_isAlphanum (hall last (by simp)) htail)
        exact List.mem_cons_of_mem _ (List.mem_append_left _ hc)
  · intro h
    refine ⟨⟨h.isLabelChar, ?_⟩, ?_⟩
    · cases h with
      | single h => exact isAlphanum_of_isEnd h
      | between hfirst _ _ => exact isAlphanum_of_isEnd hfirst
    · cases h with
      | single h => exact isAlphanum_of_isEnd h
      | between _ _ hend =>
        rw [hlast]
        exact isAlphanum_of_isEnd hend

theorem Label.utf8ByteSize_eq {name : String} (h : Label name.toList) :
    name.utf8ByteSize = name.length := by
  have hsize := Text.utf8ByteSize_of_single fun c hc => utf8Size_of_isLabelChar (h.isLabelChar c hc)
  rwa [String.ofList_toList, String.length_toList] at hsize

theorem Label.ne_empty {name : String} (h : Label name.toList) : name ≠ "" := by
  rintro rfl
  cases h

/-- A name is accepted if and only if it is a label of at most 63 characters. -/
theorem validate_ok_iff {name : String} :
    validate name = .ok () ↔ Label name.toList ∧ name.length ≤ 63 := by
  rw [validate]
  constructor
  · intro h
    split at h
    · contradiction
    next hlength =>
    split at h
    · next hlabel =>
      have hlabel := isLabel_iff.mp hlabel
      refine ⟨hlabel, ?_⟩
      rw [← hlabel.utf8ByteSize_eq]
      simp only [maxNamespaceLength] at hlength
      omega
    · contradiction
  · rintro ⟨hlabel, hlength⟩
    have hshort : ¬ (name = "" ∨ maxNamespaceLength < name.utf8ByteSize) := by
      rw [hlabel.utf8ByteSize_eq, maxNamespaceLength]
      rintro (hempty | hlong)
      · exact hlabel.ne_empty hempty
      · omega
    rw [if_neg hshort, if_pos (isLabel_iff.mpr hlabel)]

/-- Any other name is refused for its length if it is empty or of more than 63 bytes, and else for its
characters. -/
theorem validate_eq_error {name : String} (h : ¬ (Label name.toList ∧ name.length ≤ 63)) :
    validate name = .error (.request
      (if name = "" ∨ 63 < name.utf8ByteSize then .badLength name else .notLabel name)) := by
  have hrefused : validate name ≠ .ok () := fun hok => h (validate_ok_iff.mp hok)
  rw [validate, maxNamespaceLength] at hrefused ⊢
  by_cases hlength : name = "" ∨ 63 < name.utf8ByteSize
  · rw [if_pos hlength, if_pos hlength]
  · rw [if_neg hlength] at hrefused
    rw [if_neg hlength, if_neg hlength, if_neg fun hlabel => hrefused (if_pos hlabel)]

/-! ## The regular expression -/

/-- The letters in lower case and the digits, one by one. -/
def endChars : List Char := "abcdefghijklmnopqrstuvwxyz0123456789".toList

/-- One of some characters. -/
def oneOf (cs : List Char) : RegularExpression Char := (cs.map char).sum

/-- The expression `[a-z0-9]([-a-z0-9]*[a-z0-9])?`. -/
def labelPattern : RegularExpression Char :=
  oneOf endChars * (1 + star (oneOf ('-' :: endChars)) * oneOf endChars)

theorem mem_endChars {c : Char} : c ∈ endChars ↔ IsEnd c := by
  have hbyte : ∀ n < 128, Char.ofNat n ∈ endChars ↔ 97 ≤ n ∧ n ≤ 122 ∨ 48 ≤ n ∧ n ≤ 57 := by
    decide +kernel
  have hall : endChars.all (·.toNat < 128) = true := by decide
  have hascii (d : Char) (hd : d ∈ endChars) : d.toNat < 128 :=
    decide_eq_true_iff.mp (List.all_eq_true.mp hall d hd)
  rw [isEnd_iff]
  by_cases hsmall : c.toNat < 128
  · rw [← hbyte c.toNat hsmall, Char.ofNat_toNat]
  · exact ⟨fun h => absurd (hascii c h) hsmall, fun h => by omega⟩

theorem mem_oneOf {cs : List Char} {w : List Char} :
    w ∈ (oneOf cs).matches' ↔ ∃ c ∈ cs, w = [c] := by
  induction cs with
  | nil => simp [oneOf, Language.notMem_zero]
  | cons c cs ih =>
    rw [oneOf] at ih
    rw [oneOf, List.map_cons, List.sum_cons, matches'_add, matches'_char, Language.mem_add, ih,
      List.exists_mem_cons_iff]
    rfl

theorem mem_star_oneOf {cs : List Char} {w : List Char} :
    w ∈ (star (oneOf cs)).matches' ↔ ∀ c ∈ w, c ∈ cs := by
  rw [matches'_star, Language.mem_kstar]
  constructor
  · rintro ⟨parts, rfl, hparts⟩ c hc
    obtain ⟨part, hpart, hc⟩ := List.mem_flatten.mp hc
    obtain ⟨d, hd, rfl⟩ := mem_oneOf.mp (hparts part hpart)
    obtain rfl := List.mem_singleton.mp hc
    exact hd
  · intro h
    refine ⟨w.map fun c => [c], (List.flatMap_singleton' w).symm, fun part hpart => ?_⟩
    obtain ⟨c, hc, rfl⟩ := List.mem_map.mp hpart
    exact mem_oneOf.mpr ⟨c, h c hc, rfl⟩

/-- The labels are the texts that match the expression as a whole. -/
theorem label_iff_matches {cs : List Char} : Label cs ↔ cs ∈ labelPattern.matches' := by
  have hone {w : List Char} : w ∈ (oneOf endChars).matches' ↔ ∃ c, IsEnd c ∧ w = [c] := by
    simp only [mem_oneOf, mem_endChars]
  have hmany {w : List Char} : w ∈ (star (oneOf ('-' :: endChars))).matches' ↔
      ∀ c ∈ w, c = '-' ∨ IsEnd c := by
    simp only [mem_star_oneOf, List.mem_cons, mem_endChars]
  rw [labelPattern, matches'_mul, matches'_add, matches'_mul, matches'_epsilon, Language.mem_mul]
  constructor
  · rintro (h | ⟨hfirst, hmiddle, hlast⟩)
    · exact ⟨_, hone.mpr ⟨_, h, rfl⟩, [], .inl rfl, rfl⟩
    · exact ⟨_, hone.mpr ⟨_, hfirst, rfl⟩, _,
        .inr (Language.mem_mul.mpr ⟨_, hmany.mpr hmiddle, _, hone.mpr ⟨_, hlast, rfl⟩, rfl⟩), rfl⟩
  · rintro ⟨_, hword, rest, hrest, rfl⟩
    obtain ⟨first, hfirst, rfl⟩ := hone.mp hword
    rcases hrest with rfl | hrest
    · exact .single hfirst
    · obtain ⟨middle, hmiddle, _, hword, rfl⟩ := Language.mem_mul.mp hrest
      obtain ⟨last, hlast, rfl⟩ := hone.mp hword
      exact .between hfirst (hmany.mp hmiddle) hlast

/-! ## Refusals in words -/

theorem message_badLength (name : String) :
    (ProvisionError.request (.badLength name)).message =
      "Invalid provision request: namespace '" ++ name ++
        "' must be between 1 and 63 characters" := by
  have hbefore : "Invalid provision request" ++ ": " ++ "namespace '" =
      "Invalid provision request: namespace '" := by decide
  have hbehind : "' must be between 1 and " ++ toString 63 ++ " characters" =
      "' must be between 1 and 63 characters" := by decide
  calc
    _ = "Invalid provision request" ++ ": " ++
        ("namespace '" ++ name ++ "' must be between 1 and " ++ toString 63 ++ " characters") := rfl
    _ = "Invalid provision request" ++ ": " ++ "namespace '" ++ name ++
        ("' must be between 1 and " ++ toString 63 ++ " characters") := by
      simp only [String.append_assoc]
    _ = _ := by rw [hbefore, hbehind]

theorem message_notLabel (name : String) :
    (ProvisionError.request (.notLabel name)).message =
      "Invalid provision request: namespace '" ++ name ++ "' is not a valid DNS-1123 label" := by
  have hbefore : "Invalid provision request" ++ ": " ++ "namespace '" =
      "Invalid provision request: namespace '" := by decide
  calc
    _ = "Invalid provision request" ++ ": " ++
        ("namespace '" ++ name ++ "' is not a valid DNS-1123 label") := rfl
    _ = "Invalid provision request" ++ ": " ++ "namespace '" ++ name ++
        "' is not a valid DNS-1123 label" := by
      simp only [String.append_assoc]
    _ = _ := by rw [hbefore]

/-! ## What is accepted -/

/-- A name is accepted if and only if it matches the expression as a whole and has at most 63
characters.  Any other name is refused, with the message on the length if and only if the name is empty
or of more than 63 bytes, and else with the message on the label. -/
theorem validate_decides (name : String) :
    (validate name = .ok () ↔ name.toList ∈ labelPattern.matches' ∧ name.length ≤ 63) ∧
      (∀ e, validate name = .error e ↔
        ¬ (name.toList ∈ labelPattern.matches' ∧ name.length ≤ 63) ∧ e = .request
          (if name = "" ∨ 63 < name.utf8ByteSize then .badLength name else .notLabel name)) ∧
      (ProvisionError.request (.badLength name)).message =
        "Invalid provision request: namespace '" ++ name ++
          "' must be between 1 and 63 characters" ∧
      (ProvisionError.request (.notLabel name)).message =
        "Invalid provision request: namespace '" ++ name ++ "' is not a valid DNS-1123 label" := by
  have haccepted : validate name = .ok () ↔
      name.toList ∈ labelPattern.matches' ∧ name.length ≤ 63 := by
    rw [validate_ok_iff, label_iff_matches]
  refine ⟨haccepted, fun e => ⟨fun h => ?_, fun ⟨hnot, he⟩ => ?_⟩, message_badLength name,
    message_notLabel name⟩
  · have hnot : ¬ (name.toList ∈ labelPattern.matches' ∧ name.length ≤ 63) := by
      intro hmatches
      rw [haccepted.mpr hmatches] at h
      contradiction
    refine ⟨hnot, ?_⟩
    rw [← label_iff_matches] at hnot
    exact Except.error.inj (h.symm.trans (validate_eq_error hnot))
  · rw [← label_iff_matches] at hnot
    rw [validate_eq_error hnot, he]

end BackingServices.NamespaceName
