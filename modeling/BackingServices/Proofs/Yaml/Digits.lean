import BackingServices.Yaml.Scalar

/-!
# Digits are read back

The digits of a natural have its value (`digitsValue?_toDigits`), also when they are
put into upper case or have zeros in front (`digitsValue?_upperHex`).
-/

namespace BackingServices.Yaml

theorem digitsValue?_concat (base : Nat) (cs : List Char) (c : Char) :
    digitsValue? base (cs ++ [c]) =
      (digitsValue? base cs).bind fun n => (digitValue? base c).map fun v => n * base + v := by
  rw [digitsValue?, List.foldl_append]
  cases hcs : digitsValue? base cs <;> cases hc : digitValue? base c <;>
    simp_all [digitsValue?, bind, Option.bind]

@[simp] theorem digitsValue?_nil (base : Nat) : digitsValue? base [] = some 0 := rfl

/-- The digits of a natural have its value, in any spelling of the digits that keeps theirs. -/
theorem digitsValue?_map_toDigits {base : Nat} (hbase : 1 < base) {f : Char → Char}
    (hf : ∀ d < base, digitValue? base (f d.digitChar) = some d) (n : Nat) :
    digitsValue? base ((Nat.toDigits base n).map f) = some n := by
  by_cases h : n < base
  · have := digitsValue?_concat base [] (f n.digitChar)
    simpa [Nat.toDigits_of_lt_base h, hf n h] using this
  · have hlt : n / base < n := Nat.div_lt_self (by omega) hbase
    rw [Nat.toDigits_of_base_le hbase (by omega), List.map_append, List.map_singleton,
      digitsValue?_concat, digitsValue?_map_toDigits hbase hf (n / base),
      hf (n % base) (Nat.mod_lt n (by omega))]
    simp [Nat.mul_comm (n / base) base, Nat.div_add_mod]
termination_by n

theorem digitsValue?_toDigits (n : Nat) : digitsValue? 10 (Nat.toDigits 10 n) = some n := by
  have := digitsValue?_map_toDigits (by decide : 1 < 10) (f := id) (by decide) n
  simpa using this

/-- Zeros in front do not change the value. -/
theorem digitsValue?_zeros {base : Nat} (hbase : 1 < base) (k : Nat) (cs : List Char) :
    digitsValue? base (List.replicate k '0' ++ cs) = digitsValue? base cs := by
  have hzero : digitsValue? base (List.replicate k '0') = some 0 := by
    induction k with
    | zero => rfl
    | succ k ih =>
      rw [List.replicate_succ', digitsValue?_concat, ih]
      have : digitValue? base '0' = some 0 := by
        simp only [digitValue?]
        rw [if_pos (by decide)]
        simp
        omega
      simp [this]
  rw [digitsValue?, List.foldl_append]
  exact congrArg (fun acc => cs.foldl _ acc) hzero

/-- Zeros behind the digits are powers of ten. -/
theorem digitsValue?_append_zeros (cs : List Char) (k : Nat) :
    digitsValue? 10 (cs ++ List.replicate k '0') = (digitsValue? 10 cs).map (· * Nat.pow 10 k) := by
  induction k with
  | zero => simp
  | succ k ih =>
    have hzero : digitValue? 10 '0' = some 0 := by decide
    rw [List.replicate_succ', ← List.append_assoc, digitsValue?_concat, ih, hzero]
    cases digitsValue? 10 cs with
    | none => rfl
    | some n => exact congrArg some (Nat.mul_assoc n (Nat.pow 10 k) 10)

/-- What has a character that is no digit has no value. -/
theorem digitsValue?_eq_none {base : Nat} {cs : List Char} {c : Char} (hc : c ∈ cs)
    (h : digitValue? base c = none) : digitsValue? base cs = none := by
  have habsorb : ∀ t : List Char, t.foldl
      (fun acc c => do return (← acc) * base + (← digitValue? base c)) (none : Option Nat) = none := by
    intro t
    induction t with
    | nil => rfl
    | cons c t ih => exact ih
  obtain ⟨a, b, rfl⟩ := List.append_of_mem hc
  have hfront : digitsValue? base (a ++ [c]) = none := by
    rw [digitsValue?_concat, h]
    cases digitsValue? base a <;> rfl
  rw [List.append_cons, digitsValue?, List.foldl_append]
  rw [digitsValue?] at hfront
  rw [hfront]
  exact habsorb b

/-! ## Upper-case hexadecimal digits -/

theorem length_upperHex {width n : Nat} (h : (Nat.toDigits 16 n).length ≤ width) :
    (upperHex width n).length = width := by
  simp only [upperHex, List.length_append, List.length_replicate, List.length_map]
  omega

theorem digitsValue?_upperHex (width n : Nat) : digitsValue? 16 (upperHex width n) = some n := by
  rw [upperHex, digitsValue?_zeros (by decide), digitsValue?_map_toDigits (by decide) (by decide)]

/-- What occurs in such digits are the sixteen digits. -/
theorem exists_of_mem_upperHex {width n : Nat} {c : Char} (h : c ∈ upperHex width n) :
    ∃ d < 16, c = d.digitChar.toUpper := by
  have hdigits : ∀ n, ∀ c ∈ Nat.toDigits 16 n, ∃ d < 16, c = d.digitChar := by
    intro n
    induction n using Nat.strongRecOn with
    | ind n ih =>
      intro c hc
      by_cases hn : n < 16
      · rw [Nat.toDigits_of_lt_base hn, List.mem_singleton] at hc
        exact ⟨n, hn, hc⟩
      · rw [Nat.toDigits_of_base_le (by decide) (by omega), List.mem_append,
          List.mem_singleton] at hc
        rcases hc with hc | rfl
        · exact ih (n / 16) (by omega) c hc
        · exact ⟨n % 16, Nat.mod_lt n (by decide), rfl⟩
  simp only [upperHex, List.mem_append, List.mem_replicate, List.mem_map] at h
  rcases h with ⟨-, rfl⟩ | ⟨d, hd, rfl⟩
  · exact ⟨0, by decide, rfl⟩
  · obtain ⟨k, hk, rfl⟩ := hdigits n d hd
    exact ⟨k, hk, rfl⟩

end BackingServices.Yaml
