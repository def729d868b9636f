import BackingServices.Binary64.Shortest

/-!
# Decimals are read back as the numbers they stand for

A decimal in the interval of a number is rounded to this number
(`ofRatio?_of_readsBack`), and the shortest decimal of a number is in its interval
(`readsBack_shortest`).  So the decimal that is printed for a number is read as this
number (`ofDecimal?_shortest`).
-/

namespace BackingServices.Binary64

/-! ## Rounding to the nearest integer -/

/-- An integer is the rounded quotient if it is no further than one half from it, and nearer if it
is odd. -/
theorem roundHalfEven_eq {num den q : Nat} (hlo : 2 * (q * den) ≤ 2 * num + den)
    (hhi : 2 * num ≤ 2 * (q * den) + den)
    (hodd : q % 2 = 1 → 2 * (q * den) < 2 * num + den ∧ 2 * num < 2 * (q * den) + den)
    (hden : 0 < den) : roundHalfEven num den = q := by
  have hnum := Nat.div_add_mod num den
  have hmod := Nat.mod_lt num hden
  rw [Nat.mul_comm] at hnum
  simp only [roundHalfEven]
  generalize num / den = d at *
  generalize num % den = r at *
  have hq : q = d ∨ q = d + 1 := by
    rcases Nat.lt_trichotomy q d with h | h | h
    · have := Nat.mul_le_mul_right den (Nat.succ_le_of_lt h)
      rw [Nat.succ_mul] at this
      omega
    · exact .inl h
    · by_cases heq : q = d + 1
      · exact .inr heq
      · have := Nat.mul_le_mul_right den (show d + 2 ≤ q by omega)
        rw [Nat.add_mul] at this
        omega
  rcases hq with rfl | rfl
  · split
    · rfl
    · split <;> omega
  · have hsucc := Nat.succ_mul d den
    rw [Nat.succ_eq_add_one] at hsucc
    split
    · omega
    · split
      · rfl
      · omega

/-! ## The interval of a number -/

/-- A point that reads back is in the interval, and inside it if the significand is odd. -/
theorem bounds_of_readsBack {x : Binary64} {factor point : Nat} (h : x.readsBack factor point) :
    (x.quarters - x.lowerGap) * factor ≤ point ∧ point ≤ (x.quarters + x.upperGap) * factor ∧
      (x.significand % 2 = 1 → (x.quarters - x.lowerGap) * factor < point ∧
        point < (x.quarters + x.upperGap) * factor) := by
  simp only [readsBack] at h
  split at h
  · obtain ⟨hlo, hhi⟩ := of_decide_eq_true h
    exact ⟨hlo, hhi, by omega⟩
  · obtain ⟨hlo, hhi⟩ := of_decide_eq_true h
    exact ⟨Nat.le_of_lt hlo, Nat.le_of_lt hhi, fun _ => ⟨hlo, hhi⟩⟩

/-- A common factor does not matter. -/
theorem readsBack_mul {x : Binary64} {factor point c : Nat} (h : x.readsBack factor point)
    (hc : 0 < c) : x.readsBack (factor * c) (point * c) := by
  simp only [readsBack, ← Nat.mul_assoc] at h ⊢
  split at h
  · rename_i heven
    obtain ⟨hlo, hhi⟩ := of_decide_eq_true h
    rw [if_pos heven]
    exact decide_eq_true ⟨Nat.mul_le_mul_right c hlo, Nat.mul_le_mul_right c hhi⟩
  · rename_i hodd
    obtain ⟨hlo, hhi⟩ := of_decide_eq_true h
    rw [if_neg hodd]
    exact decide_eq_true ⟨Nat.mul_lt_mul_of_pos_right hlo hc, Nat.mul_lt_mul_of_pos_right hhi hc⟩

theorem lowerGap_pos (x : Binary64) : 0 < x.lowerGap := by
  have hpow : 0 < Nat.pow 2 x.scale := Nat.pow_pos (by decide)
  rw [lowerGap]
  split <;> omega

theorem lowerGap_le (x : Binary64) : x.lowerGap ≤ x.upperGap := by
  rw [lowerGap, upperGap]
  split <;> omega

theorem upperGap_le_quarters {x : Binary64} (hx : x.significand ≠ 0) : 2 * x.upperGap ≤ x.quarters := by
  have := Nat.mul_le_mul_right (Nat.pow 2 x.scale) (Nat.one_le_iff_ne_zero.mpr hx)
  rw [Nat.one_mul] at this
  simp only [upperGap, quarters, magnitude]
  omega

/-- The number itself reads back. -/
theorem readsBack_self {x : Binary64} (hx : x.significand ≠ 0) {factor : Nat} (hfactor : 0 < factor) :
    x.readsBack factor (x.quarters * factor) := by
  have hlower := lowerGap_pos x
  have hle := lowerGap_le x
  have hquarters := upperGap_le_quarters hx
  have hlo : (x.quarters - x.lowerGap) * factor < x.quarters * factor :=
    Nat.mul_lt_mul_of_pos_right (by omega) hfactor
  have hhi : x.quarters * factor < (x.quarters + x.upperGap) * factor :=
    Nat.mul_lt_mul_of_pos_right (by omega) hfactor
  simp only [readsBack]
  split
  · exact decide_eq_true ⟨Nat.le_of_lt hlo, Nat.le_of_lt hhi⟩
  · exact decide_eq_true ⟨hlo, hhi⟩

/-- A magnitude over a denominator that rounds to a number: it is no further than half a unit away,
and at a power of two no further than a quarter below. -/
structure Near (x : Binary64) (units den : Nat) : Prop where
  lower : 2 * (x.significand * (den * Nat.pow 2 x.scale)) ≤ 2 * units + den * Nat.pow 2 x.scale
  upper : 2 * units ≤ 2 * (x.significand * (den * Nat.pow 2 x.scale)) + den * Nat.pow 2 x.scale
  odd : x.significand % 2 = 1 →
    2 * (x.significand * (den * Nat.pow 2 x.scale)) < 2 * units + den * Nat.pow 2 x.scale ∧
      2 * units < 2 * (x.significand * (den * Nat.pow 2 x.scale)) + den * Nat.pow 2 x.scale
  below : x.significand = 4503599627370496 → 0 < x.scale →
    4 * (x.significand * (den * Nat.pow 2 x.scale)) ≤ 4 * units + den * Nat.pow 2 x.scale

theorem near_of_readsBack {x : Binary64} {point units den : Nat} (hpoint : point = 4 * units)
    (h : x.readsBack den point) : x.Near units den := by
  subst hpoint
  obtain ⟨hlo, hhi, hodd⟩ := bounds_of_readsBack h
  have hquarters : x.quarters * den = 4 * (x.significand * (den * Nat.pow 2 x.scale)) := by
    simp only [quarters, magnitude, Nat.mul_assoc]
    rw [Nat.mul_comm den]
  have hupper : x.upperGap * den = 2 * (den * Nat.pow 2 x.scale) := by
    rw [upperGap, Nat.mul_assoc, Nat.mul_comm den]
  have hlower : x.lowerGap * den ≤ 2 * (den * Nat.pow 2 x.scale) :=
    hupper ▸ Nat.mul_le_mul_right den (lowerGap_le x)
  simp only [Nat.sub_mul, Nat.add_mul] at hlo hhi hodd
  refine ⟨by omega, by omega, fun h => ?_, fun hs ht => ?_⟩
  · have := hodd h
    omega
  · have hlower : x.lowerGap * den = den * Nat.pow 2 x.scale := by
      rw [lowerGap, if_pos ⟨hs, ht⟩, Nat.mul_comm]
    omega

/-! ## Rounding to a number -/

theorem scaleOf_eq {magnitude scale : Nat} (hlo : Nat.pow 2 (scale + 52) ≤ magnitude)
    (hhi : magnitude < Nat.pow 2 (scale + 53)) : scaleOf magnitude = scale := by
  have hne : magnitude ≠ 0 := Nat.ne_of_gt (Nat.lt_of_lt_of_le (Nat.pow_pos (by decide)) hlo)
  have hlo := (Nat.le_log2 hne).mpr hlo
  have hhi := (Nat.log2_lt hne).mpr hhi
  rw [scaleOf]
  omega

theorem scaleOf_eq_zero {magnitude : Nat} (h : magnitude < 9007199254740992) :
    scaleOf magnitude = 0 := by
  rw [scaleOf]
  by_cases hne : magnitude = 0
  · simp [hne]
  · have := (Nat.log2_lt hne).mpr (show magnitude < 2 ^ 53 from h)
    omega

theorem ofParts?_self (x : Binary64) : ofParts? x.negative x.significand x.scale = some x := by
  rw [ofParts?, if_pos x.significand_lt, dif_pos ⟨x.significand_lt, x.scale_le, x.full_width⟩]

theorem ofParts?_next {x : Binary64} {scale : Nat} (hs : x.significand = 4503599627370496)
    (hscale : scale + 1 = x.scale) : ofParts? x.negative 9007199254740992 scale = some x := by
  obtain ⟨negative, significand, scale', hlt, hle, hwidth⟩ := x
  subst hs hscale
  rw [ofParts?, if_neg (by decide), dif_pos hle]

theorem pow_add_mul (scale k den : Nat) :
    Nat.pow 2 (scale + k) * den = Nat.pow 2 k * (den * Nat.pow 2 scale) := by
  rw [show Nat.pow 2 (scale + k) = Nat.pow 2 scale * Nat.pow 2 k from Nat.pow_add 2 scale k]
  ac_rfl

/-- A quotient whose scale is known from the numerator. -/
theorem scaleOf_div {units den scale : Nat} (hden : 0 < den)
    (hlo : 4503599627370496 * (den * Nat.pow 2 scale) ≤ units)
    (hhi : units < 9007199254740992 * (den * Nat.pow 2 scale)) : scaleOf (units / den) = scale := by
  refine scaleOf_eq ((Nat.le_div_iff_mul_le hden).mpr ?_) ((Nat.div_lt_iff_lt_mul hden).mpr ?_)
  · rw [pow_add_mul]
    exact hlo
  · rw [pow_add_mul]
    exact hhi

theorem Near.lt {x : Binary64} {units den : Nat} (h : x.Near units den)
    (hwidth : 0 < den * Nat.pow 2 x.scale) :
    units < 9007199254740992 * (den * Nat.pow 2 x.scale) := by
  have hupper := h.upper
  have hs := Nat.mul_le_mul_right (den * Nat.pow 2 x.scale) (Nat.le_pred_of_lt x.significand_lt)
  generalize den * Nat.pow 2 x.scale = width at *
  simp only [Nat.pred_eq_sub_one, Nat.sub_mul] at hs
  omega

/-- A magnitude that is near a number is rounded to it. -/
theorem ofParts?_of_near {x : Binary64} {units den : Nat} (hden : 0 < den) (h : x.Near units den) :
    let scale := scaleOf (units / den)
    ofParts? x.negative (roundHalfEven units (den * Nat.pow 2 scale)) scale = some x := by
  intro scale
  have hwidth : 0 < den * Nat.pow 2 x.scale := Nat.mul_pos hden (Nat.pow_pos (by decide))
  by_cases hbelow : x.scale = 0 ∨ 4503599627370496 * (den * Nat.pow 2 x.scale) ≤ units
  · have hscale : scale = x.scale := by
      have hlt := h.lt hwidth
      rcases hbelow with hzero | hle
      · rw [hzero, show Nat.pow 2 0 = 1 from rfl, Nat.mul_one] at hlt
        exact (scaleOf_eq_zero ((Nat.div_lt_iff_lt_mul hden).mpr hlt)).trans hzero.symm
      · exact scaleOf_div hden hle hlt
    rw [hscale, roundHalfEven_eq h.lower h.upper h.odd hwidth]
    exact ofParts?_self x
  · -- The magnitude is below a power of two, on the finer grid there, and is rounded up to it.
    obtain ⟨hne, hlt⟩ := not_or.mp hbelow
    have hs : x.significand = 4503599627370496 := by
      have hfull := x.full_width.resolve_left hne
      by_cases heq : x.significand = 4503599627370496
      · exact heq
      · have hlower := h.lower
        have := Nat.mul_le_mul_right (den * Nat.pow 2 x.scale)
          (show 4503599627370497 ≤ x.significand by omega)
        generalize den * Nat.pow 2 x.scale = width at *
        omega
    obtain ⟨t, ht⟩ : ∃ t, x.scale = t + 1 := ⟨x.scale - 1, by omega⟩
    have hhalf : den * Nat.pow 2 x.scale = 2 * (den * Nat.pow 2 t) := by
      rw [ht, show Nat.pow 2 (t + 1) = Nat.pow 2 t * 2 from Nat.pow_succ 2 t]
      ac_rfl
    have hnear := h.below hs (by omega)
    rw [hs, hhalf] at hnear
    rw [hhalf] at hlt hwidth
    have hscale : scale = t := scaleOf_div hden (by omega) (by omega)
    rw [hscale, roundHalfEven_eq (q := 9007199254740992) (by omega) (by omega) (by omega) (by omega)]
    exact ofParts?_next hs ht.symm

theorem mul_pow_add_two (num k : Nat) : num * Nat.pow 2 (k + 2) = 4 * (num * Nat.pow 2 k) := by
  rw [show Nat.pow 2 (k + 2) = Nat.pow 2 k * 4 from Nat.pow_add 2 k 2]
  ac_rfl

theorem near_of_ratio {x : Binary64} {num den : Nat}
    (h : x.readsBack den (num * Nat.pow 2 quarterExponent)) :
    x.Near (num * Nat.pow 2 unitExponent) den := by
  rw [quarterExponent] at h
  exact near_of_readsBack (mul_pow_add_two num unitExponent) h

/-- A decimal ratio that reads back as a number is rounded to it. -/
theorem ofRatio?_of_readsBack {x : Binary64} {num den : Nat} (hden : 0 < den)
    (h : x.readsBack den (num * Nat.pow 2 quarterExponent)) : ofRatio? x.negative num den = some x := by
  have hnear := near_of_ratio h
  rw [ofRatio?]
  generalize num * Nat.pow 2 unitExponent = units at hnear ⊢
  exact ofParts?_of_near hden hnear

/-! ## The shortest decimal -/

/-- A hit on a grid reads back. -/
theorem readsBack_of_onGrid {x : Binary64} {k : Int} {j : Nat} (h : x.onGrid? k = some j) :
    x.readsBack (gridStep k).2 (j * (gridStep k).1) := by
  simp only [onGrid?] at h
  split at h
  · rename_i hbelow habove
    have hbelow := (Bool.and_eq_true_iff.mp hbelow).2
    split at h
    · obtain rfl := Option.some.inj h
      exact hbelow
    split at h
    · obtain rfl := Option.some.inj h
      exact habove
    -- On a tie the even one of the two neighbours is taken.
    obtain rfl := Option.some.inj h
    generalize x.quarters * (gridStep k).2 / (gridStep k).1 = j at *
    rcases Nat.mod_two_eq_zero_or_one j with hj | hj
    · rwa [hj, Nat.add_zero]
    · rwa [hj]
  · rename_i hbelow _
    obtain rfl := Option.some.inj h
    exact (Bool.and_eq_true_iff.mp hbelow).2
  · rename_i _ habove
    obtain rfl := Option.some.inj h
    exact habove
  · contradiction

/-- A grid that has the number for a point is hit. -/
theorem onGrid_isSome {x : Binary64} (hx : x.significand ≠ 0) {k : Int} {j : Nat}
    (h : x.quarters * (gridStep k).2 = j * (gridStep k).1) (hstep : 0 < (gridStep k).1)
    (hfactor : 0 < (gridStep k).2) : (x.onGrid? k).isSome := by
  have hj : x.quarters * (gridStep k).2 / (gridStep k).1 = j := by rw [h, Nat.mul_div_cancel j hstep]
  have hself := readsBack_self hx hfactor
  have hpos : 0 < j := by
    have hgap := lowerGap_pos x
    have hle := lowerGap_le x
    have hquarters := upperGap_le_quarters hx
    have hpos : 0 < x.quarters * (gridStep k).2 := Nat.mul_pos (by omega) hfactor
    rw [h] at hpos
    exact Nat.pos_of_mul_pos_right hpos
  simp only [onGrid?, hj]
  rw [h] at hself
  simp only [hself, hpos, decide_true, Bool.and_true]
  cases x.readsBack (gridStep k).2 ((j + 1) * (gridStep k).1) with
  | true =>
    simp only
    split
    · rfl
    · split <;> rfl
  | false => rfl

theorem firstHit_hits {x : Binary64} {n : Nat} {k : Int}
    (h : ∃ i : Nat, i < n ∧ (x.onGrid? (k - i)).isSome) :
    ∃ j l, x.firstHit n k = ⟨j, l⟩ ∧ x.onGrid? l = some j ∧ k - n < l ∧ l ≤ k := by
  induction n generalizing k with
  | zero =>
    obtain ⟨i, hi, -⟩ := h
    contradiction
  | succ n ih =>
    rw [firstHit]
    cases hgrid : x.onGrid? k with
    | some j => exact ⟨j, k, rfl, hgrid, by omega, by omega⟩
    | none =>
      obtain ⟨i, hi, hsome⟩ := h
      have hne : i ≠ 0 := by
        rintro rfl
        simp [hgrid] at hsome
      obtain ⟨j, l, hhit, hl, hlo, hhi⟩ := ih (k := k - 1) ⟨i - 1, by omega, by
        rwa [show k - 1 - ((i - 1 : Nat) : Int) = k - i by omega]⟩
      exact ⟨j, l, hhit, hl, by omega, by omega⟩

theorem gridStep_negative {k : Nat} (hk : k ≠ 0) :
    gridStep (-k) = (Nat.pow 2 quarterExponent, Nat.pow 10 k) := by
  rw [gridStep, if_neg (by omega), Int.neg_neg, Int.toNat_natCast]

theorem gridStep_natural (k : Nat) : gridStep k = (Nat.pow 10 k * Nat.pow 2 quarterExponent, 1) := by
  rw [gridStep, if_pos (by omega), Int.toNat_natCast]

/-- Every number is a point of the grid of the smallest one. -/
theorem onGrid_unit {x : Binary64} (hx : x.significand ≠ 0) {k : Nat} (hk : k ≠ 0)
    (hunit : quarterExponent = k + 2) : (x.onGrid? (-k)).isSome := by
  have hpoint : x.quarters * Nat.pow 10 k = x.magnitude * Nat.pow 5 k * Nat.pow 2 (k + 2) := by
    rw [mul_pow_add_two, quarters, show Nat.pow 10 k = Nat.pow 5 k * Nat.pow 2 k from Nat.mul_pow 5 2 k]
    ac_rfl
  refine onGrid_isSome hx (j := x.magnitude * Nat.pow 5 k) ?_ ?_ ?_ <;>
    rw [gridStep_negative hk, hunit]
  · exact hpoint
  · exact Nat.pow_pos (by decide)
  · exact Nat.pow_pos (by decide)

/-- The shortest decimal of a number reads back as it. -/
theorem readsBack_shortest {x : Binary64} (hx : x.significand ≠ 0) :
    ∃ j k, x.shortest = ⟨j, k⟩ ∧ x.readsBack (gridStep k).2 (j * (gridStep k).1) ∧
      -1075 < k ∧ k ≤ 309 := by
  have hgrid := onGrid_unit hx (k := unitExponent) (by decide) rfl
  obtain ⟨j, k, hhit, hk, hlo, hhi⟩ := firstHit_hits (n := 1384) (k := 309) ⟨1383, by decide, hgrid⟩
  exact ⟨j, k, by rw [shortest, if_neg hx, hhit], readsBack_of_onGrid hk, hlo, hhi⟩

/-! ## Decimals -/

/-- What reads back as a number that is not zero is not zero. -/
theorem pos_of_readsBack {x : Binary64} (hx : x.significand ≠ 0) {factor point : Nat}
    (hfactor : 0 < factor) (h : x.readsBack factor point) : 0 < point := by
  have hgap := lowerGap_pos x
  have hle := lowerGap_le x
  have hquarters := upperGap_le_quarters hx
  have hpos : 0 < (x.quarters - x.lowerGap) * factor := Nat.mul_pos (by omega) hfactor
  exact Nat.lt_of_lt_of_le hpos (bounds_of_readsBack h).1

/-- A decimal that reads back as a number is not so small that it is taken for zero. -/
theorem lt_log2_of_near {x : Binary64} (hx : x.significand ≠ 0) {j n u : Nat}
    (h : x.Near (j * Nat.pow 2 u) (Nat.pow 10 n)) : 3 * n < j.log2 + 1 + u + 1 := by
  have hden : 10 ^ n ≤ 2 * (j * 2 ^ u) := by
    have hlower := h.lower
    have hpow : 0 < Nat.pow 2 x.scale := Nat.pow_pos (by decide)
    have hscale := Nat.le_mul_of_pos_right (Nat.pow 10 n) hpow
    have hsignificand := Nat.le_mul_of_pos_left (Nat.pow 10 n * Nat.pow 2 x.scale)
      (Nat.pos_of_ne_zero hx)
    simp only [Nat.pow_eq] at *
    omega
  have height : 2 ^ (3 * n) ≤ 10 ^ n := by
    rw [Nat.pow_mul]
    exact Nat.pow_le_pow_left (by decide) n
  have hprod : j * 2 ^ u < 2 ^ (j.log2 + 1) * 2 ^ u :=
    Nat.mul_lt_mul_of_pos_right Nat.lt_log2_self (Nat.pow_pos (by decide))
  rw [← Nat.pow_add] at hprod
  refine (Nat.pow_lt_pow_iff_right (by decide : 1 < 2)).mp ?_
  rw [Nat.pow_succ]
  omega

/-- A decimal that reads back as a number is read as it. -/
theorem ofDecimal?_of_readsBack {x : Binary64} (hx : x.significand ≠ 0) {j : Nat} {k : Int}
    (hk : k ≤ 309) (h : x.readsBack (gridStep k).2 (j * (gridStep k).1)) :
    ofDecimal? x.negative j k = some x := by
  rcases Int.lt_or_le k 0 with hneg | hnat
  · obtain ⟨n, rfl⟩ : ∃ n : Nat, k = -n := ⟨k.natAbs, by omega⟩
    rw [gridStep_negative (by omega)] at h
    simp only at h
    have hden : 0 < Nat.pow 10 n := Nat.pow_pos (by decide)
    have hj : j ≠ 0 := Nat.ne_of_gt (Nat.pos_of_mul_pos_right (pos_of_readsBack hx hden h))
    have hlog := lt_log2_of_near hx (near_of_ratio h)
    have hunit : unitExponent = 1074 := rfl
    rw [ofDecimal?, if_neg hj, if_neg (by omega), if_neg (by omega), if_neg (by omega), Int.neg_neg,
      Int.toNat_natCast]
    exact ofRatio?_of_readsBack hden h
  · obtain ⟨n, rfl⟩ : ∃ n : Nat, k = n := ⟨k.natAbs, by omega⟩
    rw [gridStep_natural] at h
    simp only [← Nat.mul_assoc] at h
    have hj : j ≠ 0 := by
      rintro rfl
      have hpos := pos_of_readsBack hx Nat.one_pos h
      rw [Nat.zero_mul, Nat.zero_mul] at hpos
      exact Nat.lt_irrefl 0 hpos
    rw [ofDecimal?, if_neg hj, if_neg (by omega), if_neg (by omega), if_pos hnat, Int.toNat_natCast]
    exact ofRatio?_of_readsBack Nat.one_pos h

/-- So is it with a point and a zero behind it, where it is a natural. -/
theorem ofDecimal?_tenths {x : Binary64} (hx : x.significand ≠ 0) {j k : Nat}
    (h : x.readsBack (gridStep k).2 (j * (gridStep k).1)) :
    ofDecimal? x.negative (j * Nat.pow 10 (k + 1)) (-1) = some x := by
  obtain ⟨q, hq⟩ : ∃ q, quarterExponent = q := ⟨_, rfl⟩
  rw [gridStep_natural, hq] at h
  have hpoint : j * (Nat.pow 10 k * Nat.pow 2 q) * 10 = j * Nat.pow 10 (k + 1) * Nat.pow 2 q := by
    rw [← Nat.mul_assoc, Nat.mul_right_comm, Nat.mul_assoc j]
    rfl
  have hten : x.readsBack 10 (j * Nat.pow 10 (k + 1) * Nat.pow 2 q) :=
    hpoint ▸ readsBack_mul h (show 0 < 10 by decide)
  have hj : j * Nat.pow 10 (k + 1) ≠ 0 := by
    intro hzero
    have hpos := pos_of_readsBack hx (by decide) hten
    rw [hzero, Nat.zero_mul] at hpos
    exact Nat.lt_irrefl 0 hpos
  rw [ofDecimal?, if_neg hj, if_neg (by decide), if_neg (by omega), if_neg (by decide),
    show Nat.pow 10 (-(-1 : Int)).toNat = 10 from rfl]
  rw [← hq] at hten
  exact ofRatio?_of_readsBack (by decide) hten

theorem eq_zero_of_significand {x : Binary64} (hx : x.significand = 0) : x = zero x.negative := by
  obtain ⟨negative, significand, scale, hlt, hle, hwidth⟩ := x
  subst hx
  obtain rfl : scale = 0 := hwidth.resolve_right (by decide)
  rfl

/-- The shortest decimal of a number is read as the number. -/
theorem ofDecimal?_shortest (x : Binary64) :
    ofDecimal? x.negative x.shortest.digits x.shortest.exponent = some x := by
  by_cases hx : x.significand = 0
  · rw [shortest, if_pos hx, eq_zero_of_significand hx]
    rfl
  · obtain ⟨j, k, hshortest, hreads, -, hk⟩ := readsBack_shortest hx
    rw [hshortest]
    exact ofDecimal?_of_readsBack hx hk hreads

/-- So is it in tenths, if it is a natural. -/
theorem ofDecimal?_shortest_tenths (x : Binary64) {k : Nat} (h : x.shortest.exponent = k) :
    ofDecimal? x.negative (x.shortest.digits * Nat.pow 10 (k + 1)) (-1) = some x := by
  by_cases hx : x.significand = 0
  · rw [shortest, if_pos hx, Nat.zero_mul, eq_zero_of_significand hx]
    rfl
  · obtain ⟨j, l, hshortest, hreads, -, -⟩ := readsBack_shortest hx
    rw [hshortest] at h ⊢
    obtain rfl : l = k := h
    exact ofDecimal?_tenths hx hreads

end BackingServices.Binary64
