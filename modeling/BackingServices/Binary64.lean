/-!
# Binary64 numbers

A finite IEEE 754 binary64 number is a sign, a significand below `2 ^ 53` and a
scale.  Its magnitude is `significand · 2 ^ scale` in units of the smallest
positive number, `2 ^ -1074`.  The representation is unique: a positive scale
goes with a significand of full width, at least `2 ^ 52`, so two numbers are the same double
exactly when they are equal as values of this type.  Zero has scale zero, and
the two zeros differ in their sign.

A decimal numeral is read by exact integer arithmetic.  The numeral is a ratio
of two naturals; the scale is the least one at which the quotient fits the
width, and the significand is the quotient rounded to the nearest integer, a
tie going to the even neighbour.  A magnitude that needs a larger scale than
the format has is not a finite number and gives `none`.
-/

namespace BackingServices

/-- A finite binary64 number. -/
structure Binary64 where
  /-- The sign: true below zero, and of the negative zero. -/
  negative : Bool
  /-- The significand. -/
  significand : Nat
  /-- The exponent of the unit, counted from that of the smallest number. -/
  scale : Nat
  /-- The significand has at most 53 bits. -/
  significand_lt : significand < 9007199254740992
  /-- The scale has at most eleven bits and is not that of an infinity. -/
  scale_le : scale ≤ 2045
  /-- Above the smallest scale the significand has all 53 bits. -/
  full_width : scale = 0 ∨ 4503599627370496 ≤ significand
deriving DecidableEq

namespace Binary64

/-- The zero of a sign. -/
def zero (negative : Bool) : Binary64 := ⟨negative, 0, 0, by decide, by decide, .inl rfl⟩

instance : Inhabited Binary64 := ⟨zero false⟩

/-- The magnitude in units of the smallest positive number. -/
def magnitude (x : Binary64) : Nat := x.significand * Nat.pow 2 x.scale

/-! ## Rounding -/

/-- The integer nearest to a quotient, a tie going to the even neighbour. -/
def roundHalfEven (num den : Nat) : Nat :=
  let q := num / den
  let twice := 2 * (num % den)
  if twice < den then q else if den < twice then q + 1 else q + q % 2

/-- The least scale at which a magnitude fits into 53 bits. -/
def scaleOf (magnitude : Nat) : Nat := magnitude.log2 - 52

/-- The number of a sign, a significand of at most `2 ^ 53` and a scale, unless it is too large. -/
def ofParts? (negative : Bool) (significand scale : Nat) : Option Binary64 :=
  if significand < 9007199254740992 then
    if h : significand < 9007199254740992 ∧ scale ≤ 2045 ∧
        (scale = 0 ∨ 4503599627370496 ≤ significand) then
      some ⟨negative, significand, scale, h.1, h.2.1, h.2.2⟩
    else none
  else if h : scale + 1 ≤ 2045 then
    some ⟨negative, 4503599627370496, scale + 1, by decide, h, .inr (by decide)⟩
  else none

/-- The smallest positive number is two to the power of minus this. -/
def unitExponent : Nat := 1074

/-- The number nearest to the ratio of two naturals, a tie going to the even significand. -/
def ofRatio? (negative : Bool) (num den : Nat) : Option Binary64 :=
  let units := num * Nat.pow 2 unitExponent
  let scale := scaleOf (units / den)
  ofParts? negative (roundHalfEven units (den * Nat.pow 2 scale)) scale

/-- The number nearest to `digits · 10 ^ exponent`, or `none` if that is beyond all finite numbers.
Exponents so large or so small that the answer is clear are settled without computing the power. -/
def ofDecimal? (negative : Bool) (digits : Nat) (exponent : Int) : Option Binary64 :=
  if digits = 0 then some (zero negative)
  else if 400 < exponent then none
  else if (digits.log2 : Int) + 1 + 3 * exponent < -1080 then some (zero negative)
  else if 0 ≤ exponent then ofRatio? negative (digits * Nat.pow 10 exponent.toNat) 1
  else ofRatio? negative digits (Nat.pow 10 (-exponent).toNat)

end Binary64

end BackingServices
