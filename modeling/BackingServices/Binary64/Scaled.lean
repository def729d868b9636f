import BackingServices.Binary64

/-!
# Arithmetic, and numbers in steps

Products and quotients are rounded to the nearest number, a tie going to the even
significand.  They are computed exactly before they are rounded.

A numeral may be read in steps: its digits are rounded to a number, which is then
multiplied or divided by a power of ten that is rounded as well.  `scaled?` does so.
Every step rounds, so that the result may be a neighbour of the number that is nearest
to the numeral.  A power beyond `10 ^ 308` is no number; a division by one goes by
`10 ^ 308` first.
-/

namespace BackingServices.Binary64

/-- The product of two numbers, of which the second is not negative, unless it is too large. -/
def times? (x y : Binary64) : Option Binary64 :=
  ofRatio? x.negative (x.magnitude * y.magnitude) (Nat.pow 2 2148)

/-- The quotient of two numbers, of which the second is positive, unless it is too large. -/
def over? (x y : Binary64) : Option Binary64 := ofRatio? x.negative x.magnitude y.magnitude

/-- The exponent of the greatest power of ten that is a number. -/
def greatestPower : Nat := 308

/-- The number nearest to a power of ten. -/
def powerOfTen (exponent : Nat) : Binary64 :=
  (ofRatio? false (Nat.pow 10 (min exponent greatestPower)) 1).getD (zero false)

/-- A number divided by a power of ten, with fuel for so many divisions. -/
def overPower? : Nat → Binary64 → Nat → Option Binary64
  | 0, x, _ => some x
  | n + 1, x, exponent =>
    if exponent ≤ greatestPower then x.over? (powerOfTen exponent)
    else if x.significand = 0 then some x
    else do overPower? n (← x.over? (powerOfTen greatestPower)) (exponent - greatestPower)

/-- A natural times a power of ten in steps, unless it is too large. -/
def scaled? (negative : Bool) (digits : Nat) (exponent : Int) : Option Binary64 := do
  let x ← ofRatio? negative digits 1
  if exponent < 0 then overPower? (exponent.natAbs / greatestPower + 1) x exponent.natAbs
  else if exponent ≤ Int.ofNat greatestPower then x.times? (powerOfTen exponent.toNat)
  else if digits = 0 then some x
  else none

end BackingServices.Binary64
