import BackingServices.Binary64

/-!
# The shortest decimal of a number

The decimals that read back as a number form an interval around it: from half
the distance to its lower neighbour to half the distance to its upper one, the
ends included when the significand is even.  The shortest decimal is taken from
the coarsest grid `j · 10 ^ k` that has a point in that interval, and of the
points of that grid in the interval it is the one nearest to the number, a tie
going to the even `j`.

All quantities are counted in quarters of the smallest positive number, and a
grid of negative exponent is cleared of its denominator, so that everything is
a natural.

How a decimal is laid out is the business of the format that prints it.  A
`Layout` holds those decisions: the scientific exponents that are written
positionally and the sign that goes before a positive exponent.
-/

namespace BackingServices

/-- The decimal `digits · 10 ^ exponent`. -/
structure Decimal where
  /-- The digits, read as one natural. -/
  digits : Nat
  /-- The power of ten. -/
  exponent : Int
deriving DecidableEq, Inhabited

namespace Binary64

/-! ## The interval of decimals that read back -/

/-- The number in quarters of the smallest positive number. -/
def quarters (x : Binary64) : Nat := 4 * x.magnitude

/-- Half the distance to the upper neighbour, in quarters. -/
def upperGap (x : Binary64) : Nat := 2 * Nat.pow 2 x.scale

/-- Half the distance to the lower neighbour, in quarters.  At a power of two the lower neighbour
is nearer, except where the scale cannot fall. -/
def lowerGap (x : Binary64) : Nat :=
  if x.significand = 4503599627370496 ∧ 0 < x.scale then Nat.pow 2 x.scale else 2 * Nat.pow 2 x.scale

/-- A quarter of the smallest positive number is two to the power of minus this. -/
def quarterExponent : Nat := unitExponent + 2

/-- The step of the grid of an exponent and the factor that clears its denominator. -/
def gridStep (k : Int) : Nat × Nat :=
  if 0 ≤ k then (Nat.pow 10 k.toNat * Nat.pow 2 quarterExponent, 1)
  else (Nat.pow 2 quarterExponent, Nat.pow 10 (-k).toNat)

/-- Whether a point, in quarters times a factor, reads back as the number. -/
def readsBack (x : Binary64) (factor point : Nat) : Bool :=
  let lo := (x.quarters - x.lowerGap) * factor
  let hi := (x.quarters + x.upperGap) * factor
  if x.significand % 2 = 0 then decide (lo ≤ point ∧ point ≤ hi) else decide (lo < point ∧ point < hi)

/-- Of the two neighbours of the number on the grid of an exponent, the one that reads back and is
nearest, the even one on a tie. -/
def onGrid? (x : Binary64) (k : Int) : Option Nat :=
  let (step, factor) := gridStep k
  let v := x.quarters * factor
  let j := v / step
  let below := decide (0 < j) && x.readsBack factor (j * step)
  let above := x.readsBack factor ((j + 1) * step)
  let nearBelow := v - j * step
  let nearAbove := (j + 1) * step - v
  match below, above with
  | true, true =>
    if nearBelow < nearAbove then some j
    else if nearAbove < nearBelow then some (j + 1)
    else some (j + j % 2)
  | true, false => some j
  | false, true => some (j + 1)
  | false, false => none

/-- The first hit on the grids of falling exponents `k`, `k - 1`, …, for a number of steps. -/
def firstHit (x : Binary64) : Nat → Int → Decimal
  | 0, k => ⟨0, k⟩
  | n + 1, k =>
    match x.onGrid? k with
    | some j => ⟨j, k⟩
    | none => firstHit x n (k - 1)

/-- The shortest decimal that reads back, and of those the nearest; `0` for the zeros.  No double
reaches `10 ^ 309`, and every double is a point of the grid of `10 ^ -1074`. -/
def shortest (x : Binary64) : Decimal :=
  if x.significand = 0 then ⟨0, 0⟩ else x.firstHit 1384 309

end Binary64

/-! ## Layout -/

/-- The decisions of a format that prints decimals. -/
structure Decimal.Layout where
  /-- The least scientific exponent written positionally. -/
  least : Int
  /-- The greatest scientific exponent written positionally. -/
  greatest : Int
  /-- What goes before a positive exponent. -/
  positiveSign : String

/-- The digits of a natural in base ten. -/
def decimalDigits (n : Nat) : List Char := Nat.toDigits 10 n

/-- The text of an integer: a minus before the digits of a negative one. -/
def integerText (n : Int) : List Char :=
  if n < 0 then '-' :: decimalDigits n.natAbs else decimalDigits n.natAbs

/-- Scientific notation: one digit, the other digits behind a point if there are any, and the
exponent. -/
def Decimal.scientific (positiveSign : String) (digits : List Char) (exponent : Int) : List Char :=
  let fraction := match digits.drop 1 with
    | [] => []
    | rest => '.' :: rest
  let sign := if exponent < 0 then [] else positiveSign.toList
  digits.take 1 ++ fraction ++ 'e' :: sign ++ integerText exponent

/-- Positional notation of digits whose point stands after the first `point` of them.  There is
always a digit on either side of the point. -/
def Decimal.positional (digits : List Char) (point : Int) : List Char :=
  if point ≤ 0 then '0' :: '.' :: List.replicate (-point).toNat '0' ++ digits
  else
    let whole := digits.take point.toNat ++ List.replicate (point.toNat - digits.length) '0'
    match digits.drop point.toNat with
    | [] => whole ++ ['.', '0']
    | rest => whole ++ '.' :: rest

/-- The text of a decimal under a layout. -/
def Decimal.text (layout : Decimal.Layout) (d : Decimal) : List Char :=
  let digits := decimalDigits d.digits
  let exponent := d.exponent + digits.length - 1
  if layout.least ≤ exponent ∧ exponent ≤ layout.greatest then Decimal.positional digits (exponent + 1)
  else Decimal.scientific layout.positiveSign digits exponent

/-- The text of a number under a layout. -/
def Binary64.text (layout : Decimal.Layout) (x : Binary64) : List Char :=
  (if x.negative then ['-'] else []) ++ x.shortest.text layout

end BackingServices
