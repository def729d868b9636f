import BackingServices.Json.Basic
import BackingServices.Yaml.Character

/-!
# What an unquoted scalar means

A scalar without quotes is null, a truth value, a number or else a text.

* Null is the empty scalar, `~` and three spellings of the word.
* Truth values have three spellings each.
* Integers are decimal, or hexadecimal, octal or binary behind `0x`, `0o`, `0b`,
  with a sign in front.  Digits that begin with a needless zero are no number but
  a text.
* Doubles have a point, an exponent or both and at least one digit before the
  exponent.  A numeral whose value is not finite is a text; there are words for
  the infinities and for the double that is not a number.

Integers of more than 64 bits and up to 128 are known to be integers, although
no value is made of them.
-/

namespace BackingServices.Yaml

/-- The meaning of an unquoted scalar. -/
inductive Scalar where
  /-- The null value. -/
  | null
  /-- A truth value. -/
  | bool (value : Bool)
  /-- A number. -/
  | number (value : Number)
  /-- An infinity. -/
  | infinite (negative : Bool)
  /-- The double that is not a number. -/
  | notANumber
  /-- An integer of more than 64 bits. -/
  | wideInteger (value : Int)
  /-- A text. -/
  | text
deriving DecidableEq

/-! ## Integers -/

/-- The value of a digit in a base. -/
def digitValue? (base : Nat) (c : Char) : Option Nat :=
  let v? :=
    if c.isDigit then some (c.toNat - 48)
    else if 'a' ≤ c ∧ c ≤ 'z' then some (c.toNat - 87)
    else if 'A' ≤ c ∧ c ≤ 'Z' then some (c.toNat - 55)
    else none
  v?.bind fun v => if v < base then some v else none

/-- The value of digits in a base. -/
def digitsValue? (base : Nat) (cs : List Char) : Option Nat :=
  cs.foldl (fun acc c => do return (← acc) * base + (← digitValue? base c)) (some 0)

/-- The value of at least one digit in a base. -/
def natural? (base : Nat) (cs : List Char) : Option Nat :=
  if cs.isEmpty then none else digitsValue? base cs

/-- A text without its sign, if it has one. -/
def withoutSign : List Char → List Char
  | '-' :: cs => cs
  | '+' :: cs => cs
  | cs => cs

/-- Whether a text is a sign or none and digits with a needless zero in front. -/
def hasNeedlessZero (s : List Char) : Bool :=
  match withoutSign s with
  | '0' :: c :: cs => (c :: cs).all Char.isDigit
  | _ => false

/-- Splits the sign of a numeral off; true for a minus. -/
def sign : List Char → Bool × List Char
  | '-' :: cs => (true, cs)
  | '+' :: cs => (false, cs)
  | cs => (false, cs)

/-- The magnitude of an integer without its sign. -/
def magnitude? : List Char → Option Nat
  | '0' :: 'x' :: cs => natural? 16 cs
  | '0' :: 'o' :: cs => natural? 8 cs
  | '0' :: 'b' :: cs => natural? 2 cs
  | cs => natural? 10 cs

/-- The integer that a text is, if it is one of at most 128 bits. -/
def integer? (s : List Char) : Option Int :=
  if hasNeedlessZero s then none
  else
    let (negative, cs) := sign s
    (magnitude? cs).bind fun n =>
      if negative then (if n ≤ 170141183460469231731687303715884105728 then some (-(n : Int)) else none)
      else if n < 340282366920938463463374607431768211456 then some n else none

/-! ## Doubles -/

/-- How YAML lays out a double. -/
def layout : Decimal.Layout := ⟨-5, 15, ""⟩

/-- The value of an exponent behind its letter. -/
def exponent? (s : List Char) : Option Int :=
  let (negative, cs) := sign s
  (natural? 10 cs).map fun n => if negative then -(n : Int) else n

/-- The decimal digits and the exponent of ten of a numeral without sign. -/
def numeral? (s : List Char) : Option (List Char × Int) :=
  let whole := s.takeWhile Char.isDigit
  let rest := s.dropWhile Char.isDigit
  let fraction := match rest with
    | '.' :: cs => cs.takeWhile Char.isDigit
    | _ => []
  let rest := match rest with
    | '.' :: cs => cs.dropWhile Char.isDigit
    | cs => cs
  let digits := whole ++ fraction
  if digits.isEmpty then none
  else
    match rest with
    | [] => some (digits, -(fraction.length : Int))
    | c :: cs =>
      if c = 'e' ∨ c = 'E' then (exponent? cs).map fun e => (digits, e - fraction.length) else none

/-- The double that a text is, if it is a numeral of finite value. -/
def real? (s : List Char) : Option Binary64 := do
  let (negative, cs) := sign s
  let (digits, exponent) ← numeral? cs
  Binary64.ofDecimal? negative (← digitsValue? 10 digits) exponent

/-- The value of a word or a numeral for a double. -/
def double? (s : String) : Option Scalar :=
  if s ∈ [".inf", ".Inf", ".INF", "+.inf", "+.Inf", "+.INF"] then some (.infinite false)
  else if s ∈ ["-.inf", "-.Inf", "-.INF"] then some (.infinite true)
  else if s ∈ [".nan", ".NaN", ".NAN"] then some .notANumber
  else (real? s.toList).map fun x => .number (.real x)

/-- The value of a numeral for an integer. -/
def whole? (s : String) : Option Scalar :=
  (integer? s.toList).map fun n =>
    match Number.ofInt? n with
    | some number => .number number
    | none => .wideInteger n

/-! ## The meaning -/

/-- The spellings of null. -/
def isNull (s : String) : Bool := s ∈ ["", "~", "null", "Null", "NULL"]

/-- The spellings of the truth values. -/
def truth? (s : String) : Option Bool :=
  if s ∈ ["true", "True", "TRUE"] then some true
  else if s ∈ ["false", "False", "FALSE"] then some false
  else none

/-- The meaning of an unquoted scalar. -/
def resolve (s : String) : Scalar :=
  if isNull s then .null
  else
    match truth? s with
    | some b => .bool b
    | none =>
      match whole? s with
      | some scalar => scalar
      | none => if hasNeedlessZero s.toList then .text else (double? s).getD .text

end BackingServices.Yaml
