/-!
# Numeric addresses

The numeric forms of a host.

An IPv4 address has one to four numbers with points between them, in decimal, in
octal behind a zero or in hexadecimal behind `0x`.  The last number fills all
bytes that the others leave.  A host whose last label is a number is meant as an
address and must be one.

An IPv6 address has eight pieces of up to four hexadecimal digits with colons
between them, of which two adjacent colons may leave some out, and of which the
last two may be written as four decimal bytes.
-/

namespace BackingServices.Url

/-- Splits a text at every point. -/
def labels (cs : List Char) : List (List Char) := cs.splitOn '.'

/-! ## IPv4 -/

/-- The value of a hexadecimal digit. -/
def hexDigit? (c : Char) : Option Nat :=
  if c.isDigit then some (c.toNat - 48)
  else if 'a' ≤ c ∧ c ≤ 'f' then some (c.toNat - 87)
  else if 'A' ≤ c ∧ c ≤ 'F' then some (c.toNat - 55)
  else none

/-- The value of digits in a base up to sixteen. -/
def number? (base : Nat) (cs : List Char) : Option Nat :=
  cs.foldl (fun acc c => do
    let n ← acc
    let d ← hexDigit? c
    if d < base then some (n * base + d) else none) (some 0)

/-- The number of a part of an IPv4 address. -/
def ipv4Number? : List Char → Option Nat
  | [] => none
  | '0' :: 'x' :: cs => number? 16 cs
  | '0' :: 'X' :: cs => number? 16 cs
  | '0' :: c :: cs => number? 8 (c :: cs)
  | cs => number? 10 cs

/-- The parts of a host, without the empty one behind a point at the end. -/
def hostParts (cs : List Char) : List (List Char) :=
  let parts := labels cs
  if parts.getLast? = some [] then parts.dropLast else parts

/-- Whether the last part of a host is a number. -/
def endsInNumber (cs : List Char) : Bool :=
  match (hostParts cs).getLast? with
  | none => false
  | some last => (!last.isEmpty && last.all Char.isDigit) || (ipv4Number? last).isSome

/-- The address of numbers: each a byte, and the last one filling up. -/
def ipv4OfNumbers? (numbers : List Nat) : Option Nat :=
  match numbers.reverse with
  | [] => none
  | last :: firsts =>
    if 3 < firsts.length then none
    else if Nat.pow 256 (4 - firsts.length) ≤ last then none
    else if firsts.any (255 < ·) then none
    else some (firsts.reverse.zipIdx.foldl (fun sum (n, i) => sum + n * Nat.pow 256 (3 - i)) last)

/-- The IPv4 address of a host. -/
def ipv4? (cs : List Char) : Option Nat := do
  ipv4OfNumbers? (← (hostParts cs).mapM ipv4Number?)

/-! ## IPv6 -/

/-- A decimal byte without needless zeros. -/
def byte? (cs : List Char) : Option Nat :=
  if cs.isEmpty || !cs.all Char.isDigit || (cs.head? == some '0' && 1 < cs.length) then none
  else (number? 10 cs).bind fun n => if n ≤ 255 then some n else none

/-- The two pieces that four decimal bytes make. -/
def embedded? (cs : List Char) : Option (List Nat) :=
  match (labels cs).mapM byte? with
  | some [a, b, c, d] => some [a * 256 + b, c * 256 + d]
  | _ => none

/-- A piece of up to four hexadecimal digits. -/
def piece? (cs : List Char) : Option Nat :=
  if cs.isEmpty || 4 < cs.length then none else number? 16 cs

/-- The pieces of one side of the gap, of which the last may be decimal bytes. -/
def pieces? : List (List Char) → Option (List Nat)
  | [] => some []
  | [last] => if last.contains '.' then embedded? last else (piece? last).map ([·])
  | p :: ps => do return (← piece? p) :: (← pieces? ps)

/-- Splits a text at its first two adjacent colons. -/
def splitGap : List Char → List Char × Option (List Char)
  | ':' :: ':' :: cs => ([], some cs)
  | c :: cs =>
    let (before, after) := splitGap cs
    (c :: before, after)
  | [] => ([], none)

/-- The parts between colons; none of an empty text. -/
def colonParts (cs : List Char) : List (List Char) := if cs.isEmpty then [] else cs.splitOn ':'

/-- The eight pieces of an IPv6 address. -/
def ipv6? (cs : List Char) : Option (List Nat) :=
  match splitGap cs with
  | (all, none) => do
    let pieces ← pieces? (colonParts all)
    if pieces.length = 8 then some pieces else none
  | (before, some after) => do
    let first ← (colonParts before).mapM piece?
    let last ← pieces? (colonParts after)
    if first.length + last.length ≤ 7 then
      some (first ++ List.replicate (8 - first.length - last.length) 0 ++ last)
    else none

end BackingServices.Url
