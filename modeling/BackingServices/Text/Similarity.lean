/-!
# Similar texts

How similar two texts are is measured by Jaro's measure, a number between zero and one.
Two characters match if they are equal and not further apart than half the length of
the longer text; every character matches at most once, the earliest that is left.  The
measure is the mean of three shares: of the matched characters in the one text, of those
in the other, and of the matched characters that are in order.

The measure is a fraction, so that it is compared exactly.
-/

namespace BackingServices.Text

/-- A fraction. -/
structure Share where
  /-- The numerator. -/
  part : Nat
  /-- The denominator. -/
  whole : Nat
deriving DecidableEq

/-- Whether one fraction is at most another. -/
def Share.le (a b : Share) : Bool := a.part * b.whole ≤ b.part * a.whole

namespace Similarity

/-- How far apart matching characters of texts of two lengths may be. -/
def range (m n : Nat) : Nat := max m n / 2 - 1

/-- The position in a text that the character at a position of another one matches, among those that
are not taken. -/
def matching? (range : Nat) (taken : List Nat) (text : List Char) (c : Char) (i : Nat) : Option Nat :=
  (text.zipIdx.find? fun (d, j) => c = d ∧ i ≤ j + range ∧ j ≤ i + range ∧ j ∉ taken).map Prod.snd

/-- The characters that match from a position on, and the positions that they match. -/
def pairs (range : Nat) (text : List Char) : List Nat → List (Char × Nat) → List (Char × Nat)
  | _, [] => []
  | taken, (c, i) :: rest =>
    match matching? range taken text c i with
    | some j => (c, j) :: pairs range text (j :: taken) rest
    | none => pairs range text taken rest

/-- How many matched characters are out of order, counted in pairs. -/
def outOfOrder (text : List Char) (matched : List (Char × Nat)) : Nat :=
  let other := (text.zipIdx.filter fun (_, j) => j ∈ matched.map Prod.snd).map Prod.fst
  (((matched.map Prod.fst).zip other).countP fun (c, d) => c ≠ d) / 2

end Similarity

/-- How similar two texts are. -/
def similarity (s t : List Char) : Share :=
  let m := s.length
  let n := t.length
  let matched := Similarity.pairs (Similarity.range m n) t [] s.zipIdx
  let k := matched.length
  if m = 0 ∧ n = 0 then ⟨1, 1⟩
  else if k = 0 then ⟨0, 1⟩
  else ⟨k * k * n + k * k * m + (k - Similarity.outOfOrder t matched) * m * n, 3 * k * m * n⟩

end BackingServices.Text
