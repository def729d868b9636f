import BackingServices.Yaml.Place
import BackingServices.Yaml.Resolve

/-!
# Quoted scalars

Between single quotes a quote is written twice.  Between double quotes a
backslash begins an escape: a letter that stands for a character, the number of
a character in hexadecimal digits, or the end of a line, which is then dropped.
Elsewhere lines are folded, and no line may look like the mark of a document.
-/

namespace BackingServices.Yaml

/-- The length of the next piece of a quoted scalar: up to a gap, a quote or an escape. -/
def quotedPiece (quote : Char) (cs : List Char) : Nat :=
  (cs.takeWhile fun c => !(isGap c || c == quote || (quote == '"' && c == '\\'))).length

/-- What the escapes with letters stand for. -/
def letterEscapes : List (Char × Char) := [
  ('0', '\x00'), ('a', '\x07'), ('b', '\x08'), ('t', '\t'), ('\t', '\t'), ('n', '\n'),
  ('v', '\x0b'), ('f', '\x0c'), ('r', '\r'), ('e', '\x1b'), (' ', ' '), ('"', '"'), ('/', '/'),
  ('\\', '\\'), ('N', '\x85'), ('_', '\xa0'), ('L', '\u2028'), ('P', '\u2029')]

/-- How many digits a numeric escape has. -/
def escapeWidth? (c : Char) : Option Nat :=
  if c = 'x' then some 2 else if c = 'u' then some 4 else if c = 'U' then some 8 else none

/-- The character of some hexadecimal digits at a place. -/
def numericEscape (beginning : Mark) (width : Nat) (p : Place) : Except Fault Char :=
  let digits := p.rest.take width
  if digits.length < width then .error (p.fault .noHexadecimal .escape beginning)
  else
    match digitsValue? 16 digits with
    | none => .error (p.fault .noHexadecimal .escape beginning)
    | some n =>
      if n.isValidChar then .ok (Char.ofNat n) else .error (p.fault .badCharacterCode .escape beginning)

/-- The character of an escape at its backslash, and the place behind it. -/
def escapeAt (beginning : Mark) (p : Place) : Except Fault (Char × Place) :=
  match p.rest.drop 1 with
  | [] => .error (p.fault .badEscape .escape beginning)
  | c :: _ =>
    match letterEscapes.lookup c with
    | some d => .ok (d, p.skip 2)
    | none =>
      match escapeWidth? c with
      | none => .error (p.fault .badEscape .escape beginning)
      | some width => do
        let d ← numericEscape beginning width (p.skip 2)
        .ok (d, p.skip (2 + width))

/-- Reads on in a quoted scalar and passes its closing quote. -/
def quotedFuel (quote : Char) (beginning : Mark) : Nat → Place → Except Fault (List Char × Place)
  | 0, p => .error (p.fault .ended .quoted beginning)
  | n + 1, p =>
    if p.atMark then .error (p.fault .documentInside .quoted beginning)
    else
      let length := quotedPiece quote p.rest
      let piece := p.rest.take length
      let q := p.skip length
      match q.rest with
      | [] => .error (q.fault .ended .quoted beginning)
      | c :: cs =>
        if isGap c then do
          let (gap, r) := q.gap
          let (rest, r) ← quotedFuel quote beginning n r
          .ok (piece ++ gap.text ++ rest, r)
        else if c = '\\' then
          match (q.skip 1).takeBreak? with
          | some (_, r) => do
            let (gap, r) := r.gap
            let (rest, r) ← quotedFuel quote beginning n r
            .ok (piece ++ gap.lineEnds ++ rest, r)
          | none => do
            let (d, r) ← escapeAt beginning q
            let (rest, r) ← quotedFuel quote beginning n r
            .ok (piece ++ d :: rest, r)
        else if quote = '\'' ∧ cs.head? = some quote then do
          let (rest, r) ← quotedFuel quote beginning n (q.skip 2)
          .ok (piece ++ quote :: rest, r)
        else .ok (piece, q.skip 1)

/-- Reads a quoted scalar from its opening quote on. -/
def Place.quoted (p : Place) (quote : Char) : Except Fault (List Char × Place) :=
  quotedFuel quote p.mark (p.rest.length + 1) (p.skip 1)

end BackingServices.Yaml
