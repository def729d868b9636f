import BackingServices.Text.Blank

/-!
# Patterns

A pattern stands for a set of texts.  It is written as a regular expression: a dot is
any character but a line feed, `*`, `+` and `?` repeat what stands before them, a bar
separates alternatives, brackets hold one of some characters, and a backslash takes a
sign for itself or names a class.  `^` and `$` stand for the beginning and the end of
the text.

A pattern is matched by its *rests*: the rest of a pattern after a character stands
for the texts that, behind this character, the pattern stands for.  The rest is made
of parts of the pattern, so that no position in the text has to be remembered.
-/

namespace BackingServices.Text

/-! ## Sets of characters -/

/-- A set of characters. -/
structure CharSet where
  /-- Whether it holds the characters outside the ranges. -/
  isNegated : Bool
  /-- Ranges of code points, ends included. -/
  ranges : List (Nat × Nat)
deriving DecidableEq

namespace CharSet

/-- Whether a set has a character. -/
def has (s : CharSet) (c : Char) : Bool :=
  (s.ranges.any fun (first, last) => first ≤ c.toNat && c.toNat ≤ last) != s.isNegated

/-- The set of one character. -/
def single (c : Char) : CharSet := ⟨false, [(c.toNat, c.toNat)]⟩

/-- All characters but the line feed. -/
def any : CharSet := ⟨true, [(10, 10)]⟩

/-- The digits. -/
def digits : CharSet := ⟨false, [(48, 57)]⟩

/-- The letters, the digits and the underscore. -/
def wordCharacters : CharSet := ⟨false, [(48, 57), (65, 90), (95, 95), (97, 122)]⟩

/-- White space. -/
def blanks : CharSet := ⟨false, Blank.ranges⟩

/-- The greatest code point. -/
def greatest : Nat := 0x10FFFF

/-- The ranges between some ranges in rising order, from a code point on. -/
def gaps : Nat → List (Nat × Nat) → List (Nat × Nat)
  | from', [] => if from' ≤ greatest then [(from', greatest)] else []
  | from', (first, last) :: rest =>
    (if from' < first then [(from', first - 1)] else []) ++ gaps (last + 1) rest

/-- The characters outside a set. -/
def complement (s : CharSet) : CharSet := ⟨!s.isNegated, s.ranges⟩

/-- The ranges of a set whose own ranges rise. -/
def plainRanges (s : CharSet) : List (Nat × Nat) := if s.isNegated then gaps 0 s.ranges else s.ranges

end CharSet

/-! ## Patterns -/

/-- A set of texts. -/
inductive Pattern where
  /-- No text. -/
  | none
  /-- The empty text. -/
  | empty
  /-- The empty text at the beginning. -/
  | start
  /-- The empty text at the end. -/
  | stop
  /-- One character of a set. -/
  | one (set : CharSet)
  /-- A text of one pattern and then one of another. -/
  | seq (p q : Pattern)
  /-- A text of one pattern or of another. -/
  | alt (p q : Pattern)
  /-- Any number of texts of a pattern. -/
  | star (p : Pattern)
deriving DecidableEq

namespace Pattern

/-- Whether a pattern allows nothing at a place that is the beginning or the end or neither. -/
def allowsNothing (atStart atEnd : Bool) : Pattern → Bool
  | .none => false
  | .empty => true
  | .start => atStart
  | .stop => atEnd
  | .one _ => false
  | .seq p q => p.allowsNothing atStart atEnd && q.allowsNothing atStart atEnd
  | .alt p q => p.allowsNothing atStart atEnd || q.allowsNothing atStart atEnd
  | .star _ => true

/-- One pattern and then another, simplified. -/
def followedBy : Pattern → Pattern → Pattern
  | .none, _ => .none
  | .empty, q => q
  | _, .none => .none
  | p, q => .seq p q

/-- One pattern or another, simplified. -/
def or (p q : Pattern) : Pattern :=
  if p = .none then q else if q = .none || p = q then p else .alt p q

/-- The rest of a pattern after a character, which may stand at the beginning. -/
def rest (atStart : Bool) (c : Char) : Pattern → Pattern
  | .none | .empty | .start | .stop => .none
  | .one set => if set.has c then .empty else .none
  | .seq p q =>
    let through := (p.rest atStart c).followedBy q
    if p.allowsNothing atStart false then through.or (q.rest atStart c) else through
  | .alt p q => (p.rest atStart c).or (q.rest atStart c)
  | .star p => (p.rest atStart c).followedBy (.star p)

/-- Whether a pattern stands for what is left of a text. -/
def standsFor (atStart : Bool) (p : Pattern) : List Char → Bool
  | [] => p.allowsNothing atStart true
  | c :: cs => (p.rest atStart c).standsFor false cs

/-- Whether a pattern stands for some end of what is left of a text. -/
def standsForEnd (atStart : Bool) (p : Pattern) : List Char → Bool
  | [] => p.allowsNothing atStart true
  | c :: cs => p.standsFor atStart (c :: cs) || p.standsForEnd false cs

/-- Whether a text ends in a text of a pattern. -/
def endsText (p : Pattern) (s : String) : Bool := p.standsForEnd true s.toList

/-! ## Regular expressions -/

/-- Signs that a backslash takes for themselves. -/
def signs : List Char := "\\.+*?()|[]\x7b\x7d^$#&-~/!\"%',:;=@_ `".toList

/-- The character that a letter behind a backslash names. -/
def namedChar? (c : Char) : Option Char :=
  [('n', '\n'), ('t', '\t'), ('r', '\r'), ('f', '\x0c'), ('v', '\x0b'), ('a', '\x07')].lookup c

/-- The class that a letter behind a backslash names. -/
def class? (c : Char) : Option CharSet :=
  [('d', CharSet.digits), ('D', CharSet.digits.complement), ('w', .wordCharacters),
    ('W', CharSet.wordCharacters.complement), ('s', .blanks), ('S', CharSet.blanks.complement)].lookup c

/-- The character that a character behind a backslash stands for. -/
def escaped? (c : Char) : Option Char := if c ∈ signs then some c else namedChar? c

/-- The ranges in brackets up to the closing one, and what stands behind it.  A closing bracket at the
beginning is meant as it is. -/
def ranges? (atStart : Bool) : List Char → Option (List (Nat × Nat) × List Char)
  | [] => Option.none
  | ']' :: cs =>
    if atStart then
      match ranges? false cs with
      | some (rs, rest) => some ((93, 93) :: rs, rest)
      | Option.none => Option.none
    else some ([], cs)
  | '[' :: _ => Option.none
  | '\\' :: c :: cs =>
    match ranges? false cs with
    | some (rs, rest) =>
      match class? c, escaped? c with
      | some set, _ => some (set.plainRanges ++ rs, rest)
      | Option.none, some d => some ((d.toNat, d.toNat) :: rs, rest)
      | Option.none, Option.none => Option.none
    | Option.none => Option.none
  | c :: '-' :: d :: cs =>
    if d = ']' || d = '\\' || d = '[' then
      match ranges? false ('-' :: d :: cs) with
      | some (rs, rest) => some ((c.toNat, c.toNat) :: rs, rest)
      | Option.none => Option.none
    else if d < c then Option.none
    else
      match ranges? false cs with
      | some (rs, rest) => some ((c.toNat, d.toNat) :: rs, rest)
      | Option.none => Option.none
  | c :: cs =>
    match ranges? false cs with
    | some (rs, rest) => some ((c.toNat, c.toNat) :: rs, rest)
    | Option.none => Option.none

/-- The set in brackets, and what stands behind it. -/
def set? : List Char → Option (CharSet × List Char)
  | '^' :: cs => (ranges? true cs).map fun (rs, rest) => (⟨true, rs⟩, rest)
  | cs => (ranges? true cs).map fun (rs, rest) => (⟨false, rs⟩, rest)

/-- Passes over the mark of a repetition that would rather be short. -/
def passLazy : List Char → List Char
  | '?' :: cs => cs
  | cs => cs

/-- A pattern with the repetitions that follow it, with fuel for so many. -/
def repeated : Nat → Pattern → List Char → Pattern × List Char
  | 0, p, cs => (p, cs)
  | n + 1, p, '*' :: cs => repeated n (.star p) (passLazy cs)
  | n + 1, p, '+' :: cs => repeated n (.seq p (.star p)) (passLazy cs)
  | n + 1, p, '?' :: cs => repeated n (.alt p .empty) (passLazy cs)
  | _, p, cs => (p, cs)

/-- Passes over the mark of a group that is not numbered. -/
def passGroupMark : List Char → List Char
  | '?' :: ':' :: cs => cs
  | cs => cs

mutual

/-- Alternatives, and what stands behind them, with fuel. -/
def alternatives? : Nat → List Char → Option (Pattern × List Char)
  | 0, _ => Option.none
  | n + 1, cs => do
    let (p, rest) ← items? n cs
    match rest with
    | '|' :: rest => do
      let (q, rest) ← alternatives? n rest
      return (.alt p q, rest)
    | _ => return (p, rest)

/-- Items up to a bar or a closing parenthesis, and what stands behind them, with fuel. -/
def items? : Nat → List Char → Option (Pattern × List Char)
  | 0, _ => Option.none
  | _, [] => some (.empty, [])
  | n + 1, c :: cs =>
    if c = '|' || c = ')' then some (.empty, c :: cs)
    else do
      let (p, rest) ← item? n (c :: cs)
      let (p, rest) := repeated n p rest
      let (q, rest) ← items? n rest
      return (p.followedBy q, rest)

/-- An item without its repetitions, and what stands behind it, with fuel. -/
def item? : Nat → List Char → Option (Pattern × List Char)
  | 0, _ => Option.none
  | n + 1, cs =>
    match cs with
    | [] => Option.none
    | '(' :: cs => do
      let (p, rest) ← alternatives? n (passGroupMark cs)
      match rest with
      | ')' :: rest => return (p, rest)
      | _ => Option.none
    | '[' :: cs => do
      let (set, rest) ← set? cs
      return (.one set, rest)
    | '\\' :: c :: cs =>
      match c, class? c, escaped? c with
      | 'A', _, _ => some (.start, cs)
      | 'z', _, _ => some (.stop, cs)
      | _, some set, _ => some (.one set, cs)
      | _, Option.none, some d => some (.one (.single d), cs)
      | _, Option.none, Option.none => Option.none
    | ['\\'] => Option.none
    | '.' :: cs => some (.one .any, cs)
    | '^' :: cs => some (.start, cs)
    | '$' :: cs => some (.stop, cs)
    | c :: cs =>
      if c = '*' || c = '+' || c = '?' || c = '\x7b' then Option.none else some (.one (.single c), cs)

end

/-- The pattern that a regular expression writes. -/
def ofText? (s : String) : Option Pattern :=
  match alternatives? (4 * s.length + 4) s.toList with
  | some (p, []) => some p
  | _ => Option.none

end Pattern

end BackingServices.Text
