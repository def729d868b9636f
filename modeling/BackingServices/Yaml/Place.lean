import BackingServices.Yaml.Fault

/-!
# Places while a stream is read

A `Place` is what is left of a stream and the mark it begins at.  A line end is
read as a line feed, except that the two Unicode separators stay what they are.

A scalar may go on over several lines.  The blanks around a line end are
dropped, a single line feed becomes a space, and of several the first is
dropped; a separator that ends the line is kept.  A `Gap` holds what was passed
between two pieces of a scalar.
-/

namespace BackingServices.Yaml

/-- What is left of a stream and where it begins. -/
structure Place where
  /-- The characters that are left. -/
  rest : List Char
  /-- The mark of the first of them. -/
  mark : Mark

namespace Place

/-- The beginning of a text. -/
def start (text : List Char) : Place := ⟨text, .start⟩

/-- The column of the place. -/
def column (p : Place) : Nat := p.mark.column

/-- The fault of a problem at a place, in something that began at a mark. -/
def fault (p : Place) (problem : Problem) (activity : Activity) (beginning : Mark) : Fault :=
  .malformed problem p.mark (some (activity, beginning))

/-- The place behind some characters of a line. -/
def skip (p : Place) (n : Nat) : Place :=
  ⟨p.rest.drop n, ⟨p.mark.index + n, p.mark.line, p.mark.column + n⟩⟩

/-- The place behind the characters of a class that are next. -/
def skipWhile (p : Place) (class_ : Char → Bool) : Place := p.skip (p.rest.takeWhile class_).length

/-- Whether a character is next. -/
def sees (p : Place) (c : Char) : Bool := p.rest.head? == some c

/-- Whether a line ends here, or the stream. -/
def atLineEnd (p : Place) : Bool := p.rest.head?.all isBreak

/-- Whether a blank is next, or the end of a line or the stream. -/
def atBlank (p : Place) : Bool := blankNext p.rest

/-- The place behind the line end that is next, and the character it is read as. -/
def takeBreak? (p : Place) : Option (Char × Place) :=
  match p.rest with
  | '\r' :: '\n' :: cs => some ('\n', ⟨cs, ⟨p.mark.index + 2, p.mark.line + 1, 0⟩⟩)
  | c :: cs =>
    if isBreak c then
      some (if c = '\u2028' ∨ c = '\u2029' then c else '\n', ⟨cs, ⟨p.mark.index + 1, p.mark.line + 1, 0⟩⟩)
    else none
  | [] => none

/-- The place behind the line end that is next, if there is one. -/
def skipBreak (p : Place) : Place :=
  match p.takeBreak? with
  | some (_, q) => q
  | none => p

/-- Passes a comment, if one is next. -/
def skipComment (p : Place) : Place :=
  if p.sees '#' then p.skipWhile fun c => !isBreak c else p

/-- Whether the line begins with the mark of a document's start or end. -/
def atMark (p : Place) : Bool :=
  p.column == 0 &&
    match p.rest with
    | '-' :: '-' :: '-' :: cs => blankNext cs
    | '.' :: '.' :: '.' :: cs => blankNext cs
    | _ => false

/-- Whether an indicator stands here that is followed by a blank. -/
def atIndicator (p : Place) (c : Char) : Bool :=
  match p.rest with
  | d :: cs => c == d && blankNext cs
  | [] => false

end Place

/-! ## Gaps -/

/-- Whether a character is a blank or ends a line. -/
def isGap (c : Char) : Bool := isBlank c || isBreak c

/-- What was passed between two pieces of a scalar: blanks of its line, or line ends. -/
structure Gap where
  /-- The blanks, as long as the line has not ended. -/
  blanks : List Char
  /-- The first line end. -/
  first? : Option Char
  /-- The further ones. -/
  further : List Char

/-- Nothing was passed. -/
def Gap.none : Gap := ⟨[], Option.none, []⟩

/-- Whether a line ended. -/
def Gap.endsLine (g : Gap) : Bool := g.first?.isSome

/-- What the passed characters stand for. -/
def Gap.text (g : Gap) : List Char :=
  match g.first? with
  | Option.none => g.blanks
  | some c =>
    if c = '\n' then (if g.further.isEmpty then [' '] else g.further) else c :: g.further

/-- The line ends of a gap, all of them. -/
def Gap.lineEnds (g : Gap) : List Char := g.first?.toList ++ g.further

/-- Passes blanks and line ends.  `stop` says where to stop before a blank of a later line. -/
def gapFuel (stop : Place → Bool) : Nat → Gap → Place → Gap × Place
  | 0, g, p => (g, p)
  | n + 1, g, p =>
    match p.takeBreak? with
    | some (c, q) =>
      match g.first? with
      | Option.none => gapFuel stop n ⟨[], some c, []⟩ q
      | some _ => gapFuel stop n { g with further := g.further ++ [c] } q
    | none =>
      match p.rest with
      | c :: _ =>
        if isBlank c then
          if g.endsLine then (if stop p then (g, p) else gapFuel stop n g (p.skip 1))
          else gapFuel stop n { g with blanks := g.blanks ++ [c] } (p.skip 1)
        else (g, p)
      | [] => (g, p)

/-- Passes the blanks and line ends that are next. -/
def Place.gap (p : Place) : Gap × Place := gapFuel (fun _ => false) (p.rest.length + 1) Gap.none p

/-- Passes the blanks and line ends that are next, up to a tab that indents a line to less than a
column. -/
def Place.gapIndented (p : Place) (least : Nat) : Gap × Place :=
  gapFuel (fun q => q.column < least && q.sees '\t') (p.rest.length + 1) Gap.none p

end BackingServices.Yaml
