import BackingServices.Yaml.Place

/-!
# Block scalars

A literal block keeps its line ends and a folded one folds them, except beside
lines that begin with a blank.  Behind the indicator stand, in any order, a sign
that says what becomes of the line ends at the end of the block and a digit that
says how much deeper than its surroundings the block is indented.  Without the
digit the first line that is not empty decides, or the deepest empty line before
it if that is deeper.
-/

namespace BackingServices.Yaml

/-- What becomes of the line ends at the end of a block. -/
inductive Chomp where
  /-- None is kept. -/
  | strip
  /-- One is kept. -/
  | clip
  /-- All are kept. -/
  | keep
deriving DecidableEq

/-- What the signs behind the indicator of a block say. -/
structure BlockHeader where
  /-- What becomes of its last line ends. -/
  chomp : Chomp
  /-- How much deeper it is indented. -/
  step? : Option Nat

/-- The sign of a chomping. -/
def chomp? : List Char → Option Chomp
  | '+' :: _ => some .keep
  | '-' :: _ => some .strip
  | _ => none

/-- The digit that is next, which must not be zero. -/
def indentation? (beginning : Mark) (p : Place) : Except Fault (Option Nat) :=
  match p.rest with
  | c :: _ =>
    if c = '0' then .error (p.fault .zeroIndentation .block beginning)
    else if c.isDigit then .ok (some (c.toNat - 48))
    else .ok none
  | [] => .ok none

/-- Reads the signs behind the indicator of a block. -/
def blockHeader (beginning : Mark) (p : Place) : Except Fault (BlockHeader × Place) := do
  match chomp? p.rest with
  | some chomp =>
    match ← indentation? beginning (p.skip 1) with
    | some step => .ok (⟨chomp, some step⟩, p.skip 2)
    | none => .ok (⟨chomp, none⟩, p.skip 1)
  | none =>
    match ← indentation? beginning p with
    | none => .ok (⟨.clip, none⟩, p)
    | some step =>
      match chomp? (p.skip 1).rest with
      | some chomp => .ok (⟨chomp, some step⟩, p.skip 2)
      | none => .ok (⟨.clip, some step⟩, p.skip 1)

/-- Passes spaces, up to a column if it is given. -/
def skipSpaces (column? : Option Nat) (p : Place) : Place :=
  let spaces := (p.rest.takeWhile (· == ' ')).length
  match column? with
  | some column => p.skip (min spaces (column - p.column))
  | none => p.skip spaces

/-- Whether a place is still in the indentation of a block. -/
def inIndentation (column? : Option Nat) (p : Place) : Bool := column?.all fun column => p.column < column

/-- Passes the empty lines of a block and the indentation of the next line.  Gives their line ends
and the greatest column that was reached. -/
def emptyLinesFuel (beginning : Mark) (column? : Option Nat) :
    Nat → Nat → Place → Except Fault (List Char × Nat × Place)
  | 0, greatest, p => .ok ([], greatest, p)
  | n + 1, greatest, p =>
    let p := skipSpaces column? p
    let greatest := max greatest p.column
    if inIndentation column? p && p.sees '\t' then .error (p.fault .tabInBlock .block beginning)
    else
      match p.takeBreak? with
      | some (c, q) => do
        let (cs, greatest, q) ← emptyLinesFuel beginning column? n greatest q
        .ok (c :: cs, greatest, q)
      | none => .ok ([], greatest, p)

/-- The line ends between two lines of a block as they are read. -/
def joinLines (folded besideBlank : Bool) (first? : Option Char) (further : List Char) : List Char :=
  if folded && first? == some '\n' && !besideBlank then
    if further.isEmpty then [' '] else further
  else first?.toList ++ further

/-- The line ends at the end of a block that are kept. -/
def Chomp.apply (first? : Option Char) (further : List Char) : Chomp → List Char
  | .strip => []
  | .clip => first?.toList
  | .keep => first?.toList ++ further

/-- Reads the lines of a block at a column, given the line ends before the first of them and whether
the line before began with a blank. -/
def blockLinesFuel (beginning : Mark) (folded : Bool) (chomp : Chomp) (column : Nat) :
    Nat → Bool → Option Char → List Char → Place → Except Fault (List Char × Place)
  | 0, _, _, _, p => .ok ([], p)
  | n + 1, afterBlank, first?, further, p =>
    if p.column = column ∧ !p.rest.isEmpty then do
      let beginsBlank := p.rest.head?.any isBlank
      let line := p.rest.takeWhile fun c => !isBreak c
      let q := p.skip line.length
      let (next?, q) := match q.takeBreak? with
        | some (c, r) => (some c, r)
        | none => (none, q)
      let (nextFurther, _, q) ← emptyLinesFuel beginning (some column) (q.rest.length + 1) 0 q
      let (rest, r) ← blockLinesFuel beginning folded chomp column n beginsBlank next? nextFurther q
      .ok (joinLines folded (afterBlank || beginsBlank) first? further ++ line ++ rest, r)
    else .ok (chomp.apply first? further, p)

/-- Reads a block scalar from its indicator on, where its surroundings are indented so deep that
nodes lie at `least` or to the right. -/
def Place.block (p : Place) (folded : Bool) (least : Nat) : Except Fault (List Char × Place) := do
  let (header, q) ← blockHeader p.mark (p.skip 1)
  let q := (q.skipWhile isBlank).skipComment
  if !q.atLineEnd then .error (q.fault .noLineEnd .block p.mark)
  else
    let column? := header.step?.map fun step => least - 1 + step
    let (empty, greatest, q) ← emptyLinesFuel p.mark column? (q.rest.length + 1) 0 q.skipBreak
    let column := column?.getD (max greatest (max least 1))
    blockLinesFuel p.mark folded header.chomp column (q.rest.length + 1) false none empty q

end BackingServices.Yaml
