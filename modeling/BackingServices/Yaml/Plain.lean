import BackingServices.Yaml.Place

/-!
# Plain scalars

A plain scalar has no quotes.  It ends before a comment, before a colon with a
blank behind it, before the mark of a document and, in block context, before a
line that is not indented deep enough.  In flow context it ends before the
signs of flow collections too.  Its lines are folded; the blanks behind its
last piece are passed and dropped.
-/

namespace BackingServices.Yaml

/-- Whether a colon stands here that neither belongs to a plain scalar in flow context nor begins a
value. -/
def isMisplacedColon : List Char → Bool
  | ':' :: c :: _ => isFlowIndicator c || c == '?'
  | _ => false

/-- Whether a piece of a plain scalar ends before some characters. -/
def plainEnds (inFlow : Bool) : List Char → Bool
  | [] => true
  | c :: cs =>
    isGap c || (c == ':' && blankNext cs) ||
      (inFlow && (isFlowIndicator c || isMisplacedColon (c :: cs)))

/-- The length of the next piece of a plain scalar. -/
def plainPiece (inFlow : Bool) : List Char → Nat
  | [] => 0
  | c :: cs => if plainEnds inFlow (c :: cs) then 0 else plainPiece inFlow cs + 1

/-- What is read of a plain scalar. -/
structure Plain where
  /-- Its text. -/
  text : List Char
  /-- The place behind it and the gap that follows. -/
  next : Place
  /-- Whether a line ended in that gap. -/
  endsLine : Bool

/-- Reads on in a plain scalar behind a gap. -/
def plainFuel (inFlow : Bool) (least : Nat) (beginning : Mark) :
    Nat → Gap → Place → Except Fault Plain
  | 0, gap, p => .ok ⟨[], p, gap.endsLine⟩
  | n + 1, gap, p =>
    if p.atMark || p.sees '#' then .ok ⟨[], p, gap.endsLine⟩
    else
      let length := plainPiece inFlow p.rest
      let piece := if length = 0 then [] else gap.text ++ p.rest.take length
      let gap := if length = 0 then gap else Gap.none
      let q := p.skip length
      if inFlow && isMisplacedColon q.rest then .error (q.fault .misplacedColon .plain beginning)
      else if !q.rest.head?.any isGap then .ok ⟨piece, q, gap.endsLine⟩
      else
        let (gap, q) := q.gapIndented least
        if q.sees '\t' then .error (q.fault .tabInPlain .plain beginning)
        else if !inFlow && q.column < least then .ok ⟨piece, q, gap.endsLine⟩
        else do
          let rest ← plainFuel inFlow least beginning n gap q
          .ok { rest with text := piece ++ rest.text }

/-- Reads a plain scalar.  Its further lines are indented to at least a column. -/
def Place.plain (p : Place) (inFlow : Bool) (least : Nat) : Except Fault Plain :=
  plainFuel inFlow least p.mark (p.rest.length + 1) Gap.none p

/-- Whether a plain scalar can begin with some characters. -/
def beginsPlain (inFlow : Bool) : List Char → Bool
  | [] => false
  | c :: cs =>
    if c == '-' then !cs.head?.any isBlank
    else if c == '?' || c == ':' then !inFlow && !blankNext cs
    else !(isGap c || ",[]\x7b\x7d#&*!|>'\"%@`".toList.contains c)

end BackingServices.Yaml
