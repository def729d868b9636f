import BackingServices.Yaml.Block
import BackingServices.Yaml.Label
import BackingServices.Yaml.Plain
import BackingServices.Yaml.Quoted

/-!
# The tokens of a YAML stream

A stream is cut into tokens from left to right.  Indentation becomes tokens too:
a block collection opens at the first dash or key of a new column and closes
before the first token to the left of it.

A key may stand in front of its colon without any sign of its own.  So every
node that may be such a key is remembered, together with the number of its first
token, until its line has ended or 1024 characters were passed.  If a colon is
found by then, the tokens for the key, and for the mapping that it may open, are
put in front of the node; until then the node's tokens are *held back*.  A node
at the column of its block must be a key, and it is a fault if no colon follows.

A line ends the wait for a colon, and it makes another key possible; so does
every sign behind which a node may begin.

`tokens` gives the tokens up to the first fault, those excepted that are still
held back then.
-/

namespace BackingServices.Yaml

/-! ## Tokens -/

/-- The kinds of tokens. -/
inductive TokenKind where
  /-- The end of the stream. -/
  | streamEnd
  /-- A directive. -/
  | directive (text : Directive)
  /-- The three dashes that begin a document. -/
  | documentStart
  /-- The three points that end a document. -/
  | documentEnd
  /-- A sequence in block style begins. -/
  | blockSequence
  /-- A mapping in block style begins. -/
  | blockMapping
  /-- A collection in block style ends. -/
  | blockEnd
  /-- A sequence in flow style begins. -/
  | flowSequence
  /-- It ends. -/
  | flowSequenceEnd
  /-- A mapping in flow style begins. -/
  | flowMapping
  /-- It ends. -/
  | flowMappingEnd
  /-- A dash in front of an element. -/
  | dash
  /-- A comma. -/
  | comma
  /-- A key follows. -/
  | key
  /-- A value follows. -/
  | value
  /-- An alias. -/
  | alias (name : String)
  /-- An anchor. -/
  | anchor (name : String)
  /-- A tag. -/
  | tag (tag : WrittenTag)
  /-- A scalar, which may be plain. -/
  | scalar (text : List Char) (plain : Bool)
deriving DecidableEq

/-- A token and where it begins. -/
structure Token where
  /-- The kind. -/
  kind : TokenKind
  /-- Where it begins. -/
  mark : Mark
deriving DecidableEq

/-! ## The state of reading -/

/-- A node that may turn out to be a key. -/
structure PossibleKey where
  /-- The number of its first token. -/
  number : Nat
  /-- Whether it must be a key. -/
  required : Bool
  /-- Where it begins. -/
  mark : Mark
deriving DecidableEq

/-- How far a stream is cut into tokens. -/
structure Lexer where
  /-- Where reading has got to. -/
  place : Place
  /-- The columns of the open block collections, the innermost first. -/
  blocks : List Nat
  /-- The possible key of the innermost flow collection, or of the blocks if there is none. -/
  key? : Option PossibleKey
  /-- Those of the collections around it, the next one first. -/
  outerKeys : List (Option PossibleKey)
  /-- Whether a key may begin here. -/
  keyAllowed : Bool
  /-- How many tokens were handed out. -/
  count : Nat
  /-- The tokens that are held back. -/
  held : List Token

namespace Lexer

/-- The state at the beginning of a text. -/
def start (text : List Char) : Lexer := ⟨.start text, [], none, [], true, 0, []⟩

/-- Whether reading is inside a flow collection. -/
def inFlow (l : Lexer) : Bool := !l.outerKeys.isEmpty

/-- The least column of a node inside the innermost block. -/
def least (l : Lexer) : Nat :=
  match l.blocks with
  | [] => 0
  | column :: _ => column + 1

/-- Adds a token that begins at a mark. -/
def addAt (l : Lexer) (mark : Mark) (kind : TokenKind) : Lexer := { l with held := l.held ++ [⟨kind, mark⟩] }

/-- Adds a token of so many characters. -/
def addSign (l : Lexer) (kind : TokenKind) (length : Nat) : Lexer :=
  { l.addAt l.place.mark kind with place := l.place.skip length }

/-- Puts a token in front of the held one of a number. -/
def insertAt (l : Lexer) (number : Nat) (token : Token) : Lexer :=
  let before := number - l.count
  { l with held := l.held.take before ++ token :: l.held.drop before }

/-! ## Possible keys -/

/-- How many characters a simple key may have. -/
def simpleKeyReach : Nat := 1024

/-- The fault of a node that must be a key and is none. -/
def noColon (l : Lexer) (k : PossibleKey) : Fault := l.place.fault .noColon .simpleKey k.mark

/-- A possible key if it still is one at the place that is reached. -/
def refreshed (l : Lexer) : Option PossibleKey → Except Fault (Option PossibleKey)
  | none => .ok none
  | some k =>
    if k.mark.line < l.place.mark.line ∨ k.mark.index + simpleKeyReach < l.place.mark.index then
      if k.required then .error (l.noColon k) else .ok none
    else .ok (some k)

/-- Forgets the possible keys whose line has ended or that are too long; the outermost is looked at
first. -/
def refreshKeys (l : Lexer) : Except Fault Lexer := do
  let outer ← l.outerKeys.reverse.mapM l.refreshed
  let key? ← l.refreshed l.key?
  .ok { l with key? := key?, outerKeys := outer.reverse }

/-- Forgets the possible key, because no colon can follow it any more. -/
def dropKey (l : Lexer) : Except Fault Lexer :=
  match l.key? with
  | some k => if k.required then .error (l.noColon k) else .ok { l with key? := none }
  | none => .ok l

/-- Remembers that a key may begin here. -/
def saveKey (l : Lexer) : Except Fault Lexer :=
  if l.keyAllowed then do
    let required := !l.inFlow && l.blocks.head? == some l.place.column
    let l' ← l.dropKey
    .ok { l' with key? := some ⟨l.count + l.held.length, required, l.place.mark⟩ }
  else .ok l

/-! ## Indentation -/

/-- Closes the blocks to the right of a column. -/
def closeBlocks (l : Lexer) (column : Nat) : Lexer :=
  if l.inFlow then l
  else
    let closed := l.blocks.takeWhile fun c => column < c
    { l with
      blocks := l.blocks.drop closed.length
      held := l.held ++ closed.map fun _ => ⟨.blockEnd, l.place.mark⟩ }

/-- Closes all blocks. -/
def closeAll (l : Lexer) : Lexer :=
  if l.inFlow then l
  else { l with blocks := [], held := l.held ++ l.blocks.map fun _ => ⟨.blockEnd, l.place.mark⟩ }

/-- Opens a block at a column if it lies to the right of the innermost one; the token is `add`ed. -/
def openBlock (l : Lexer) (column : Nat) (add : Lexer → Lexer) : Lexer :=
  if l.inFlow then l
  else if l.least ≤ column then { add l with blocks := column :: l.blocks }
  else l

/-! ## Between tokens -/

/-- Passes blanks, comments and line ends up to the next token, with so much fuel.  Tabs are passed
where no key can begin. -/
def skipGapFuel : Nat → Lexer → Lexer
  | 0, l => l
  | n + 1, l =>
    let p := if l.place.column = 0 ∧ l.place.sees '\uFEFF' then l.place.skip 1 else l.place
    let p := p.skipWhile fun c => c == ' ' || (c == '\t' && (l.inFlow || !l.keyAllowed))
    let p := p.skipComment
    match p.takeBreak? with
    | some (_, q) => skipGapFuel n { l with place := q, keyAllowed := l.keyAllowed || !l.inFlow }
    | none => { l with place := p }

/-- Passes what is between two tokens. -/
def skipGap (l : Lexer) : Lexer := skipGapFuel (l.place.rest.length + 1) l

/-! ## Tokens one by one -/

/-- The end of the stream, which begins a line of its own. -/
def streamEnd (l : Lexer) : Except Fault Lexer := do
  let m := l.place.mark
  let place : Place := if m.column = 0 then l.place else ⟨[], ⟨m.index, m.line + 1, 0⟩⟩
  let l ← { l with place := place }.closeAll.dropKey
  .ok ({ l with keyAllowed := false }.addAt l.place.mark .streamEnd)

/-- A directive. -/
def directive (l : Lexer) : Except Fault Lexer := do
  let l ← l.closeAll.dropKey
  let (directive, place) ← l.place.directive
  .ok { l.addAt l.place.mark (.directive directive) with place := place, keyAllowed := false }

/-- The mark of a document's start or end. -/
def documentMark (l : Lexer) : Except Fault Lexer := do
  let l ← l.closeAll.dropKey
  let kind := if l.place.sees '-' then .documentStart else .documentEnd
  .ok ({ l with keyAllowed := false }.addSign kind 3)

/-- The opening bracket of a flow collection. -/
def openFlow (l : Lexer) (kind : TokenKind) : Except Fault Lexer := do
  let l ← l.saveKey
  .ok ({ l with key? := none, outerKeys := l.key? :: l.outerKeys, keyAllowed := true }.addSign kind 1)

/-- The closing bracket of a flow collection. -/
def closeFlow (l : Lexer) (kind : TokenKind) : Except Fault Lexer := do
  let l ← l.dropKey
  let l := match l.outerKeys with
    | [] => l
    | key? :: outer => { l with key? := key?, outerKeys := outer }
  .ok ({ l with keyAllowed := false }.addSign kind 1)

/-- A comma. -/
def comma (l : Lexer) : Except Fault Lexer := do
  .ok ({ (← l.dropKey) with keyAllowed := true }.addSign .comma 1)

/-- A sign that opens a block where none is open at its column.  It needs a place where a key may
begin. -/
def openBySign (l : Lexer) (kind : TokenKind) (misplaced : Problem) : Except Fault Lexer :=
  if l.inFlow then .ok l
  else if l.keyAllowed then .ok (l.openBlock l.place.column fun l => l.addAt l.place.mark kind)
  else .error (.malformed misplaced l.place.mark none)

/-- A dash in front of an element. -/
def dash (l : Lexer) : Except Fault Lexer := do
  let l ← (← l.openBySign .blockSequence .misplacedSequence).dropKey
  .ok ({ l with keyAllowed := true }.addSign .dash 1)

/-- A question mark in front of a key. -/
def questionMark (l : Lexer) : Except Fault Lexer := do
  let l ← (← l.openBySign .blockMapping .misplacedKey).dropKey
  .ok ({ l with keyAllowed := !l.inFlow }.addSign .key 1)

/-- A colon, which makes a key of the node before it if it may be one. -/
def colon (l : Lexer) : Except Fault Lexer :=
  match l.key? with
  | some k =>
    let l := l.insertAt k.number ⟨.key, k.mark⟩
    let l := l.openBlock k.mark.column fun l => l.insertAt k.number ⟨.blockMapping, k.mark⟩
    .ok ({ l with key? := none, keyAllowed := false }.addSign .value 1)
  | none => do
    let l ← l.openBySign .blockMapping .misplacedValue
    .ok ({ l with keyAllowed := !l.inFlow }.addSign .value 1)

/-- A node or a part of one that may begin a key. -/
def label (l : Lexer) (read : Place → Except Fault (TokenKind × Place)) : Except Fault Lexer := do
  let l ← l.saveKey
  let (kind, place) ← read l.place
  .ok { l.addAt l.place.mark kind with place := place, keyAllowed := false }

/-- A plain scalar, behind which a key may begin if its line has ended. -/
def plain (l : Lexer) : Except Fault Lexer := do
  let l ← l.saveKey
  let scalar ← l.place.plain l.inFlow l.least
  .ok { l.addAt l.place.mark (.scalar scalar.text true) with
    place := scalar.next, keyAllowed := scalar.endsLine }

/-- A block scalar, behind which a key may begin. -/
def block (l : Lexer) (folded : Bool) : Except Fault Lexer := do
  let l ← l.dropKey
  let (text, place) ← l.place.block folded l.least
  .ok { l.addAt l.place.mark (.scalar text false) with place := place, keyAllowed := true }

/-- The token that begins with a character. -/
def tokenAt (l : Lexer) (c : Char) : Except Fault Lexer :=
  let p := l.place
  if p.column = 0 ∧ c = '%' then l.directive
  else if p.atMark then l.documentMark
  else if c = '[' then l.openFlow .flowSequence
  else if c = '\x7b' then l.openFlow .flowMapping
  else if c = ']' then l.closeFlow .flowSequenceEnd
  else if c = '\x7d' then l.closeFlow .flowMappingEnd
  else if c = ',' then l.comma
  else if p.atIndicator '-' then l.dash
  else if c = '?' ∧ (l.inFlow ∨ p.atIndicator '?') then l.questionMark
  else if c = ':' ∧ (l.inFlow ∨ p.atIndicator ':') then l.colon
  else if c = '*' then l.label fun p => do
    let (name, q) ← p.name .alias
    .ok (.alias name, q)
  else if c = '&' then l.label fun p => do
    let (name, q) ← p.name .anchor
    .ok (.anchor name, q)
  else if c = '!' then l.label fun p => do
    let (tag, q) ← p.tag l.inFlow
    .ok (.tag tag, q)
  else if (c = '|' ∨ c = '>') ∧ !l.inFlow then l.block (c = '>')
  else if c = '\'' ∨ c = '"' then l.label fun p => do
    let (text, q) ← p.quoted c
    .ok (.scalar text false, q)
  else if beginsPlain l.inFlow p.rest then l.plain
  else .error (p.fault .unexpected .token p.mark)

/-- The state behind the next token. -/
def next (l : Lexer) : Except Fault Lexer := do
  let l ← l.skipGap.refreshKeys
  let l := l.closeBlocks l.place.column
  match l.place.rest with
  | [] => (← l.streamEnd).refreshKeys
  | c :: _ => (← l.tokenAt c).refreshKeys

/-! ## All tokens -/

/-- The number of the first token that may still get a key in front of it. -/
def firstHeld? (l : Lexer) : Option Nat :=
  ((l.key? :: l.outerKeys).filterMap fun k? => k?.map PossibleKey.number).min?

/-- The tokens that need not be held back any more, and the state without them. -/
def release (l : Lexer) : List Token × Lexer :=
  let n := match l.firstHeld? with
    | some number => number - l.count
    | none => l.held.length
  (l.held.take n, { l with count := l.count + n, held := l.held.drop n })

/-- Whether a token ends the stream. -/
def isLast (t : Token) : Bool := t.kind == .streamEnd

/-- The tokens from a state on, with so much fuel, and the fault that ends them. -/
def tokensFuel : Nat → Lexer → List Token × Option Fault
  | 0, _ => ([], none)
  | n + 1, l =>
    match l.next with
    | .error fault => ([], some fault)
    | .ok l =>
      let (tokens, l) := l.release
      if tokens.getLast?.any isLast then (tokens, none)
      else
        let (rest, fault?) := tokensFuel n l
        (tokens ++ rest, fault?)

end Lexer

/-- Where the first character is that may not stand in a stream, in bytes. -/
def unreadable? : Nat → List Char → Option Nat
  | _, [] => none
  | position, c :: cs => if isReadable c then unreadable? (position + c.utf8Size) cs else some position

/-- The tokens of a text, and the fault that ends them if there is one. -/
def tokens (text : String) : List Token × Option Fault :=
  let cs := text.toList
  match unreadable? 0 cs with
  | some position => ([], some (.unreadable position))
  | none => (Lexer.start cs).tokensFuel (cs.length + 2)

end BackingServices.Yaml
