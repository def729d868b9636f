import BackingServices.Yaml.Token

/-!
# The events of YAML documents

A document is a node: a scalar, a sequence, a mapping or an alias.  Written out
from left to right it is a list of *events*, where a collection is an event of
its own, then its content, then the event that closes it.

A node may have an anchor, a tag or both in front of it.  Anchors are numbered
in the order in which new names appear.  A name that is given again gets the
number that the next new name gets too, and an alias leads to the last node of
its number in the document.

Tokens are read by the grammar of YAML.  The events before a fault are kept: a
document may be refused for what they say before the fault is noticed.
-/

namespace BackingServices.Yaml

/-! ## Events and documents -/

/-- A part of a node. -/
inductive Event where
  /-- An alias to the anchor of a number. -/
  | alias (number : Nat)
  /-- A scalar, which may be plain, and its tag. -/
  | scalar (tag? : Option (List UInt8)) (text : List Char) (plain : Bool)
  /-- The beginning of a sequence, and its tag. -/
  | sequence (tag? : Option (List UInt8))
  /-- The beginning of a mapping, and its tag. -/
  | mapping (tag? : Option (List UInt8))
  /-- The end of a collection. -/
  | close
deriving DecidableEq, Inhabited

/-- A document as far as it is read. -/
structure Document where
  /-- Its events and where they begin. -/
  events : Array (Event × Mark)
  /-- The numbers of its anchors and the indices of the nodes they name, the last one first. -/
  anchors : List (Nat × Nat)
  /-- The fault that ends it. -/
  fault? : Option Fault

namespace Document

/-- A document without events. -/
def empty : Document := ⟨#[], [], none⟩

/-- The document of a stream that has none: it is null. -/
def void : Document := ⟨#[(.scalar none [] true, .start)], [], none⟩

end Document

/-! ## Reading tokens -/

/-- How far the tokens of a stream are read. -/
structure Reader where
  /-- The tokens that are left. -/
  tokens : List Token
  /-- The fault behind the last token. -/
  fault : Fault
  /-- What the handles of tags stand for. -/
  handles : List (String × List UInt8)
  /-- The names of the document's anchors, and their numbers. -/
  names : List (String × Nat)
  /-- The document so far. -/
  current : Document

/-- A reader of tokens that keeps what it has read when it fails. -/
abbrev Reader.Step := EStateM Fault Reader

namespace Reader

/-- The next token, which stays. -/
def peek : Step Token := do
  let r ← get
  match r.tokens with
  | t :: _ => return t
  | [] => throw r.fault

/-- The kind of the next token. -/
def peekKind : Step TokenKind := do return (← peek).kind

/-- Passes the next token. -/
def skip : Step Unit := modify fun r => { r with tokens := r.tokens.drop 1 }

/-- Fails because of the next token, in something that began at a mark. -/
def fail (problem : Problem) (activity : Activity) (beginning : Mark) : Step Unit := do
  throw (.malformed problem (← peek).mark (some (activity, beginning)))

/-- Adds an event. -/
def emit (event : Event) (mark : Mark) : Step Unit :=
  modify fun r => { r with current := { r.current with events := r.current.events.push (event, mark) } }

/-- Adds an empty scalar at the next token. -/
def emitEmpty : Step Unit := do emit (.scalar none [] true) (← peek).mark

/-- Gives a name to the node that begins next. -/
def name (anchor : String) : Step Unit :=
  modify fun r =>
    let number := r.names.length
    let known := r.names.filter fun (other, _) => other != anchor
    { r with
      names := (anchor, number) :: known
      current := { r.current with anchors := (number, r.current.events.size) :: r.current.anchors } }

/-- Adds the event of a node, which may have a name. -/
def emitNode (anchor? : Option String) (event : Event) (mark : Mark) : Step Unit := do
  if let some anchor := anchor? then name anchor
  emit event mark

/-- Adds the event of an alias. -/
def emitAlias (anchor : String) (mark : Mark) : Step Unit := do
  match (← get).names.lookup anchor with
  | some number => emit (.alias number) mark
  | none => throw (.unknownAnchor mark)

/-! ## Tags -/

/-- The octets of a text. -/
def octets (s : String) : List UInt8 := octetsOf s.toList

/-- What handles stand for unless a directive says something else. -/
def defaultHandles : List (String × List UInt8) := [
  ("!", octets "!"), ("!!", octets "tag:yaml.org,2002:")]

/-- The octets that a written tag stands for.  The node that it belongs to begins at a mark. -/
def resolveTag (beginning : Mark) (written : Option (WrittenTag × Mark)) : Step (Option (List UInt8)) := do
  match written with
  | none => return none
  | some (tag, mark) =>
    if tag.handle = "" then return some tag.suffix
    else
      match (← get).handles.lookup tag.handle with
      | some octets => return some (octets ++ tag.suffix)
      | none => throw (.malformed .unknownHandle mark (some (.node, beginning)))

/-- The anchor that is next, if one is. -/
def anchor? : Step (Option String) := do
  match ← peekKind with
  | .anchor name => do
    skip
    return some name
  | _ => return none

/-- The tag that is next, if one is. -/
def tag? : Step (Option (WrittenTag × Mark)) := do
  match ← peek with
  | ⟨.tag tag, mark⟩ => do
    skip
    return some (tag, mark)
  | _ => return none

/-- What stands in front of a node, in either order. -/
def properties : Step (Option String × Option (List UInt8)) := do
  let beginning := (← peek).mark
  let first? ← anchor?
  let written ← tag?
  let anchor? ← if first?.isSome then pure first? else if written.isSome then anchor? else pure none
  let _ ← peek
  return (anchor?, ← resolveTag beginning written)

/-! ## Nodes -/

/-- Whether no node stands between a sign and the token behind it in a block mapping. -/
def endsBlockPart : TokenKind → Bool
  | .key | .value | .blockEnd => true
  | _ => false

/-- The tag of a scalar; a lone exclamation mark says nothing. -/
def scalarTag (tag? : Option (List UInt8)) : Option (List UInt8) := if tag? = some (octets "!") then none else tag?

/-- Closes a collection at the next token, which is passed. -/
def closeAndSkip : Step Unit := do
  emit .close (← peek).mark
  skip

mutual

/-- Reads a node.  A block may begin here if `block`, and a sequence whose dashes are at the column
of the key above if `below`. -/
def node : Nat → Bool → Bool → Step Unit
  | 0, _, _ => return
  | n + 1, block, below => do
    let first ← peek
    match first.kind with
    | .alias name => do
      emitAlias name first.mark
      skip
    | _ => do
      let (anchor?, tag?) ← properties
      let token ← peek
      match token.kind with
      | .dash =>
        if below then do
          emitNode anchor? (.sequence tag?) first.mark
          dashes n
        else leaf block anchor? tag? first.mark
      | .scalar text plain => do
        emitNode anchor? (.scalar (scalarTag tag?) text plain) first.mark
        skip
      | .flowSequence => do
        emitNode anchor? (.sequence tag?) first.mark
        skip
        flowSequence n token.mark true
      | .flowMapping => do
        emitNode anchor? (.mapping tag?) first.mark
        skip
        flowMapping n token.mark true
      | .blockSequence =>
        if block then do
          emitNode anchor? (.sequence tag?) first.mark
          skip
          blockSequence n token.mark
        else leaf block anchor? tag? first.mark
      | .blockMapping =>
        if block then do
          emitNode anchor? (.mapping tag?) first.mark
          skip
          blockMapping n token.mark
        else leaf block anchor? tag? first.mark
      | _ => leaf block anchor? tag? first.mark

/-- Ends a node that has only an anchor or a tag; one without either is missing. -/
def leaf (block : Bool) (anchor? : Option String) (tag? : Option (List UInt8)) (mark : Mark) : Step Unit :=
  if anchor?.isSome || tag?.isSome then emitNode anchor? (.scalar tag? [] true) mark
  else fail .noContent (if block then .blockNode else .flowNode) mark

/-- Reads the elements of a block sequence that began at a mark. -/
def blockSequence : Nat → Mark → Step Unit
  | 0, _ => return
  | n + 1, beginning => do
    match ← peekKind with
    | .dash => do
      skip
      match ← peekKind with
      | .dash | .blockEnd => emitEmpty
      | _ => node n true false
      blockSequence n beginning
    | .blockEnd => closeAndSkip
    | _ => fail .noDash .blockSequence beginning

/-- Reads the elements of a sequence whose dashes are at the column of the key above. -/
def dashes : Nat → Step Unit
  | 0 => return
  | n + 1 => do
    match ← peekKind with
    | .dash => do
      skip
      match ← peekKind with
      | .dash | .key | .value | .blockEnd => emitEmpty
      | _ => node n true false
      dashes n
    | _ => emit .close (← peek).mark

/-- Reads the members of a block mapping that began at a mark. -/
def blockMapping : Nat → Mark → Step Unit
  | 0, _ => return
  | n + 1, beginning => do
    match ← peekKind with
    | .key => do
      skip
      if endsBlockPart (← peekKind) then emitEmpty else node n true true
      if (← peekKind) = .value then
        skip
        if endsBlockPart (← peekKind) then emitEmpty else node n true true
      else emitEmpty
      blockMapping n beginning
    | .blockEnd => closeAndSkip
    | _ => fail .noKey .blockMapping beginning

/-- Reads the elements of a flow sequence that began at a mark. -/
def flowSequence : Nat → Mark → Bool → Step Unit
  | 0, _, _ => return
  | n + 1, beginning, first => do
    if (← peekKind) = .flowSequenceEnd then closeAndSkip
    else
      if !first then
        if (← peekKind) = .comma then skip else fail .noCommaInSequence .flowSequence beginning
      match ← peekKind with
      | .flowSequenceEnd => closeAndSkip
      | .key => do
        emit (.mapping none) (← peek).mark
        skip
        flowPair n
        flowSequence n beginning false
      | _ => do
        node n false false
        flowSequence n beginning false

/-- Reads the key and the value of a mapping of one member inside a flow sequence.  A sign in the
place of the key is passed. -/
def flowPair : Nat → Step Unit
  | 0 => return
  | n + 1 => do
    match ← peekKind with
    | .value | .comma | .flowSequenceEnd => do
      emitEmpty
      skip
    | _ => node n false false
    if (← peekKind) = .value then
      skip
      match ← peekKind with
      | .comma | .flowSequenceEnd => emitEmpty
      | _ => node n false false
    else emitEmpty
    emit .close (← peek).mark

/-- Reads the members of a flow mapping that began at a mark. -/
def flowMapping : Nat → Mark → Bool → Step Unit
  | 0, _, _ => return
  | n + 1, beginning, first => do
    if (← peekKind) = .flowMappingEnd then closeAndSkip
    else
      if !first then
        if (← peekKind) = .comma then skip else fail .noCommaInMapping .flowMapping beginning
      match ← peekKind with
      | .flowMappingEnd => closeAndSkip
      | .key => do
        skip
        match ← peekKind with
        | .value | .comma | .flowMappingEnd => emitEmpty
        | _ => node n false false
        if (← peekKind) = .value then
          skip
          match ← peekKind with
          | .comma | .flowMappingEnd => emitEmpty
          | _ => node n false false
        else emitEmpty
        flowMapping n beginning false
      | _ => do
        node n false false
        emitEmpty
        flowMapping n beginning false

end

/-! ## Documents -/

/-- Whether a version of YAML is known. -/
def isKnownVersion (major minor : Nat) : Bool := major == 1 && (minor == 1 || minor == 2)

/-- Reads the directives in front of a document, given the handles that they declared so far and
whether they gave a version. -/
def directives : Nat → Bool → List (String × List UInt8) → Step Unit
  | 0, _, _ => return
  | n + 1, versioned, declared => do
    match ← peek with
    | ⟨.directive (.version major minor), mark⟩ => do
      if versioned then throw (.malformed .duplicateVersion mark none)
      if !isKnownVersion major minor then throw (.malformed .badVersion mark none)
      skip
      directives n true declared
    | ⟨.directive (.handle name octets), mark⟩ => do
      if (declared.lookup name).isSome then throw (.malformed .duplicateHandle mark none)
      skip
      directives n versioned (declared ++ [(name, octets)])
    | _ => modify fun r => { r with handles := declared ++ defaultHandles }

/-- Whether a token begins a document with directives or dashes. -/
def beginsDocument : TokenKind → Bool
  | .directive _ | .documentStart => true
  | _ => false

/-- Whether a token ends a document or begins the next one. -/
def endsDocument : TokenKind → Bool
  | .directive _ | .documentStart | .documentEnd | .streamEnd => true
  | _ => false

/-- Passes the marks of document ends. -/
def skipEnds : Nat → Step Unit
  | 0 => return
  | n + 1 => do
    if (← peekKind) = .documentEnd then
      skip
      skipEnds n

/-- Reads a document.  The first one needs no dashes.  Tells whether there was one. -/
def document (fuel : Nat) (first : Bool) : Step Bool := do
  if !first then skipEnds fuel
  let kind ← peekKind
  if kind = .streamEnd then return false
  directives fuel false []
  if first && !beginsDocument kind then node fuel true false
  else
    if (← peekKind) = .documentStart then skip
    else throw (.malformed .noDocument (← peek).mark none)
    if endsDocument (← peekKind) then emitEmpty else node fuel true false
  if (← peekKind) = .documentEnd then skip
  return true

/-- Reads all documents.  A stream that has none is read as one that is null. -/
def documentsFuel (fuel : Nat) : Nat → Bool → Reader → List Document
  | 0, _, _ => []
  | n + 1, first, r =>
    match document fuel first { r with names := [], current := .empty } with
    | .error fault r => [{ r.current with fault? := some fault }]
    | .ok true r => r.current :: documentsFuel fuel n false r
    | .ok false _ => if first then [.void] else []

end Reader

/-- The documents of a text.  Only the last one may have a fault. -/
def Document.ofText (text : String) : List Document :=
  let (tokens, fault?) := tokens text
  let fuel := 4 * tokens.length + 8
  Reader.documentsFuel fuel fuel true
    ⟨tokens, fault?.getD (.malformed .noDocument .start none), [], [], .empty⟩

end BackingServices.Yaml
