import BackingServices.Yaml.Event

/-!
# The values of YAML documents

A value is null, a truth value, a number, a text, a sequence, a mapping whose
keys are values and different from one another, or a value with a tag of its
own.  Unlike JSON, YAML has infinities and a double that is not a number.

Two keys are the same if they are equal as values, where the order of members
and the exclamation mark of a tag do not count, the two zeros are equal and the
double that is not a number equals itself.

A value is built from the events of a document.  A tag that begins with an
exclamation mark becomes part of the value.  Four other tags say what a scalar
is: a truth value, an integer, a double or null; all that are left make a text
of it.  Collections may be nested 128 deep, and the aliases that are followed
may be a hundred times as many as there are events.
-/

namespace BackingServices.Yaml

/-- A value. -/
inductive Value where
  /-- The null value. -/
  | null
  /-- A truth value. -/
  | bool (value : Bool)
  /-- A number. -/
  | number (value : Number)
  /-- An infinity. -/
  | infinite (negative : Bool)
  /-- The double that is not a number. -/
  | notANumber
  /-- A text. -/
  | string (value : String)
  /-- A sequence of values. -/
  | sequence (items : List Value)
  /-- Values by key. -/
  | mapping (members : List (Value × Value))
  /-- A value with a tag. -/
  | tagged (tag : String) (content : Value)
deriving Inhabited

namespace Value

/-! ## Sameness -/

/-- A tag without its exclamation mark. -/
def bareTag (tag : String) : String :=
  match tag.toList with
  | '!' :: c :: cs => String.ofList (c :: cs)
  | _ => tag

/-- Whether two numbers are the same key. -/
def sameNumber : Number → Number → Bool
  | .real x, .real y => x == y || (x.significand == 0 && y.significand == 0)
  | a, b => a == b

mutual

/-- Whether two values are the same key. -/
def same : Value → Value → Bool
  | .null, .null => true
  | .bool a, .bool b => a == b
  | .number a, .number b => sameNumber a b
  | .infinite a, .infinite b => a == b
  | .notANumber, .notANumber => true
  | .string a, .string b => a == b
  | .sequence as, .sequence bs => sameItems as bs
  | .mapping as, .mapping bs => as.length == bs.length && sameMembers as bs
  | .tagged s a, .tagged t b => bareTag s == bareTag t && same a b
  | _, _ => false

/-- Whether two sequences are the same key. -/
def sameItems : List Value → List Value → Bool
  | [], [] => true
  | a :: as, b :: bs => same a b && sameItems as bs
  | _, _ => false

/-- Whether each of some members has the same one among others. -/
def sameMembers : List (Value × Value) → List (Value × Value) → Bool
  | [], _ => true
  | (k, v) :: as, bs => hasMember k v bs && sameMembers as bs

/-- Whether there is a member of the same key and value. -/
def hasMember (k v : Value) : List (Value × Value) → Bool
  | [] => false
  | (l, w) :: bs => (same k l && same v w) || hasMember k v bs

end

/-- What a key is called in a refusal. -/
def keyName : Value → KeyName
  | .null => .null
  | .bool b => .flag b
  | .number (.integer n _ _) => .number (String.ofList (integerText n))
  | .number (.real x) => .number (String.ofList (x.text layout))
  | .infinite negative => .number (if negative then "-.inf" else ".inf")
  | .notANumber => .number ".nan"
  | .string s => .text s
  | _ => .other

/-! ## Scalars -/

/-- The value of a resolved scalar of a text. -/
def ofScalar (text : String) : Scalar → Except Refusal Value
  | .null => .ok .null
  | .bool b => .ok (.bool b)
  | .number n => .ok (.number n)
  | .infinite negative => .ok (.infinite negative)
  | .notANumber => .ok .notANumber
  | .wideInteger n => .error (.wideInteger n)
  | .text => .ok (.string text)

/-- A tag of the standard repertoire. -/
def standardTag (name : String) : List UInt8 := Reader.octets ("tag:yaml.org,2002:" ++ name)

/-- The value of a text whose tag says what it is. -/
def ofTagged (text kind : String) (scalar? : Option Scalar) : Except Refusal Value :=
  match scalar? with
  | some scalar => ofScalar text scalar
  | none => .error (.notTagged text kind)

/-- The value of a scalar without a tag of its own. -/
def ofText (tag? : Option (List UInt8)) (text : String) (plain : Bool) : Except Refusal Value :=
  match tag? with
  | none => if plain then ofScalar text (resolve text) else .ok (.string text)
  | some tag =>
    if tag = standardTag "bool" then ofTagged text "a boolean" ((truth? text).map .bool)
    else if tag = standardTag "int" then ofTagged text "an integer" (whole? text)
    else if tag = standardTag "float" then ofTagged text "a float" (double? text)
    else if tag = standardTag "null" then
      ofTagged text "null" (if isNull text ∧ text ≠ "" then some .null else none)
    else if tag.head? = some '!'.toNat.toUInt8 ∧ plain then ofScalar text (resolve text)
    else .ok (.string text)

/-- The text of a tag that becomes part of a value: it begins with an exclamation mark, which is left
out unless it is all. -/
def ownTag? (tag : List UInt8) : Option String :=
  match tag with
  | [] => none
  | b :: bs =>
    if b = '!'.toNat.toUInt8 then (Text.decode? (if bs.isEmpty then [b] else bs)).toOption else none

end Value

/-! ## Building values -/

/-- How far a document is built. -/
structure Progress where
  /-- The index of the next event. -/
  position : Nat
  /-- How many aliases were followed. -/
  jumps : Nat

/-- A builder of values. -/
abbrev Build := EStateM Fault Progress

/-- How deep collections may be nested. -/
def documentDepth : Nat := 128

/-- How many aliases may be followed for each event. -/
def jumpsPerEvent : Nat := 100

namespace Document

/-- The next event, which stays. -/
def peek (d : Document) : Build (Event × Mark) := do
  match d.events[(← get).position]? with
  | some event => return event
  | none => throw (d.fault?.getD (.malformed .noContent .start none))

/-- Passes the next event. -/
def skip : Build Unit := modify fun p => { p with position := p.position + 1 }

/-- A result that is refused at a place of the document. -/
def accept {α : Type} (path : List Step) (mark : Mark) (r : Except Refusal α) : Build α :=
  match r with
  | .ok v => return v
  | .error reason => throw (.refused reason path mark)

/-- The index of the node that the anchors of a number name. -/
def target (d : Document) (number : Nat) : Nat := (d.anchors.lookup number).getD d.events.size

/-- Counts an alias that is followed. -/
def follow (d : Document) : Build Unit := do
  let jumps := (← get).jumps + 1
  if d.events.size * jumpsPerEvent < jumps then throw .tooManyAliases
  modify fun p => { p with jumps := jumps }

/-- The step to the value of the key whose event comes next. -/
def keyStep : Event → Step
  | .scalar _ text _ => .key (String.ofList text)
  | _ => .unnamed

mutual

/-- Builds the next value.  Its own tag has become part of it already if `tagged`. -/
def value (d : Document) : Nat → Nat → Bool → List Step → Build Value
  | 0, _, _, _ => return .null
  | n + 1, depth, tagged, path => do
    let (event, mark) ← d.peek
    let own? := fun (tag? : Option (List UInt8)) => if tagged then none else tag?.bind Value.ownTag?
    match event with
    | .alias number => do
      d.follow
      let back := (← get).position + 1
      modify fun p => { p with position := d.target number }
      let v ← value d n depth false path
      modify fun p => { p with position := back }
      return v
    | .scalar tag? text plain =>
      match own? tag? with
      | some tag => return .tagged tag (← value d n depth true path)
      | none => do
        skip
        accept path mark (Value.ofText (if tagged then none else tag?) (String.ofList text) plain)
    | .sequence tag? =>
      match own? tag? with
      | some tag => return .tagged tag (← value d n depth true path)
      | none => do
        skip
        if depth = 0 then throw (.tooDeep mark)
        return .sequence (← items d n (depth - 1) path 0)
    | .mapping tag? =>
      match own? tag? with
      | some tag => return .tagged tag (← value d n depth true path)
      | none => do
        skip
        if depth = 0 then throw (.tooDeep mark)
        return .mapping (← members d n (depth - 1) tagged path mark [])
    | .close => return .null

/-- Builds the rest of a sequence from an index on. -/
def items (d : Document) : Nat → Nat → List Step → Nat → Build (List Value)
  | 0, _, _, _ => return []
  | n + 1, depth, path, index => do
    if (← d.peek).1 = .close then
      skip
      return []
    else
      let v ← value d n depth false (.index index :: path)
      return v :: (← items d n depth path (index + 1))

/-- Builds the rest of a mapping that began at a mark, given the members so far.  Keys have no tags
of their own in a mapping that has one. -/
def members (d : Document) : Nat → Nat → Bool → List Step → Mark → List (Value × Value) →
    Build (List (Value × Value))
  | 0, _, _, _, _, _ => return []
  | n + 1, depth, tagged, path, mark, found => do
    let (event, _) ← d.peek
    if event = .close then
      skip
      return found
    else
      let key ← value d n depth tagged path
      if found.any fun (k, _) => Value.same k key then
        throw (.refused (.duplicate key.keyName) path mark)
      let v ← value d n depth false (keyStep event :: path)
      members d n depth tagged path mark (found ++ [(key, v)])

end

/-- The value of a document, collections being so deep at most. -/
def toValue (depth : Nat) (d : Document) : Except Fault Value :=
  let size := d.events.size + 2
  match d.value (2 * size * (depth + 2)) depth false [] ⟨0, 0⟩ with
  | .error fault _ => .error fault
  | .ok v _ =>
    match d.fault? with
    | some fault => .error fault
    | none => .ok v

end Document

/-! ## Streams -/

/-- The documents of a stream, collections being so deep at most.  Only the last one may have a
fault. -/
def documentsWithin (depth : Nat) (text : String) : List (Except Fault Value) :=
  (Document.ofText text).map (Document.toValue depth)

/-- The documents of a stream. -/
def documents (text : String) : List (Except Fault Value) := documentsWithin documentDepth text

mutual

/-- The JSON value that a value is, if all its keys are texts. -/
def Value.toJson? : Value → Option Json
  | .null => some .null
  | .bool b => some (.bool b)
  | .number n => some (.number n)
  | .string s => some (.string s)
  | .sequence items => return .array (← toJsonItems? items)
  | .mapping members => return .object (← toJsonMembers? members)
  | _ => none

/-- The JSON values that the values of a sequence are. -/
def Value.toJsonItems? : List Value → Option (List Json)
  | [] => some []
  | v :: vs => return (← toJson? v) :: (← toJsonItems? vs)

/-- The members of an object that the members of a mapping are. -/
def Value.toJsonMembers? : List (Value × Value) → Option (List (String × Json))
  | [] => some []
  | (.string key, v) :: ms => return (key, ← toJson? v) :: (← toJsonMembers? ms)
  | _ => none

end

/-- The one document of a stream as a JSON value, collections being so deep at most. -/
def readWithin? (depth : Nat) (text : String) : Option Json :=
  match documentsWithin depth text with
  | [.ok v] => v.toJson?
  | _ => none

/-- The one document of a stream as a JSON value. -/
def read? (text : String) : Option Json := readWithin? documentDepth text

end BackingServices.Yaml
