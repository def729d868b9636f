import BackingServices.Json.Scalar

/-!
# Reading JSON text

A text is read in one pass from left to right under a schema, so the first
fault in the order of the text is the one that is reported, whether the text is
malformed there or the value is not what the schema wants.

A value of a wrong type is reported behind the value, or before its opening bracket.  A
fault of a whole record (a missing field, a field given twice, a field that is not the
given text) has no place of its own: it takes the place that reading has reached after
one attempt to close the bracket that encloses it.

Recursion is bounded by fuel computed from the length of the text, more than any text of
that length can use.
-/

namespace BackingServices

namespace Reading

/-! ## Brackets -/

/-- Whether another value follows in a sequence. -/
def hasNextItem (first kept : Bool) : Reading Bool := do
  match ← peekValue with
  | none => failNext .endInList
  | some ']' => return false
  | some c =>
    if first then return true
    else if c = ',' then do
      skip
      match ← peekValue with
      | some ']' => if kept then failNext .trailingComma else failNext .noValue
      | some _ => return true
      | none => failNext .endInValue
    else failNext .noCommaInList

/-- Whether another member follows in an object.  Its key's opening quote is taken. -/
def hasNextMember (first kept : Bool) : Reading Bool := do
  match ← peekValue with
  | none => failNext .endInObject
  | some '\x7d' => return false
  | some c =>
    if first then
      if c = '"' then do skip; return true else failNext .keyNotText
    else if c = ',' then do
      skip
      match ← peekValue with
      | some '"' => do skip; return true
      | some '\x7d' => if kept then failNext .trailingComma else failNext .keyNotText
      | some _ => failNext .keyNotText
      | none => if kept then failNext .endInValue else failNext .endInObject
    else failNext .noCommaInObject

/-- Takes the colon between key and value. -/
def colon : Reading Unit := do
  match ← peekValue with
  | some ':' => skip
  | some _ => failNext .noColon
  | none => failNext .endInObject

/-- Takes the close of a sequence. -/
def endList : Reading Unit := do
  match ← peekValue with
  | some ']' => skip
  | some ',' => do
    skip
    match ← peekValue with
    | some ']' => failNext .trailingComma
    | _ => failNext .trailingCharacters
  | some _ => failNext .trailingCharacters
  | none => failNext .endInList

/-- Takes the close of an object. -/
def endObject : Reading Unit := do
  match ← peekValue with
  | some '\x7d' => skip
  | some ',' => failNext .trailingComma
  | some _ => failNext .trailingCharacters
  | none => failNext .endInObject

/-! ## Values -/

mutual

/-- Passes a value, checking only its form. -/
def ignore : Nat → Reading Unit
  | 0 => failHere .endInValue
  | fuel + 1 => do
    match ← peekValue with
    | none => failNext .endInValue
    | some 'n' => do skip; word "ull".toList
    | some 't' => do skip; word "rue".toList
    | some 'f' => do skip; word "alse".toList
    | some '-' => do skip; discard (number false true)
    | some '"' => do skip; discard (string false)
    | some '[' => do skip; ignoreItems fuel true
    | some '\x7b' => do skip; ignoreMembers fuel true
    | some c => if c.isDigit then discard (number false false) else failNext .noValue

/-- Passes the rest of a sequence and its close. -/
def ignoreItems : Nat → Bool → Reading Unit
  | 0, _ => failHere .endInList
  | fuel + 1, first => do
    if ← hasNextItem first false then
      ignore fuel
      ignoreItems fuel false
    else skip

/-- Passes the rest of an object and its close. -/
def ignoreMembers : Nat → Bool → Reading Unit
  | 0, _ => failHere .endInObject
  | fuel + 1, first => do
    if ← hasNextMember first false then
      discard (string false)
      colon
      ignore fuel
      ignoreMembers fuel false
    else skip

end

/-- Fails because of the type of the value that begins with a character.  Scalars are taken first
and brackets stay. -/
def failType {α : Type} (c : Char) (expected : String) : Reading α := placed do
  let wrong := fun (found : Found) => failLater (.wrongType found expected)
  let wrongNumber := fun n =>
    match n with
    | Number.integer value _ _ => wrong (.integer value)
    | .real x => wrong (.real x)
  if c = 'n' then do skip; word "ull".toList; wrong .nothing
  else if c = 't' then do skip; word "rue".toList; wrong (.flag true)
  else if c = 'f' then do skip; word "alse".toList; wrong (.flag false)
  else if c = '-' then do skip; wrongNumber (← number true true)
  else if c.isDigit then do wrongNumber (← number true false)
  else if c = '"' then do skip; wrong (.text (← string true))
  else if c = '[' then wrong .sequence
  else if c = '\x7b' then wrong .map
  else failNext .noValue

/-- The next character of a value, which must be there. -/
def beginValue : Reading Char := do
  match ← peekValue with
  | some c => return c
  | none => failNext .endInValue

/-- Enters a bracket at a depth that is not yet used up. -/
def enter (depth : Nat) : Reading Unit := do
  if depth ≤ 1 then failNext .tooDeep else skip

/-- Takes a text. -/
def text (expected : String) : Reading String := do
  let c ← beginValue
  if c = '"' then do skip; string true else failType c expected

/-- A result that was computed from what was read. -/
def lift {α : Type} (r : Except DecodeError α) : Reading α :=
  match r with
  | .ok v => pure v
  | .error e => failLater e

mutual

/-- Takes any value and keeps it. -/
def anything : Nat → Nat → Reading Json
  | 0, _ => failHere .endInValue
  | fuel + 1, depth => do
    match ← beginValue with
    | 'n' => do skip; word "ull".toList; return .null
    | 't' => do skip; word "rue".toList; return .bool true
    | 'f' => do skip; word "alse".toList; return .bool false
    | '-' => do skip; return .number (← number true true)
    | '"' => do skip; return .string (← string true)
    | '[' => do
      enter depth
      let items ← closedBy (anyItems fuel (depth - 1) true) endList
      return .array items
    | '\x7b' => do
      enter depth
      let members ← closedBy (anyMembers fuel (depth - 1) true) endObject
      return Json.ofMembers members
    | c => if c.isDigit then return .number (← number true false) else failNext .noValue

/-- Takes the rest of a sequence up to its close. -/
def anyItems : Nat → Nat → Bool → Reading (List Json)
  | 0, _, _ => failHere .endInList
  | fuel + 1, depth, first => do
    if ← hasNextItem first true then
      let v ← anything fuel depth
      return v :: (← anyItems fuel depth false)
    else return []

/-- Takes the rest of an object up to its close. -/
def anyMembers : Nat → Nat → Bool → Reading (List (String × Json))
  | 0, _, _ => failHere .endInObject
  | fuel + 1, depth, first => do
    if ← hasNextMember first true then
      let key ← string true
      colon
      let v ← anything fuel depth
      return (key, v) :: (← anyMembers fuel depth false)
    else return []

end

mutual

/-- Takes a value under a schema. -/
def value : Nat → Nat → Schema → Reading Json
  | 0, _, _ => failHere .endInValue
  | fuel + 1, depth, schema => do
    match schema with
    | .ignored => do ignore fuel; return .null
    | .anything => anything fuel depth
    | .text => return .string (← text schema.describe)
    | .flag => do
      match ← beginValue with
      | 't' => do skip; word "rue".toList; return .bool true
      | 'f' => do skip; word "alse".toList; return .bool false
      | c => failType c schema.describe
    | .integer name least greatest => placed do
      let c ← beginValue
      if c = '-' then do skip; lift (readInteger name least greatest (← number true true))
      else if c.isDigit then lift (readInteger name least greatest (← number true false))
      else failType c schema.describe
    | .constant expected => do lift (readConstant expected (← text schema.describe))
    | .choice words => do lift (readChoice words (← text schema.describe))
    | .instant => placed do lift (readInstant (← text schema.describe))
    | .optional s => do
      if (← peekValue) = some 'n' then do skip; word "ull".toList; return .null
      else value fuel depth s
    | .list s => placed do
      let c ← beginValue
      if c = '[' then do
        enter depth
        return .array (← closedBy (items fuel (depth - 1) s true) endList)
      else failType c schema.describe
    | .dictionary s => placed do
      let c ← beginValue
      if c = '\x7b' then do
        enter depth
        return Json.ofMembers (← closedBy (entries fuel (depth - 1) s true) endObject)
      else failType c schema.describe
    | .record form name fields => placed do
      let c ← beginValue
      if c = '\x7b' then do
        enter depth
        closedBy (record fuel (depth - 1) form fields) endObject
      else if c = '[' then do
        enter depth
        closedBy
          (match form with
          | .keyed | .entry => failLater (.wrongType .sequence schema.describe)
          | .positional => do
            let read ← positions fuel (depth - 1) (lengthExpectation name fields.count) fields 0
            return Json.ofMembers (← lift (fields.finish read)))
          endList
      else if c = 'n' ∧ form = .entry then do
        skip
        word "ull".toList
        return Json.ofMembers (← lift (fields.finish []))
      else failType c schema.describe

/-- Takes the values of a sequence. -/
def items : Nat → Nat → Schema → Bool → Reading (List Json)
  | 0, _, _, _ => failHere .endInList
  | fuel + 1, depth, schema, first => do
    if ← hasNextItem first true then
      let v ← value fuel depth schema
      return v :: (← items fuel depth schema false)
    else return []

/-- Takes values by arbitrary keys. -/
def entries : Nat → Nat → Schema → Bool → Reading (List (String × Json))
  | 0, _, _, _ => failHere .endInObject
  | fuel + 1, depth, schema, first => do
    if ← hasNextMember first true then
      let key ← string true
      colon
      let v ← value fuel depth schema
      return (key, v) :: (← entries fuel depth schema false)
    else return []

/-- Takes the fields of a record. -/
def record : Nat → Nat → Form → Fields → Reading Json
  | 0, _, _, _ => failHere .endInObject
  | fuel + 1, depth, form, known => do
    let read ← members fuel depth form known true []
    return Json.ofMembers (← lift (known.finish read))

/-- Takes the rest of a record's fields, given those read so far. -/
def members : Nat → Nat → Form → Fields → Bool → List (String × Json) →
    Reading (List (String × Json))
  | 0, _, _, _, _, _ => failHere .endInObject
  | fuel + 1, depth, form, known, first, read => do
    if ← hasNextMember first true then
      let key ← string true
      match known.schema? key with
      | none => do
        colon
        ignore fuel
        members fuel depth form known false read
      | some schema =>
        if form ≠ .keyed ∧ (read.lookup key).isSome then failLater (.duplicate key)
        else do
          colon
          let v ← value fuel depth schema
          members fuel depth form known false (read ++ [(key, v)])
    else return read

/-- Takes the fields of a record written as a sequence. -/
def positions : Nat → Nat → String → Fields → Nat → Reading (List (String × Json))
  | 0, _, _, _, _ => failHere .endInList
  | fuel + 1, depth, expectation, known, index => do
    match known with
    | .nil => return []
    | .cons name presence schema rest =>
      if ← hasNextItem (index == 0) true then
        let v ← value fuel depth schema
        return (name, v) :: (← positions fuel depth expectation rest (index + 1))
      else
        match presence with
        | .absent default =>
          if schema.isOptional then failLater (.wrongLength index expectation)
          else return (name, default) :: (← positions fuel depth expectation rest (index + 1))
        | .required => failLater (.wrongLength index expectation)

end

/-- Takes the end of the text. -/
def atEnd : Reading Unit := do
  match ← peekValue with
  | some _ => failNext .trailingCharacters
  | none => pure ()

end Reading

/-- How many brackets deep a document may be. -/
def documentDepth : Nat := 128

/-- The normal form of a JSON text under a schema, brackets being so deep at most. -/
def Schema.readText (depth : Nat) (schema : Schema) (text : String) : Except PlacedError Json :=
  let cs := text.toList
  let reader : Reading Json := do
    let v ← Reading.value (4 * cs.length + 16) depth schema
    Reading.atEnd
    return v
  match reader (Cursor.start cs) with
  | .ok v _ => .ok v
  | .error e _ => .error e

/-- The value of a JSON text of any depth. -/
def Json.parse (text : String) : Except PlacedError Json :=
  Schema.readText (text.length + 2) .anything text

end BackingServices
