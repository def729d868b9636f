import BackingServices.Binary64.Shortest
import BackingServices.DebugText

/-!
# JSON values

A number is an integer of the signed or unsigned 64-bit range or a finite
binary64 number.  The two kinds never meet: `1` and `1.0` are different values
and print differently.

The members of an object are a list.  The objects that this library reads or
builds have their keys in rising order without repetition, which `Json.KeysRise`
states and `Json.insert` keeps: a key given twice keeps its last value.  The
order of keys is that of their code points, which is also that of their UTF-8
bytes.
-/

namespace BackingServices

/-- A JSON number. -/
inductive Number where
  /-- An integer that fits 64 bits, signed or unsigned. -/
  | integer (value : Int) (lower : -9223372036854775808 ≤ value)
    (upper : value < 18446744073709551616)
  /-- A double. -/
  | real (value : Binary64)
deriving DecidableEq

namespace Number

/-- A natural below `2 ^ 64` as a number. -/
def ofNat (n : Nat) (h : n < 18446744073709551616) : Number :=
  .integer n (by omega) (by omega)

/-- An integer as a number, if it fits 64 bits. -/
def ofInt? (n : Int) : Option Number :=
  if h : -9223372036854775808 ≤ n ∧ n < 18446744073709551616 then some (.integer n h.1 h.2) else none

instance : Inhabited Number := ⟨.integer 0 (by decide) (by decide)⟩

/-- How JSON and diagnostics lay out a double. -/
def layout : Decimal.Layout := ⟨-5, 15, "+"⟩

/-- The JSON text of a number. -/
def text : Number → String
  | .integer n _ _ => String.ofList (integerText n)
  | .real x => String.ofList (x.text layout)

end Number

/-- A JSON value. -/
inductive Json where
  /-- The value `null`. -/
  | null
  /-- A truth value. -/
  | bool (value : Bool)
  /-- A number. -/
  | number (value : Number)
  /-- A text. -/
  | string (value : String)
  /-- A sequence of values. -/
  | array (items : List Json)
  /-- Values by key. -/
  | object (members : List (String × Json))
deriving Inhabited

namespace Json

/-! ## Equality -/

mutual

/-- Whether two values are the same. -/
def beq : Json → Json → Bool
  | .null, .null => true
  | .bool a, .bool b => a == b
  | .number a, .number b => a == b
  | .string a, .string b => a == b
  | .array as, .array bs => beqItems as bs
  | .object as, .object bs => beqMembers as bs
  | _, _ => false

/-- Whether two sequences are the same. -/
def beqItems : List Json → List Json → Bool
  | [], [] => true
  | a :: as, b :: bs => beq a b && beqItems as bs
  | _, _ => false

/-- Whether two lists of members are the same. -/
def beqMembers : List (String × Json) → List (String × Json) → Bool
  | [], [] => true
  | (k, a) :: as, (l, b) :: bs => k == l && beq a b && beqMembers as bs
  | _, _ => false

end

mutual

theorem eq_of_beq : ∀ {a b : Json}, beq a b = true → a = b
  | .null, .null, _ => rfl
  | .bool _, .bool _, h => by simp [beq] at h; rw [h]
  | .number _, .number _, h => by simp [beq] at h; rw [h]
  | .string _, .string _, h => by simp [beq] at h; rw [h]
  | .array _, .array _, h => by simp only [beq] at h; rw [eq_of_beqItems h]
  | .object _, .object _, h => by simp only [beq] at h; rw [eq_of_beqMembers h]
  | .null, .bool _, h | .null, .number _, h | .null, .string _, h | .null, .array _, h
  | .null, .object _, h | .bool _, .null, h | .bool _, .number _, h | .bool _, .string _, h
  | .bool _, .array _, h | .bool _, .object _, h | .number _, .null, h | .number _, .bool _, h
  | .number _, .string _, h | .number _, .array _, h | .number _, .object _, h
  | .string _, .null, h | .string _, .bool _, h | .string _, .number _, h | .string _, .array _, h
  | .string _, .object _, h | .array _, .null, h | .array _, .bool _, h | .array _, .number _, h
  | .array _, .string _, h | .array _, .object _, h | .object _, .null, h | .object _, .bool _, h
  | .object _, .number _, h | .object _, .string _, h | .object _, .array _, h => by
    simp [beq] at h

theorem eq_of_beqItems : ∀ {as bs : List Json}, beqItems as bs = true → as = bs
  | [], [], _ => rfl
  | a :: as, b :: bs, h => by
    simp only [beqItems, Bool.and_eq_true] at h
    rw [eq_of_beq h.1, eq_of_beqItems h.2]
  | [], _ :: _, h | _ :: _, [], h => by simp [beqItems] at h

theorem eq_of_beqMembers : ∀ {as bs : List (String × Json)}, beqMembers as bs = true → as = bs
  | [], [], _ => rfl
  | (k, a) :: as, (l, b) :: bs, h => by
    simp only [beqMembers, Bool.and_eq_true, beq_iff_eq] at h
    rw [h.1.1, eq_of_beq h.1.2, eq_of_beqMembers h.2]
  | [], _ :: _, h | _ :: _, [], h => by simp [beqMembers] at h

end

mutual

theorem beq_self : ∀ a : Json, beq a a = true
  | .null => rfl
  | .bool _ => by simp [beq]
  | .number _ => by simp [beq]
  | .string _ => by simp [beq]
  | .array items => by simp only [beq]; exact beqItems_self items
  | .object members => by simp only [beq]; exact beqMembers_self members

theorem beqItems_self : ∀ as : List Json, beqItems as as = true
  | [] => rfl
  | a :: as => by simp [beqItems, beq_self a, beqItems_self as]

theorem beqMembers_self : ∀ as : List (String × Json), beqMembers as as = true
  | [] => rfl
  | (_, a) :: as => by simp [beqMembers, beq_self a, beqMembers_self as]

end

instance : DecidableEq Json := fun a b =>
  if h : beq a b = true then isTrue (eq_of_beq h)
  else isFalse fun e => h (e ▸ beq_self a)

/-! ## Objects -/

/-- A member put among members in rising order of keys, replacing the value of an equal key. -/
def insert (key : String) (value : Json) : List (String × Json) → List (String × Json)
  | [] => [(key, value)]
  | (k, v) :: rest =>
    if key = k then (key, value) :: rest
    else if key < k then (key, value) :: (k, v) :: rest
    else (k, v) :: insert key value rest

/-- The object of some members, of which the last of a key wins. -/
def ofMembers (members : List (String × Json)) : Json :=
  .object (members.foldl (fun acc (k, v) => insert k v acc) [])

/-- The value of a key, if the value is an object that has it. -/
def get? (key : String) : Json → Option Json
  | .object members => members.lookup key
  | _ => none

/-- The text of a string value. -/
def text? : Json → Option String
  | .string s => some s
  | _ => none

/-- Whether the members have their keys in rising order. -/
def KeysRise (members : List (String × Json)) : Prop :=
  (members.map Prod.fst).Pairwise (· < ·)

/-! ## Diagnostic text -/

mutual

/-- The diagnostic text of a value. -/
def debug : Json → DebugText
  | .null => .leaf "Null"
  | .bool b => .leaf (if b then "Bool(true)" else "Bool(false)")
  | .number n => .leaf ("Number(" ++ n.text ++ ")")
  | .string s => .leaf ("String(" ++ Text.quoted s ++ ")")
  | .array items => .sequence "Array " (debugItems items)
  | .object members => .map "Object " (debugMembers members)

/-- The diagnostic texts of a sequence. -/
def debugItems : List Json → List DebugText
  | [] => []
  | v :: vs => debug v :: debugItems vs

/-- The diagnostic texts of members. -/
def debugMembers : List (String × Json) → List (String × DebugText)
  | [] => []
  | (k, v) :: ms => (k, debug v) :: debugMembers ms

end

end Json

end BackingServices
