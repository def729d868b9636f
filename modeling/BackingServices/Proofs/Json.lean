import BackingServices.Json.Basic

/-!
# Properties of JSON values

A property of all values holds if it passes from the elements of a sequence to the
sequence and from the values of a mapping's members to the mapping (`Json.induct`).

Two properties matter to those who read a value back: that no object has a key twice
(`KeysDistinct`), as it is where keys rise, and how deep the value is nested (`nesting`).
-/

namespace BackingServices.Json

/-- Induction over a value: the elements of a sequence and the values of the members of a mapping come
before it. -/
@[elab_as_elim]
theorem induct {P : Json → Prop} (null : P .null) (bool : ∀ b, P (.bool b))
    (number : ∀ n, P (.number n)) (string : ∀ s, P (.string s))
    (array : ∀ vs, (∀ v ∈ vs, P v) → P (.array vs))
    (object : ∀ ms, (∀ m ∈ ms, P m.2) → P (.object ms)) (v : Json) : P v := by
  cases v with
  | null => exact null
  | bool b => exact bool b
  | number n => exact number n
  | string s => exact string s
  | array vs => exact array vs fun w _ => induct null bool number string array object w
  | object ms =>
    refine object ms fun m hm => ?_
    have : sizeOf m.2 < sizeOf ms := by
      have := List.sizeOf_lt_of_mem hm
      cases m
      simp only [Prod.mk.sizeOf_spec] at this
      simp only
      omega
    exact induct null bool number string array object m.2
termination_by sizeOf v

/-! ## Keys -/

mutual

/-- No object in the value has a key twice. -/
def KeysDistinct : Json → Prop
  | .array items => KeysDistinctItems items
  | .object members => (members.map Prod.fst).Nodup ∧ KeysDistinctMembers members
  | _ => True

/-- So it is in every value of a sequence. -/
def KeysDistinctItems : List Json → Prop
  | [] => True
  | v :: vs => KeysDistinct v ∧ KeysDistinctItems vs

/-- So it is in every value of some members. -/
def KeysDistinctMembers : List (String × Json) → Prop
  | [] => True
  | (_, v) :: ms => KeysDistinct v ∧ KeysDistinctMembers ms

end

theorem KeysDistinctItems.of_mem {vs : List Json} (h : KeysDistinctItems vs) {v : Json} (hv : v ∈ vs) :
    KeysDistinct v := by
  induction vs with
  | nil => contradiction
  | cons w vs ih =>
    rcases List.mem_cons.mp hv with rfl | hv
    · exact h.1
    · exact ih h.2 hv

theorem KeysDistinctMembers.of_mem {ms : List (String × Json)} (h : KeysDistinctMembers ms)
    {m : String × Json} (hm : m ∈ ms) : KeysDistinct m.2 := by
  induction ms with
  | nil => contradiction
  | cons n ms ih =>
    rcases List.mem_cons.mp hm with rfl | hm
    · exact h.1
    · exact ih h.2 hm

/-- Keys that rise are distinct. -/
theorem nodup_of_keysRise {ms : List (String × Json)} (h : KeysRise ms) : (ms.map Prod.fst).Nodup := by
  refine List.Pairwise.imp (fun hlt heq => ?_) h
  subst heq
  exact String.lt_irrefl _ hlt

/-! ## Depth -/

mutual

/-- How deep the collections in a value are nested. -/
def nesting : Json → Nat
  | .array items => nestingItems items + 1
  | .object members => nestingMembers members + 1
  | _ => 0

/-- How deep the values of a sequence are nested. -/
def nestingItems : List Json → Nat
  | [] => 0
  | v :: vs => max (nesting v) (nestingItems vs)

/-- How deep the values of some members are nested. -/
def nestingMembers : List (String × Json) → Nat
  | [] => 0
  | (_, v) :: ms => max (nesting v) (nestingMembers ms)

end

/-- A value inside so many sequences, each the only element of the next. -/
def enclosed (v : Json) : Nat → Json
  | 0 => v
  | n + 1 => .array [enclosed v n]

@[simp] theorem nesting_enclosed (v : Json) (n : Nat) : (v.enclosed n).nesting = v.nesting + n := by
  induction n with
  | zero => rfl
  | succ n ih =>
    rw [enclosed, nesting, nestingItems, nestingItems, ih, Nat.max_zero]
    rfl

@[simp] theorem keysDistinct_enclosed (v : Json) (n : Nat) :
    (v.enclosed n).KeysDistinct ↔ v.KeysDistinct := by
  induction n with
  | zero => exact Iff.rfl
  | succ n ih => simp only [enclosed, KeysDistinct, KeysDistinctItems, ih, and_true]

end BackingServices.Json
