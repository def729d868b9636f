import BackingServices.Json.Schema
import BackingServices.Proofs.Json

/-!
# The members of objects

An object that is built from members, one after the other, has its keys in rising order, and for each
key the last value that was given (`Json.get?_ofMembers`).  Members that already are in rising order are
an object as they are (`Json.ofMembers_of_keysRise`).
-/

namespace BackingServices

/-! ## The last value of a key -/

section
variable {key : String} {ms ns : List (String × Json)}

/-- Of two lists the last read of the second one counts. -/
theorem lastRead?_append (key : String) (ms ns : List (String × Json)) :
    lastRead? key (ms ++ ns) = (lastRead? key ns).or (lastRead? key ms) := by
  induction ms with
  | nil => rw [List.nil_append, lastRead?, Option.or_none]
  | cons m ms ih => rw [List.cons_append, lastRead?, lastRead?, ih, Option.or_assoc]

theorem lastRead?_eq_none (h : key ∉ ms.map Prod.fst) : lastRead? key ms = none := by
  induction ms with
  | nil => rfl
  | cons m ms ih =>
    rw [List.map_cons, List.mem_cons, not_or] at h
    rw [lastRead?, ih h.2, if_neg (Ne.symm h.1), Option.or_none]

/-- Of distinct keys each has one value. -/
theorem lastRead?_eq_lookup (h : (ms.map Prod.fst).Nodup) (key : String) :
    lastRead? key ms = ms.lookup key := by
  induction ms with
  | nil => rfl
  | cons m ms ih =>
    obtain ⟨hm, hms⟩ := List.nodup_cons.mp h
    rw [lastRead?, List.lookup_cons, ← ih hms]
    by_cases hkey : m.1 = key
    · subst hkey
      rw [if_pos rfl, lastRead?_eq_none hm, Option.none_or, beq_self_eq_true]
    · rw [if_neg hkey, Option.or_none, beq_eq_false_iff_ne.mpr (Ne.symm hkey)]

theorem lastRead?_isSome (h : key ∈ ms.map Prod.fst) :
    (lastRead? key ms).isSome := by
  induction ms with
  | nil => contradiction
  | cons m ms ih =>
    rw [lastRead?, Option.isSome_or, Bool.or_eq_true]
    rcases List.mem_cons.mp h with rfl | h
    · exact .inr (by rw [if_pos rfl]; rfl)
    · exact .inl (ih h)

theorem lastRead?_mem {v : Json} (h : lastRead? key ms = some v) : (key, v) ∈ ms := by
  induction ms with
  | nil => contradiction
  | cons m ms ih =>
    rw [lastRead?, Option.or_eq_some_iff] at h
    rcases h with h | ⟨-, h⟩
    · exact List.mem_cons_of_mem m (ih h)
    · split at h
      next hkey =>
        obtain rfl := Option.some.inj h
        subst hkey
        exact List.mem_cons_self
      next => contradiction

end

/-! ## One more member -/

namespace Json

variable {key : String} {v : Json} {ms : List (String × Json)}

theorem lookup_cons (l : String) (w : Json) (ms : List (String × Json)) (k : String) :
    ((l, w) :: ms).lookup k = if k = l then some w else ms.lookup k := by
  rw [List.lookup_cons]
  by_cases h : k = l
  · rw [if_pos h, beq_iff_eq.mpr h]
  · rw [if_neg h, beq_eq_false_iff_ne.mpr h]

theorem lookup_insert (key : String) (v : Json) (ms : List (String × Json)) (k : String) :
    (insert key v ms).lookup k = if k = key then some v else ms.lookup k := by
  induction ms with
  | nil => rw [insert, lookup_cons]
  | cons m ms ih =>
    obtain ⟨l, w⟩ := m
    rw [insert]
    by_cases hsame : key = l
    · rw [if_pos hsame, lookup_cons, lookup_cons, ← hsame]
      split <;> rfl
    · rw [if_neg hsame]
      by_cases hbefore : key < l
      · rw [if_pos hbefore, lookup_cons]
      · rw [if_neg hbefore, lookup_cons, ih, lookup_cons]
        by_cases h : k = key
        · have hother : k ≠ l := h ▸ hsame
          simp only [if_neg hother]
        · rw [if_neg h, if_neg h]

theorem mem_insert {m : String × Json} (h : m ∈ insert key v ms) : m = (key, v) ∨ m ∈ ms := by
  induction ms with
  | nil => exact .inl (List.mem_singleton.mp h)
  | cons n ms ih =>
    rw [insert] at h
    split at h
    · rcases List.mem_cons.mp h with h | h
      · exact .inl h
      · exact .inr (.tail _ h)
    · split at h
      · rcases List.mem_cons.mp h with h | h
        · exact .inl h
        · exact .inr h
      · rcases List.mem_cons.mp h with rfl | h
        · exact .inr (.head _)
        · exact (ih h).imp_right (.tail _)

theorem keysRise_nil : KeysRise [] := List.Pairwise.nil

/-- Keys that rise still do with one more. -/
theorem keysRise_insert (key : String) (v : Json) (h : KeysRise ms) : KeysRise (insert key v ms) := by
  induction ms with
  | nil => exact List.pairwise_singleton _ _
  | cons m ms ih =>
    obtain ⟨l, w⟩ := m
    obtain ⟨hleast, hrest⟩ := List.pairwise_cons.mp h
    rw [insert]
    by_cases hsame : key = l
    · subst hsame
      rw [if_pos rfl]
      exact h
    · rw [if_neg hsame]
      by_cases hbefore : key < l
      · rw [if_pos hbefore]
        refine List.pairwise_cons.mpr ⟨fun k hk => ?_, h⟩
        rcases List.mem_cons.mp hk with rfl | hk
        · exact hbefore
        · exact String.lt_trans hbefore (hleast k hk)
      · rw [if_neg hbefore]
        have hafter : l < key := String.not_le.mp fun hle =>
          hsame (String.le_antisymm hle (String.not_lt.mp hbefore))
        refine List.pairwise_cons.mpr ⟨fun k hk => ?_, ih hrest⟩
        obtain ⟨m, hm, rfl⟩ := List.mem_map.mp hk
        rcases mem_insert hm with rfl | hm
        · exact hafter
        · exact hleast m.1 (List.mem_map_of_mem hm)

/-- A key behind all others is put at the end. -/
theorem insert_of_forall_lt (h : ∀ m ∈ ms, m.1 < key) : insert key v ms = ms ++ [(key, v)] := by
  induction ms with
  | nil => rfl
  | cons m ms ih =>
    have hbefore : m.1 < key := h m List.mem_cons_self
    have hne : key ≠ m.1 := fun heq => String.lt_irrefl _ (heq ▸ hbefore)
    rw [insert, if_neg hne, if_neg (String.lt_asymm hbefore), List.cons_append,
      ih fun n hn => h n (List.mem_cons_of_mem m hn)]

/-! ## Objects of members -/

/-- Members put into an object one after the other. -/
def insertAll (acc ms : List (String × Json)) : List (String × Json) :=
  ms.foldl (fun acc (k, v) => insert k v acc) acc

theorem ofMembers_eq (ms : List (String × Json)) : ofMembers ms = .object (insertAll [] ms) := rfl

theorem lookup_insertAll (acc ms : List (String × Json)) (key : String) :
    (insertAll acc ms).lookup key = (lastRead? key ms).or (acc.lookup key) := by
  induction ms generalizing acc with
  | nil => rfl
  | cons m ms ih =>
    obtain ⟨k, v⟩ := m
    rw [insertAll, List.foldl_cons, ← insertAll, ih, lookup_insert, lastRead?, Option.or_assoc]
    by_cases h : key = k
    · rw [if_pos h, if_pos h.symm, Option.some_or]
    · rw [if_neg h, if_neg (Ne.symm h), Option.none_or]

/-- The last value of a key counts. -/
theorem get?_ofMembers (key : String) (ms : List (String × Json)) :
    (ofMembers ms).get? key = lastRead? key ms := by
  rw [ofMembers_eq, get?, lookup_insertAll, List.lookup_nil, Option.or_none]

theorem mem_insertAll {acc ms : List (String × Json)} {m : String × Json} (h : m ∈ insertAll acc ms) :
    m ∈ acc ∨ m ∈ ms := by
  induction ms generalizing acc with
  | nil => exact .inl h
  | cons n ms ih =>
    rw [insertAll, List.foldl_cons, ← insertAll] at h
    rcases ih h with h | h
    · rcases mem_insert h with rfl | h
      · exact .inr (.head _)
      · exact .inl h
    · exact .inr (.tail _ h)

theorem keysRise_insertAll {acc : List (String × Json)} (h : KeysRise acc)
    (ms : List (String × Json)) : KeysRise (insertAll acc ms) := by
  induction ms generalizing acc with
  | nil => exact h
  | cons m ms ih => exact ih (keysRise_insert m.1 m.2 h)

theorem insertAll_of_keysRise {acc ms : List (String × Json)} (h : KeysRise (acc ++ ms)) :
    insertAll acc ms = acc ++ ms := by
  induction ms generalizing acc with
  | nil => exact (List.append_nil acc).symm
  | cons m ms ih =>
    have hlast : ∀ n ∈ acc, n.1 < m.1 := by
      intro n hn
      rw [KeysRise, List.map_append, List.pairwise_append] at h
      exact h.2.2 n.1 (List.mem_map_of_mem hn) m.1 (by simp)
    have hcons : acc ++ m :: ms = acc ++ [m] ++ ms := by rw [List.append_assoc, List.singleton_append]
    have hfirst : insert m.1 m.2 acc = acc ++ [m] := insert_of_forall_lt hlast
    rw [hcons] at h ⊢
    rw [← ih h, ← hfirst]
    rfl

/-- Members in order are an object as they are. -/
theorem ofMembers_of_keysRise (h : KeysRise ms) : ofMembers ms = .object ms := by
  have hall : insertAll [] ms = [] ++ ms := insertAll_of_keysRise h
  rw [ofMembers_eq, hall, List.nil_append]

end Json

end BackingServices
