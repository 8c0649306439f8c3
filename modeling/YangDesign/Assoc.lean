/-
Finite maps that remember the order in which their keys came.

`insert` overwrites the value of a known key in place and appends a new key at the end, so `keys` is the order of first
insertion. `find?_insert` says what a look-up sees after an insertion, `keys_insert` where the key stands. Where another order
is shown, `Text.sortOn` sorts by texts.
-/

namespace YangDesign

/-- pairs in order of first insertion -/
structure Assoc (α β : Type) where
  toList : List (α × β) := []
  deriving Repr, DecidableEq

namespace Assoc

variable {α β : Type} [DecidableEq α]

/-- the value of a key in a list of pairs -/
def findIn (k : α) : List (α × β) → Option β
  | [] => none
  | (k', v) :: ps => if k' = k then some v else findIn k ps

/-- a list of pairs with a value for a key, in place for a known key and at the end for a new one -/
def insertIn (k : α) (v : β) : List (α × β) → List (α × β)
  | [] => [(k, v)]
  | (k', v') :: ps => if k' = k then (k, v) :: ps else (k', v') :: insertIn k v ps

/-- no pairs -/
def empty : Assoc α β := ⟨[]⟩

instance : Inhabited (Assoc α β) := ⟨⟨[]⟩⟩

/-- the value of a key -/
def find? (m : Assoc α β) (k : α) : Option β :=
  findIn k m.toList

/-- whether a key has a value -/
def contains (m : Assoc α β) (k : α) : Bool :=
  (m.find? k).isSome

/-- a value for a key: in place for a known key, at the end for a new one -/
def insert (m : Assoc α β) (k : α) (v : β) : Assoc α β :=
  ⟨insertIn k v m.toList⟩

/-- the keys in order of first insertion -/
def keys (m : Assoc α β) : List α :=
  m.toList.map (·.1)

/-- number of keys -/
def size (m : Assoc α β) : Nat :=
  m.toList.length

/-- all pairs inserted in order -/
def ofList (ps : List (α × β)) : Assoc α β :=
  ps.foldl (fun m p => m.insert p.1 p.2) empty

theorem findIn_insertIn (k k' : α) (v : β) (ps : List (α × β)) :
    findIn k' (insertIn k v ps) = if k = k' then some v else findIn k' ps := by
  induction ps with
  | nil => simp [insertIn, findIn]
  | cons p ps ih =>
    obtain ⟨a, b⟩ := p
    by_cases ha : a = k
    · by_cases hk : k = k' <;> simp [insertIn, findIn, ha, hk]
    · by_cases hk : k = k'
      · subst hk; simp [insertIn, findIn, ha, ih]
      · simp [insertIn, findIn, ha, hk, ih]

theorem findIn_eq_none_iff (k : α) (ps : List (α × β)) : findIn k ps = none ↔ k ∉ ps.map (·.1) := by
  induction ps with
  | nil => simp [findIn]
  | cons p ps ih =>
    obtain ⟨a, b⟩ := p
    by_cases ha : a = k
    · simp [findIn, ha]
    · have hk : ¬ k = a := fun e => ha e.symm
      simp only [findIn, ha, if_false, ih, List.map_cons, List.mem_cons, hk, false_or]

theorem mem_of_findIn {k : α} {v : β} {ps : List (α × β)} (h : findIn k ps = some v) : (k, v) ∈ ps := by
  induction ps with
  | nil => cases h
  | cons p ps ih =>
    obtain ⟨a, b⟩ := p
    unfold findIn at h
    split at h
    · rename_i ha
      cases h
      rw [ha]
      exact List.mem_cons_self
    · exact List.mem_cons_of_mem _ (ih h)

theorem map_fst_insertIn (k : α) (v : β) (ps : List (α × β)) :
    (insertIn k v ps).map (·.1) = if k ∈ ps.map (·.1) then ps.map (·.1) else ps.map (·.1) ++ [k] := by
  induction ps with
  | nil => simp [insertIn]
  | cons p ps ih =>
    obtain ⟨a, b⟩ := p
    by_cases ha : a = k
    · subst ha; simp [insertIn]
    · have hk : ¬ k = a := fun e => ha e.symm
      simp only [insertIn, ha, if_false, List.map_cons, ih, List.mem_cons, hk, false_or]
      split <;> simp

/-- after an insertion the key has the new value and every other key its old one -/
theorem find?_insert (m : Assoc α β) (k k' : α) (v : β) :
    (m.insert k v).find? k' = if k = k' then some v else m.find? k' :=
  findIn_insertIn k k' v m.toList

/-- a key has no value exactly if it is not among the keys -/
theorem find?_eq_none_iff (m : Assoc α β) (k : α) : m.find? k = none ↔ k ∉ m.keys :=
  findIn_eq_none_iff k m.toList

/-- the keys are those that have a value -/
theorem mem_keys_iff (m : Assoc α β) (k : α) : k ∈ m.keys ↔ (m.find? k).isSome := by
  rw [← Option.ne_none_iff_isSome, Ne, find?_eq_none_iff, Decidable.not_not]

omit [DecidableEq α] in
theorem length_keys (m : Assoc α β) : m.keys.length = m.size :=
  List.length_map _

/-- a value that is found is in the map -/
theorem mem_of_find? {m : Assoc α β} {k : α} {v : β} (h : m.find? k = some v) : (k, v) ∈ m.toList :=
  mem_of_findIn h

/-- a new key goes to the end, a known one keeps its place -/
theorem keys_insert (m : Assoc α β) (k : α) (v : β) :
    (m.insert k v).keys = if k ∈ m.keys then m.keys else m.keys ++ [k] :=
  map_fst_insertIn k v m.toList

/-- all pairs inserted in order into a map: the last value of a key counts, and after those of the list that of the map -/
theorem find?_foldl_insert (ps : List (α × β)) (m : Assoc α β) (k : α) :
    (ps.foldl (fun m p => m.insert p.1 p.2) m).find? k =
      ((ps.reverse.find? fun p => p.1 = k).map (·.2)).or (m.find? k) := by
  induction ps generalizing m with
  | nil => simp
  | cons p ps ih =>
    rw [List.foldl_cons, ih, List.reverse_cons, List.find?_append, find?_insert]
    cases ps.reverse.find? fun p => p.1 = k <;> by_cases h : p.1 = k <;> simp [h]

/-- the value of a key in a list of pairs is the last one -/
theorem find?_ofList (ps : List (α × β)) (k : α) :
    (ofList ps).find? k = (ps.reverse.find? fun p => p.1 = k).map (·.2) := by
  rw [ofList, find?_foldl_insert]
  simp [find?, empty, findIn]

theorem mem_of_find?_ofList {ps : List (α × β)} {k : α} {v : β} (h : (ofList ps).find? k = some v) : (k, v) ∈ ps := by
  rw [find?_ofList, Option.map_eq_some_iff] at h
  obtain ⟨p, hp, rfl⟩ := h
  have hk : p.1 = k := by simpa using List.find?_some hp
  rw [← hk]
  exact List.mem_reverse.1 (List.mem_of_find?_eq_some hp)

theorem find?_ofList_isSome {ps : List (α × β)} {p : α × β} (h : p ∈ ps) : ((ofList ps).find? p.1).isSome := by
  rw [find?_ofList, Option.isSome_map, List.find?_isSome]
  exact ⟨p, List.mem_reverse.2 h, by simp⟩

end Assoc

namespace Text

/-- items sorted by a text, equal ones in the order given -/
def sortOn {α : Type} (key : α → String) (xs : List α) : List α :=
  xs.mergeSort fun a b => !(key b < key a)

end Text

end YangDesign
