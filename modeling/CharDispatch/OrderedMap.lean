/-!
# Maps in insertion order

A finite map with text keys that remembers the order in which its keys came.
Every key occurs once; writing to a key that is already there keeps its place.

* `OrderedMap.get?_insert`: an insertion changes the value at its key only.
* `OrderedMap.keys_insert`: the keys stay as they are, or a new one comes last.
-/

namespace CharDispatch

/-- A map from text to `β` in the order of first insertion. -/
structure OrderedMap (β : Type) where
  toList : List (String × β)
  distinct : (toList.map Prod.fst).Nodup

namespace OrderedMap

variable {β : Type}

@[ext] theorem ext {m n : OrderedMap β} (same : m.toList = n.toList) : m = n := by
  cases m; cases n; cases same; rfl

instance [DecidableEq β] : DecidableEq (OrderedMap β) := fun m n =>
  decidable_of_iff (m.toList = n.toList) ⟨ext, fun same => same ▸ rfl⟩

/-- The map without entries. -/
def empty : OrderedMap β := ⟨[], List.nodup_nil⟩

/-- The keys in the order they came. -/
def keys (m : OrderedMap β) : List String := m.toList.map Prod.fst

/-- The number of entries. -/
def size (m : OrderedMap β) : Nat := m.toList.length

/-- Whether there is no entry. -/
def isEmpty (m : OrderedMap β) : Bool := m.toList.isEmpty

/-- The value at a key. -/
def get? (m : OrderedMap β) (key : String) : Option β := m.toList.lookup key

/-- Puts `value` in the place of the value that `key` has in a list of entries,
or behind the last entry. -/
def place (key : String) (value : β) : List (String × β) → List (String × β)
  | [] => [(key, value)]
  | entry :: rest =>
    if entry.1 = key then (key, value) :: rest else entry :: place key value rest

theorem keys_place (key : String) (value : β) (entries : List (String × β)) :
    (place key value entries).map Prod.fst =
      if key ∈ entries.map Prod.fst then entries.map Prod.fst
      else entries.map Prod.fst ++ [key] := by
  induction entries with
  | nil => rfl
  | cons entry rest ih =>
    by_cases same : entry.1 = key
    · simp [place, same]
    · have other : key ≠ entry.1 := fun eq => same eq.symm
      simp only [place, same, if_false, List.map_cons, ih, List.mem_cons, other, false_or]
      split <;> rfl

theorem lookup_place (key other : String) (value : β) (entries : List (String × β)) :
    (place key value entries).lookup other =
      if other = key then some value else entries.lookup other := by
  induction entries with
  | nil =>
    by_cases eq : other = key
    · simp [place, eq]
    · have differ : (other == key) = false := beq_eq_false_iff_ne.2 eq
      simp [place, List.lookup_cons, eq, differ]
  | cons entry rest ih =>
    obtain ⟨first, old⟩ := entry
    by_cases same : first = key
    · subst same
      by_cases eq : other = first
      · simp [place, eq]
      · have differ : (other == first) = false := beq_eq_false_iff_ne.2 eq
        simp [place, List.lookup_cons, eq, differ]
    · by_cases eq : other = first
      · subst eq; simp [place, same]
      · have differ : (other == first) = false := beq_eq_false_iff_ne.2 eq
        simp only [place, same, if_false, List.lookup_cons, differ, ih]

/-- Writes `value` at `key`: in its place if the key is there, else at the end. -/
def insert (m : OrderedMap β) (key : String) (value : β) : OrderedMap β where
  toList := place key value m.toList
  distinct := by
    rw [keys_place]
    split
    · exact m.distinct
    · next absent =>
      exact List.nodup_append.2
        ⟨m.distinct, by simp, by rintro a old b new rfl; simp_all⟩

/-- The map that results from writing the entries from left to right. -/
def ofList (entries : List (String × β)) : OrderedMap β :=
  entries.foldl (fun m entry => m.insert entry.1 entry.2) empty

/-- An insertion changes the value at its key only. -/
theorem get?_insert (m : OrderedMap β) (key other : String) (value : β) :
    (m.insert key value).get? other = if other = key then some value else m.get? other :=
  lookup_place key other value m.toList

/-- A key that is already there keeps its place, and a new one comes last. -/
theorem keys_insert (m : OrderedMap β) (key : String) (value : β) :
    (m.insert key value).keys = if key ∈ m.keys then m.keys else m.keys ++ [key] :=
  keys_place key value m.toList

end OrderedMap

end CharDispatch
