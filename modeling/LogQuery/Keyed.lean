/-!
# Keyed — values under text keys, in the order of the keys

* `get?_insert`, `get?_erase`: a write is seen under its own key and nowhere else.
* `mem_insertOrdered`: adding to an ordered list of distinct values adds exactly the new value.
-/

namespace LogQuery

/-- Values under text keys. Insertion keeps the keys in increasing order. -/
structure Keyed (α : Type) where
  entries : List (String × α) := []

namespace Keyed

variable {α : Type}

/-- No keys at all. -/
def empty : Keyed α := ⟨[]⟩

/-- The value of the first entry under `key`. -/
def find (key : String) : List (String × α) → Option α
  | [] => none
  | (k, value) :: rest => if k = key then some value else find key rest

/-- Put `value` under `key`, before the first greater key; an equal key is replaced. -/
def place (key : String) (value : α) : List (String × α) → List (String × α)
  | [] => [(key, value)]
  | (k, old) :: rest =>
    if key < k then (key, value) :: (k, old) :: rest
    else if k = key then (key, value) :: rest
    else (k, old) :: place key value rest

/-- The value stored under `key`. -/
def get? (m : Keyed α) (key : String) : Option α := find key m.entries

/-- Store `value` under `key`, in place of an earlier value. -/
def insert (m : Keyed α) (key : String) (value : α) : Keyed α := ⟨place key value m.entries⟩

/-- Drop what is stored under `key`. -/
def erase (m : Keyed α) (key : String) : Keyed α := ⟨m.entries.filter fun entry => entry.1 ≠ key⟩

/-- Whether something is stored under `key`. -/
def contains (m : Keyed α) (key : String) : Bool := (m.get? key).isSome

/-- The keys in order. -/
def keys (m : Keyed α) : List String := m.entries.map (·.1)

/-- The values in the order of their keys. -/
def values (m : Keyed α) : List α := m.entries.map (·.2)

/-- The number of keys. -/
def size (m : Keyed α) : Nat := m.entries.length

/-- All pairs, a later one replacing an earlier one with the same key. -/
def ofList (pairs : List (String × α)) : Keyed α :=
  pairs.foldl (fun m (key, value) => m.insert key value) empty

@[simp] theorem get?_empty (key : String) : (empty : Keyed α).get? key = none := rfl

theorem find_place (key other : String) (value : α) (entries : List (String × α)) :
    find other (place key value entries) =
      if key = other then some value else find other entries := by
  induction entries with
  | nil => simp [place, find]
  | cons entry rest ih =>
    obtain ⟨k, old⟩ := entry
    simp only [place]
    split
    · simp [find]
    · split
      · subst_vars; by_cases h : k = other <;> simp [find, h]
      · rename_i hne
        simp only [find, ih]
        by_cases h : k = other
        · subst h
          have hkey : key ≠ k := fun e => hne e.symm
          simp [hkey]
        · simp [h]

theorem get?_insert (m : Keyed α) (key other : String) (value : α) :
    (m.insert key value).get? other = if key = other then some value else m.get? other :=
  find_place key other value m.entries

theorem find_filter (key other : String) (entries : List (String × α)) :
    find other (entries.filter fun entry => entry.1 ≠ key) =
      if key = other then none else find other entries := by
  induction entries with
  | nil => simp [find]
  | cons entry rest ih =>
    obtain ⟨k, value⟩ := entry
    by_cases hk : k = key
    · subst hk; by_cases h : k = other <;> simp_all [find]
    · rw [List.filter_cons_of_pos (by simpa using hk)]
      by_cases h : k = other
      · subst h; simp [find, Ne.symm hk]
      · simpa [find, h] using ih

theorem get?_erase (m : Keyed α) (key other : String) :
    (m.erase key).get? other = if key = other then none else m.get? other :=
  find_filter key other m.entries

end Keyed

section

variable {α : Type} [LT α] [DecidableLT α] [DecidableEq α]

/-- Add a value to an increasing list of distinct values. -/
def insertOrdered (a : α) : List α → List α
  | [] => [a]
  | b :: rest =>
    if a < b then a :: b :: rest
    else if b = a then b :: rest
    else b :: insertOrdered a rest

theorem mem_insertOrdered {a b : α} {set : List α} : b ∈ insertOrdered a set ↔ b = a ∨ b ∈ set := by
  induction set with
  | nil => simp [insertOrdered]
  | cons c rest ih =>
    simp only [insertOrdered]
    split
    · simp
    · split
      · subst_vars; simp
      · simp only [List.mem_cons, ih]; exact or_left_comm

end

/-- Add a text to an increasing list of distinct texts. -/
abbrev insertText (t : String) (set : List String) : List String := insertOrdered t set

theorem mem_insertText {t u : String} {set : List String} :
    u ∈ insertText t set ↔ u = t ∨ u ∈ set := mem_insertOrdered

end LogQuery
