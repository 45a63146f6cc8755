/-!
# Finite tables

A table gives some keys a value. It is kept as a list of pairs in the order in which the keys were
first written; writing a key again replaces its value in place.

`find?` is the view of a table: `find?_insert`, `find?_erase` and `find?_mapValues` say what the
writes do to it.
-/

namespace BACnet

/-- A finite map from keys to values. -/
structure Table (κ α : Type) where
  entries : List (κ × α)
  deriving DecidableEq, Repr

namespace Table

variable {κ α : Type}

/-- The table without keys. -/
def empty : Table κ α := ⟨[]⟩

/-- The number of keys. -/
def size (table : Table κ α) : Nat := table.entries.length

/-- Whether there are no keys. -/
def isEmpty (table : Table κ α) : Bool := table.entries.isEmpty

/-- The table with the same keys and changed values. -/
def mapValues {β : Type} (table : Table κ α) (change : α → β) : Table κ β :=
  ⟨table.entries.map fun (key, value) => (key, change value)⟩

variable [DecidableEq κ]

/-- The value of a key in a list of pairs. -/
def lookup (key : κ) : List (κ × α) → Option α
  | [] => none
  | (other, value) :: rest => if other = key then some value else lookup key rest

/-- The list of pairs in which the key has the value. -/
def write (key : κ) (value : α) : List (κ × α) → List (κ × α)
  | [] => [(key, value)]
  | (other, old) :: rest =>
    if other = key then (key, value) :: rest else (other, old) :: write key value rest

/-- The value of a key. -/
def find? (table : Table κ α) (key : κ) : Option α := lookup key table.entries

/-- Whether the key has a value. -/
def contains (table : Table κ α) (key : κ) : Bool := (table.find? key).isSome

/-- The table in which the key has the value, and every other key the value it had. -/
def insert (table : Table κ α) (key : κ) (value : α) : Table κ α :=
  ⟨write key value table.entries⟩

/-- The table in which the key has no value, and every other key the value it had. -/
def erase (table : Table κ α) (key : κ) : Table κ α :=
  ⟨table.entries.filter (·.1 ≠ key)⟩

/-! ## What a write does to the view -/

theorem lookup_write (key other : κ) (value : α) (entries : List (κ × α)) :
    lookup other (write key value entries) =
      if key = other then some value else lookup other entries := by
  induction entries with
  | nil => simp [write, lookup]
  | cons entry rest ih =>
    obtain ⟨first, old⟩ := entry
    by_cases hfirst : first = key
    · subst hfirst
      by_cases hother : first = other <;> simp [write, lookup, hother]
    · by_cases hother : first = other
      · have hne : key ≠ other := fun h => hfirst (hother.trans h.symm)
        simp [write, lookup, hother, hne, hne.symm]
      · simp [write, lookup, hfirst, hother, ih]

theorem find?_insert (table : Table κ α) (key other : κ) (value : α) :
    (table.insert key value).find? other =
      if key = other then some value else table.find? other :=
  lookup_write key other value table.entries

theorem lookup_filter_ne (key other : κ) (entries : List (κ × α)) :
    lookup other (entries.filter (·.1 ≠ key)) =
      if key = other then none else lookup other entries := by
  induction entries with
  | nil => simp [lookup]
  | cons entry rest ih =>
    obtain ⟨first, old⟩ := entry
    by_cases hfirst : first = key
    · subst hfirst
      by_cases hother : first = other <;> simp_all [lookup]
    · by_cases hother : first = other
      · have hne : key ≠ other := fun h => hfirst (hother.trans h.symm)
        simp [lookup, hother, hne, hne.symm]
      · simp [lookup, hfirst, hother]
        simpa using ih

theorem find?_erase (table : Table κ α) (key other : κ) :
    (table.erase key).find? other = if key = other then none else table.find? other :=
  lookup_filter_ne key other table.entries

theorem lookup_map {β : Type} (key : κ) (change : α → β) (entries : List (κ × α)) :
    lookup key (entries.map fun (other, value) => (other, change value)) =
      (lookup key entries).map change := by
  induction entries with
  | nil => rfl
  | cons entry rest ih =>
    obtain ⟨first, old⟩ := entry
    by_cases h : first = key <;> simp [lookup, h, ih]

theorem find?_mapValues {β : Type} (table : Table κ α) (change : α → β) (key : κ) :
    (table.mapValues change).find? key = (table.find? key).map change :=
  lookup_map key change table.entries

end Table

end BACnet
