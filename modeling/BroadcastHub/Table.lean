/-!
# Tables

A table holds entries under the numbers `0`, `1`, … in the order in which they
were added.  Entries are changed but never removed, so a number stays valid.
Looking up a number that is not in use gives the default entry, and changing it
does nothing.
-/

namespace BroadcastHub

/-- Entries under consecutive numbers. -/
structure Table (α : Type) where
  entries : Array α := #[]

namespace Table

variable {α : Type}

/-- The number of entries, which is also the next free number. -/
def size (table : Table α) : Nat := table.entries.size

/-- The entry under a number. -/
def get [Inhabited α] (table : Table α) (number : Nat) : α :=
  table.entries.getD number default

/-- Adds an entry under the next free number. -/
def push (table : Table α) (entry : α) : Table α := ⟨table.entries.push entry⟩

/-- Changes the entry under a number. -/
def update (table : Table α) (number : Nat) (change : α → α) : Table α :=
  ⟨table.entries.modify number change⟩

def numbers (table : Table α) : List Nat := List.range table.size

/-- The entries with their numbers. -/
def toList (table : Table α) : List (Nat × α) :=
  table.entries.toList.zipIdx.map fun (entry, number) => (number, entry)

@[simp] theorem size_update (table : Table α) (number : Nat) (change : α → α) :
    (table.update number change).size = table.size := by
  simp [size, update]

@[simp] theorem size_push (table : Table α) (entry : α) :
    (table.push entry).size = table.size + 1 := by
  simp [size, push]

theorem get_update
    [Inhabited α] (table : Table α) (number other : Nat) (change : α → α) :
    (table.update number change).get other =
      if number = other ∧ other < table.size then change (table.get other)
      else table.get other := by
  unfold get update size Array.getD
  by_cases inside : other < table.entries.size
  · by_cases same : number = other
    · subst same
      simp [inside, Array.getElem_modify]
    · simp [inside, same, Array.getElem_modify]
  · simp [inside]

theorem get_push [Inhabited α] (table : Table α) (entry : α) (number : Nat) :
    (table.push entry).get number = if number = table.size then entry
      else table.get number := by
  unfold get push size Array.getD
  by_cases inside : number < table.entries.size
  · have : number ≠ table.entries.size := by omega
    have below : number < table.entries.size + 1 := by omega
    simp [inside, this, below, Array.getElem_push]
  · by_cases last : number = table.entries.size
    · subst last
      simp
    · have above : ¬ number < table.entries.size + 1 := by omega
      simp [inside, last, above]

end Table

end BroadcastHub
