/-!
# Tables

A table holds entries under names in the order in which the names first came in; giving a name a new entry keeps
its place.
-/

namespace Shading

/-- Entries under names, in the order in which the names came in. -/
structure Table (α : Type) where
  entries : List (String × α)

namespace Table

variable {α : Type}

def empty : Table α := ⟨[]⟩

def get? (table : Table α) (name : String) : Option α :=
  table.entries.lookup name

def contains (table : Table α) (name : String) : Bool :=
  (table.get? name).isSome

def names (table : Table α) : List String :=
  table.entries.map Prod.fst

/-- The entries without their names, in order. -/
def values (table : Table α) : List α :=
  table.entries.map Prod.snd

/-- How many names have an entry. -/
def size (table : Table α) : Nat :=
  table.entries.length

/-- The entry replaced where the name stands, or added at the end. -/
def put (name : String) (value : α) : List (String × α) → List (String × α)
  | [] => [(name, value)]
  | (other, old) :: rest =>
    if other = name then (other, value) :: rest else (other, old) :: put name value rest

/-- The table with the entry under a name. -/
def insert (table : Table α) (name : String) (value : α) : Table α :=
  ⟨put name value table.entries⟩

/-- The table of pairs, a later pair of the same name replacing an earlier one. -/
def ofList (pairs : List (String × α)) : Table α :=
  pairs.foldl (fun table pair => table.insert pair.1 pair.2) empty

end Table

end Shading
