import Shading.Table

/-!
# Laws of tables

What is looked up after an entry is put in, and what becomes of the names: a name that has an entry keeps its place, and
a new one comes last. A table whose names are distinct keeps them so.
-/

namespace Shading

section
variable {α β : Type} [BEq α] [LawfulBEq α]

/-- What is looked up among pairs is one of them. -/
theorem mem_of_lookup {pairs : List (α × β)} {key : α} {entry : β} (found : pairs.lookup key = some entry) :
    (key, entry) ∈ pairs := by
  obtain ⟨before, after, split, _⟩ := List.lookup_eq_some_iff.1 found
  simp [split]

/-- Where the keys are distinct, every pair is looked up. -/
theorem lookup_of_mem {pairs : List (α × β)} {key : α} {entry : β} (distinct : (pairs.map Prod.fst).Nodup)
    (member : (key, entry) ∈ pairs) : pairs.lookup key = some entry := by
  induction pairs with
  | nil => simp at member
  | cons first rest ih =>
    obtain ⟨name, held⟩ := first
    rw [List.map_cons, List.nodup_cons] at distinct
    rcases List.mem_cons.1 member with same | later
    · cases same
      simp
    · have differs : (key == name) = false := by
        rw [beq_eq_false_iff_ne]
        rintro rfl
        exact distinct.1 (List.mem_map.2 ⟨(key, entry), later, rfl⟩)
      rw [List.lookup_cons, differs]
      exact ih distinct.2 later

end

namespace Table

variable {α : Type}

def Distinct (table : Table α) : Prop :=
  table.names.Nodup

private theorem mem_put {name other : String} {value held : α} {entries : List (String × α)}
    (member : (other, held) ∈ put name value entries) : (other, held) = (name, value) ∨ (other, held) ∈ entries := by
  induction entries with
  | nil => simpa [put] using member
  | cons first rest ih =>
    rw [put] at member
    split at member
    · rename_i same
      rcases List.mem_cons.1 member with head | later
      · exact .inl (head.trans (by rw [same]))
      · exact .inr (List.mem_cons_of_mem _ later)
    · rcases List.mem_cons.1 member with head | later
      · exact .inr (by rw [head]; exact List.mem_cons_self)
      · rcases ih later with new | old
        · exact .inl new
        · exact .inr (List.mem_cons_of_mem _ old)

/-- What a table holds after an entry is put in: that entry, or what it held before. -/
theorem mem_insert {table : Table α} {name other : String} {value held : α}
    (member : (other, held) ∈ (table.insert name value).entries) :
    (other, held) = (name, value) ∨ (other, held) ∈ table.entries :=
  mem_put member

private theorem put_new {name : String} {value : α} {entries : List (String × α)}
    (absent : entries.lookup name = none) :
    put name value entries = entries ++ [(name, value)] := by
  induction entries with
  | nil => rfl
  | cons first rest ih =>
    obtain ⟨other, old⟩ := first
    rw [List.lookup_cons] at absent
    split at absent
    · exact nomatch absent
    · rename_i differs
      have apart : other ≠ name := by
        rintro rfl
        simp at differs
      rw [put, if_neg apart, ih absent, List.cons_append]

/-- A new name comes last. -/
theorem insert_new {table : Table α} {name : String} {value : α} (absent : table.get? name = none) :
    (table.insert name value).entries = table.entries ++ [(name, value)] :=
  put_new absent

private theorem names_put {name : String} {value held : α} {entries : List (String × α)}
    (present : entries.lookup name = some held) :
    (put name value entries).map Prod.fst = entries.map Prod.fst := by
  induction entries with
  | nil => simp at present
  | cons first rest ih =>
    obtain ⟨other, old⟩ := first
    rw [put]
    split
    · rfl
    · rename_i apart
      rw [List.lookup_cons, (by simpa using fun same => apart same.symm : (name == other) = false)] at present
      rw [List.map_cons, List.map_cons, ih present]

theorem lookup_cons_eq (name other : String) (value : α) (entries : List (String × α)) :
    List.lookup other ((name, value) :: entries) = if other = name then some value else entries.lookup other := by
  by_cases same : other = name
  · simp [same]
  · rw [List.lookup_cons, beq_eq_false_iff_ne.2 same, if_neg same]

private theorem lookup_put (name other : String) (value : α) (entries : List (String × α)) :
    (put name value entries).lookup other = if other = name then some value else entries.lookup other := by
  induction entries with
  | nil => exact lookup_cons_eq name other value []
  | cons first rest ih =>
    obtain ⟨held, old⟩ := first
    rw [put]
    by_cases same : held = name
    · rw [if_pos same, lookup_cons_eq, lookup_cons_eq, same]
      by_cases asked : other = name <;> simp [asked]
    · rw [if_neg same, lookup_cons_eq, lookup_cons_eq, ih]
      by_cases asked : other = held
      · simp [asked, same]
      · simp [asked]

theorem get?_insert (table : Table α) (name other : String) (value : α) :
    (table.insert name value).get? other = if other = name then some value else table.get? other :=
  lookup_put name other value table.entries

private theorem put_same {name : String} {value : α} {entries : List (String × α)}
    (held : entries.lookup name = some value) :
    put name value entries = entries := by
  induction entries with
  | nil => simp at held
  | cons first rest ih =>
    obtain ⟨other, old⟩ := first
    rw [put]
    split
    · rename_i same
      simp only [List.lookup_cons, same, BEq.rfl, Option.some.injEq] at held
      rw [held]
    · rename_i apart
      rw [List.lookup_cons, (by simpa using fun same => apart same.symm : (name == other) = false)] at held
      rw [ih held]

/-- An entry that is put where it is changes nothing. -/
theorem insert_same {table : Table α} {name : String} {value : α} (held : table.get? name = some value) :
    table.insert name value = table := by
  rw [insert, put_same held]

theorem distinct_empty : (empty : Table α).Distinct := List.nodup_nil

theorem Distinct.insert {table : Table α} (distinct : table.Distinct) (name : String) (value : α) :
    (table.insert name value).Distinct := by
  cases found : table.get? name with
  | none =>
    rw [Distinct, names, insert_new found, List.map_append, List.nodup_append]
    refine ⟨distinct, by simp, ?_⟩
    rintro other held last lastIs rfl
    obtain rfl : other = name := by simpa using lastIs
    obtain ⟨entry, member, sameName⟩ := List.mem_map.1 held
    exact absurd sameName.symm (by simpa using List.lookup_eq_none_iff.1 found entry member)
  | some held =>
    rw [Distinct, names, Table.insert, names_put found]
    exact distinct

theorem mem_of_get? {table : Table α} {name : String} {value : α} (found : table.get? name = some value) :
    (name, value) ∈ table.entries :=
  mem_of_lookup found

end Table

end Shading
