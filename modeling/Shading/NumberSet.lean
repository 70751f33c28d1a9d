import Std.Data.TreeMap
import Std.Data.TreeSet

/-!
# Sets and numberings

Walks over large graphs ask again and again whether a node was met before, and which number it got. Both are kept in
balanced trees, and the laws here are all that has to be known about them.
-/

namespace Shading

/-- A finite set of numbers. -/
abbrev NumberSet := Std.TreeSet Nat (@compare Nat instOrdNat)

/-- Numbers given to entries, each of which is a number itself or the one entry for all that have none. -/
abbrev Numbering := Std.TreeMap (Option Nat) Nat (@compare (Option Nat) instOrdOption)

/-- Nothing belongs to the empty set. -/
theorem NumberSet.contains_empty (number : Nat) : (∅ : NumberSet).contains number = false :=
  Std.TreeSet.contains_emptyc

/-- What belongs to a set after an insertion: what was inserted, and what belonged to it before. -/
theorem NumberSet.contains_insert (set : NumberSet) (number other : Nat) :
    (set.insert number).contains other = true ↔ number = other ∨ set.contains other = true := by
  rw [Std.TreeSet.contains_insert, Bool.or_eq_true, beq_iff_eq, Std.LawfulEqCmp.compare_eq_iff_eq]

/-- No entry has a number at first. -/
theorem Numbering.lookup_empty (entry : Option Nat) : (∅ : Numbering)[entry]? = none :=
  Std.TreeMap.getElem?_emptyc

/-- There are no numbers at first. -/
theorem Numbering.size_empty : (∅ : Numbering).size = 0 :=
  Std.TreeMap.size_emptyc

/-- Numbering an entry leaves the numbers of the others. -/
theorem Numbering.lookup_insert (numbers : Numbering) (entry other : Option Nat) (number : Nat) :
    (numbers.insert entry number)[other]? = if entry = other then some number else numbers[other]? := by
  rw [Std.TreeMap.getElem?_insert]
  by_cases same : entry = other
  · rw [if_pos (Std.LawfulEqCmp.compare_eq_iff_eq.2 same), if_pos same]
  · rw [if_neg (fun equal => same (Std.LawfulEqCmp.compare_eq_iff_eq.1 equal)), if_neg same]

/-- An entry has a number exactly if it can be looked up. -/
theorem Numbering.contains_eq (numbers : Numbering) (entry : Option Nat) :
    numbers.contains entry = (numbers[entry]?).isSome :=
  Std.TreeMap.contains_eq_isSome_getElem?

/-- Numbering a new entry makes one more. -/
theorem Numbering.size_insert (numbers : Numbering) (entry : Option Nat) (number : Nat)
    (fresh : numbers.contains entry = false) : (numbers.insert entry number).size = numbers.size + 1 := by
  rw [Std.TreeMap.size_insert, if_neg (by rw [fresh]; exact Bool.false_ne_true)]

end Shading
