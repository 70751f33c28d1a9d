/-!
# Closed sets of named members

Types, slots, operators and the like are closed sets whose members have a name and a place in the declaration.
`Enumeration` records both once, and the display form and the search by name follow.
-/

namespace Shading

/-- A closed set of named members, listed in their order of declaration. -/
class Enumeration (α : Type) where
  /-- The name of the set itself. -/
  title : String
  /-- Every member, in order. -/
  members : List α
  /-- The name of a member. -/
  name : α → String

namespace Enumeration

variable {α : Type} [Enumeration α]

/-- The place of a member in its set, counted from one. -/
def position [DecidableEq α] (member : α) : Nat :=
  (members : List α).idxOf member + 1

/-- The display form of a member: its set, its name and its place. -/
def display [DecidableEq α] (member : α) : String :=
  "<" ++ title α ++ "." ++ name member ++ ": " ++ Nat.repr (position member) ++ ">"

/-- The name of a member in lower case, as messages use it. -/
def lowerName (member : α) : String :=
  (name member).toLower

def find? (α : Type) [Enumeration α] (text : String) : Option α :=
  (members : List α).find? (fun member => name member == text)

/-- The member whose name in lower case is given. -/
def findLower? (α : Type) [Enumeration α] (text : String) : Option α :=
  (members : List α).find? (fun member => lowerName member == text)

end Enumeration

end Shading
