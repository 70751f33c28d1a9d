import Shading.Document
import Shading.NumberSet

/-!
# What a document reaches

The sources of all values that the outputs of a document depend on, each value once, depth first from the first
output and with operands in the order in which they are computed.
-/

namespace Shading

/-- The sources met by a walk whose waiting values are `waiting`, after the values with the keys `seen` were met. -/
def reachableFrom (waiting : List Value) (seen : NumberSet) : List Source :=
  match waiting with
  | [] => []
  | value :: rest =>
    if seen.contains value.key then reachableFrom rest seen
    else value.source :: reachableFrom (value.source.operands ++ rest) (seen.insert value.key)
termination_by sizeOfAll waiting
decreasing_by
  · have size := value.size_eq
    rw [sizeOfAll]
    omega
  · have size := value.size_eq
    rw [sizeOfAll, sizeOfAll_append]
    omega

/-- The sources that the outputs of a document depend on. -/
def Document.reachable (document : Document) : List Source :=
  reachableFrom (document.writes.map Prod.snd) ∅

end Shading
