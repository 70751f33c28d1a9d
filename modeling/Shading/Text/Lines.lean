/-!
# Lines of a text

A text is split at a mark, and above all at its line feeds, and put together again.
-/

namespace Shading.Text

/-- The pieces of a text between the occurrences of a mark; there is always at least one. -/
def split (mark : Char) : List Char → List (List Char)
  | [] => [[]]
  | c :: rest =>
    if c = mark then [] :: split mark rest
    else
      match split mark rest with
      | [] => [[c]]
      | piece :: pieces => (c :: piece) :: pieces

def lines (text : String) : List String :=
  (split '\n' text.toList).map String.ofList

def unlines (lines : List String) : String :=
  "\n".intercalate lines

/-- Characters in which no line feed has a carriage return right before it: a pair of the two becomes a line feed. -/
def joinLineEnds : List Char → List Char
  | '\r' :: '\n' :: rest => '\n' :: joinLineEnds rest
  | c :: rest => c :: joinLineEnds rest
  | [] => []

/-- A text whose lines end with a line feed and no carriage return before it. -/
def plainLineEnds (text : String) : String :=
  String.ofList (joinLineEnds text.toList)

/-- A text repeated, or the empty text for a count that is not positive. -/
def repeated (text : String) (count : Int) : String :=
  if text = "" then "" else String.join (List.replicate count.toNat text)

/-- A text filled up with spaces on its left to a width. -/
def padLeft (width : Nat) (text : String) : String :=
  String.ofList (List.replicate (width - text.length) ' ') ++ text

/-- A text begins with another one. -/
def startsWith (text start : String) : Bool :=
  start.toList.isPrefixOf text.toList

/-- A text ends with another one. -/
def endsWith (text ending : String) : Bool :=
  ending.toList.isSuffixOf text.toList

end Shading.Text
