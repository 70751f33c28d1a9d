/-!
# Control sequences of terminals

A control sequence starts with an escape character and an opening bracket, goes on with parameters, and ends with a
letter. Terminals obey it instead of showing it, so that text meant for other readers is freed of it.
-/

namespace Shading.Text

/-- The characters that may stand between the opening bracket and the final letter. -/
def isParameter (c : Char) : Bool :=
  c.isDigit || c == ';' || c == '?'

/-- The length of what follows the opening bracket up to the final letter, if there is one. -/
def controlTail? : List Char → Option Nat
  | [] => none
  | c :: rest => if isParameter c then (controlTail? rest).map (· + 1) else if c.isAlpha then some 1 else none

/-- The length of the control sequence that a text starts with, or zero when it starts with none. -/
def controlLength : List Char → Nat
  | '\x1b' :: '[' :: rest => ((controlTail? rest).map (· + 2)).getD 0
  | _ => 0

/-- A text behind its first characters, without the control sequences that start there. -/
def dropControls : Nat → List Char → List Char
  | _, [] => []
  | skipped + 1, _ :: rest => dropControls skipped rest
  | 0, c :: rest =>
    match controlLength (c :: rest) with
    | 0 => c :: dropControls 0 rest
    | length + 1 => dropControls length rest

/-- A text without its control sequences. What stands around one stays as it is, even if it forms a new one. -/
def withoutControls (text : String) : String :=
  String.ofList (dropControls 0 text.toList)

end Shading.Text
