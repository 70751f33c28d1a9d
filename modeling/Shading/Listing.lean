import Shading.Text.Lines

/-!
# Listings

A listing collects the lines of a source. Lines are indented by the depth of the blocks around them, blank lines
never follow each other and never come first, and a block that is entered is always closed at its own depth.
-/

namespace Shading

/-- The lines written so far, the last one first, with the unit and the depth of indentation. -/
structure Listing where
  indent : String
  level : Int
  written : List String

namespace Listing

/-- A listing without lines, indented by four spaces from the left margin. -/
def empty : Listing := ⟨"    ", 0, []⟩

/-- The lines of a listing, in order. -/
def lines (listing : Listing) : List String :=
  listing.written.reverse

/-- The indentation of the current depth. -/
def margin (listing : Listing) : String :=
  Text.repeated listing.indent listing.level

/-- Why the lines of a depth cannot be indented. -/
inductive IndentFault where
  /-- The depth is no machine integer. -/
  | depthOutOfRange
  /-- The length of the indentation is no machine integer. -/
  | marginTooLong
  /-- There is no room for the indentation. -/
  | outOfMemory
deriving DecidableEq

def IndentFault.message : IndentFault → String
  | .depthOutOfRange => "cannot fit 'int' into an index-sized integer"
  | .marginTooLong => "repeated string is too long"
  | .outOfMemory => ""

/-- The first number beyond the machine integers, which start at its negative. -/
def machineLimit : Int := 0x8000000000000000

/-- What keeps the lines of the current depth from being indented, where there is room for so many characters. -/
def indentFault? (room : Nat) (listing : Listing) : Option IndentFault :=
  let length : Int := listing.indent.length * listing.level
  if listing.level < -machineLimit ∨ machineLimit ≤ listing.level then some .depthOutOfRange
  else if machineLimit ≤ length then some .marginTooLong
  else if room < length then some .outOfMemory
  else none

/-- Add a line. An empty one separates what stands before it, once, from what follows. -/
def push (listing : Listing) (line : String) : Listing :=
  if line = "" then
    match listing.written with
    | [] | "" :: _ => listing
    | _ => { listing with written := "" :: listing.written }
  else
    { listing with written := (listing.margin ++ line) :: listing.written }

/-- Add lines one after the other. -/
def pushAll (listing : Listing) (lines : List String) : Listing :=
  lines.foldl push listing

/-- Begin a block under a header. -/
def enter (listing : Listing) (header : String) : Listing :=
  let headed := listing.push (header ++ " \x7b")
  { headed with level := headed.level + 1 }

def leave (listing : Listing) : Listing :=
  { listing with level := listing.level - 1 }.push "\x7d"

def text (listing : Listing) : String :=
  Text.unlines listing.lines

/-- One action on a listing. A stop leaves all the blocks around it, each of which is still closed. -/
inductive Item where
  | line (text : String)
  | lines (texts : List String)
  | block (header : String) (body : List Item)
  | snapshot
  | stop (reason : String)

/-- Why a script ends before its last action. -/
inductive Stop where
  | asked (reason : String)
  | indentation (fault : IndentFault)
deriving DecidableEq

/-- A listing being filled, the texts of its snapshots and the reason why it was stopped. -/
structure Filling where
  listing : Listing
  snapshots : List String
  stopped : Option Stop

namespace Filling

def stop (filling : Filling) (reason : Stop) : Filling :=
  { filling with stopped := some reason }

/-- Add a line. One that is not empty has to be indented, for which there is room for so many characters. -/
def push (room : Nat) (filling : Filling) (line : String) : Filling :=
  match if line = "" then none else filling.listing.indentFault? room with
  | some fault => filling.stop (.indentation fault)
  | none => { filling with listing := filling.listing.push line }

/-- Add lines up to the first stop. -/
def pushAll (room : Nat) (filling : Filling) : List String → Filling
  | [] => filling
  | line :: rest =>
    let next := filling.push room line
    if next.stopped.isSome then next else next.pushAll room rest

end Filling

mutual

/-- The filling after an action. -/
def Item.perform (room : Nat) : Item → Filling → Filling
  | .line text, filling => filling.push room text
  | .lines texts, filling => filling.pushAll room texts
  | .block header body, filling =>
    match filling.listing.indentFault? room with
    | some fault => filling.stop (.indentation fault)
    | none =>
      let inner := performAll room body { filling with listing := filling.listing.enter header }
      { inner with listing := inner.listing.leave }
  | .snapshot, filling => { filling with snapshots := filling.snapshots ++ [filling.listing.text] }
  | .stop reason, filling => filling.stop (.asked reason)

/-- The filling after the actions up to the first stop. -/
def performAll (room : Nat) : List Item → Filling → Filling
  | [], filling => filling
  | item :: rest, filling =>
    let next := item.perform room filling
    if next.stopped.isSome then next else performAll room rest next

end

theorem performAll_nil (room : Nat) (filling : Filling) : performAll room [] filling = filling := by
  rw [performAll]

theorem performAll_cons (room : Nat) (item : Item) (rest : List Item) (filling : Filling) :
    performAll room (item :: rest) filling =
      if (item.perform room filling).stopped.isSome then item.perform room filling
      else performAll room rest (item.perform room filling) := by
  rw [performAll]

theorem Item.perform_line (room : Nat) (text : String) (filling : Filling) :
    (Item.line text).perform room filling = filling.push room text := by
  rw [Item.perform]

/-- The filling of a listing by a script, where there is room for so many characters of indentation. -/
def fill (room : Nat) (listing : Listing) (items : List Item) : Filling :=
  performAll room items ⟨listing, [], none⟩

end Listing

end Shading
