import Mathlib
import Shading.Proofs.Lines

/-!
# Nesting of blocks

Whatever a script does with a listing, and wherever it is stopped, its lines are those of a tree: every block that was
entered stands in it with one header and one closing brace around the lines of its body, all at the depth of the block
(`fill_nested`). Blank lines never come first and never follow each other, at any moment of the script (`Spaced`).
-/

namespace Shading.Listing

/-- What a script leaves behind: blank lines, lines of text, and blocks around what their bodies left. -/
inductive Passage where
  | blank
  | line (text : String)
  | block (header : String) (body : List Passage)

mutual

/-- The lines of a passage at a depth. -/
def Passage.lines (indent : String) (level : Int) : Passage → List String
  | .blank => [""]
  | .line text => [Text.repeated indent level ++ text]
  | .block header body =>
    (Text.repeated indent level ++ (header ++ " \x7b")) ::
      (linesOfAll indent (level + 1) body ++ [Text.repeated indent level ++ "\x7d"])

/-- The lines of several passages at one depth. -/
def linesOfAll (indent : String) (level : Int) : List Passage → List String
  | [] => []
  | passage :: rest => passage.lines indent level ++ linesOfAll indent level rest

end

/-- What keeps the lines of a depth from being indented, where there is room for so many characters. -/
def faultAt? (room : Nat) (indent : String) (level : Int) : Option IndentFault :=
  indentFault? room ⟨indent, level, []⟩

/-- What actions leave at a depth, and why they stopped if they did. The flag says whether the line before them is there
and not blank, which is when a blank line is kept. A block stands for whatever its body left, also if that was stopped;
nothing that comes after a stop leaves anything. -/
inductive Leaves (room : Nat) (indent : String) : Int → Bool → List Item → List Passage → Option Stop → Prop where
  | done {level : Int} {gap : Bool} : Leaves room indent level gap [] [] none
  | blankKept {level : Int} {rest : List Item} {passages : List Passage} {stop : Option Stop}
      (others : Leaves room indent level false rest passages stop) :
      Leaves room indent level true (.line "" :: rest) (.blank :: passages) stop
  | blankDropped {level : Int} {rest : List Item} {passages : List Passage} {stop : Option Stop}
      (others : Leaves room indent level false rest passages stop) :
      Leaves room indent level false (.line "" :: rest) passages stop
  | line {level : Int} {gap : Bool} {text : String} {rest : List Item} {passages : List Passage} {stop : Option Stop}
      (filled : text ≠ "") (fits : faultAt? room indent level = none)
      (others : Leaves room indent level true rest passages stop) :
      Leaves room indent level gap (.line text :: rest) (.line text :: passages) stop
  | lineFault {level : Int} {gap : Bool} {text : String} {rest : List Item} {fault : IndentFault}
      (filled : text ≠ "") (faulty : faultAt? room indent level = some fault) :
      Leaves room indent level gap (.line text :: rest) [] (some (.indentation fault))
  | lines {level : Int} {gap : Bool} {texts : List String} {rest : List Item} {passages : List Passage}
      {stop : Option Stop} (oneByOne : Leaves room indent level gap (texts.map .line ++ rest) passages stop) :
      Leaves room indent level gap (.lines texts :: rest) passages stop
  | block {level : Int} {gap : Bool} {header : String} {body rest : List Item} {inner passages : List Passage}
      {stop : Option Stop} (fits : faultAt? room indent level = none)
      (inside : Leaves room indent (level + 1) true body inner none)
      (others : Leaves room indent level true rest passages stop) :
      Leaves room indent level gap (.block header body :: rest) (.block header inner :: passages) stop
  | blockStopped {level : Int} {gap : Bool} {header : String} {body rest : List Item} {inner : List Passage}
      {reason : Stop} (fits : faultAt? room indent level = none)
      (inside : Leaves room indent (level + 1) true body inner (some reason)) :
      Leaves room indent level gap (.block header body :: rest) [.block header inner] (some reason)
  | blockFault {level : Int} {gap : Bool} {header : String} {body rest : List Item} {fault : IndentFault}
      (faulty : faultAt? room indent level = some fault) :
      Leaves room indent level gap (.block header body :: rest) [] (some (.indentation fault))
  | snapshot {level : Int} {gap : Bool} {rest : List Item} {passages : List Passage} {stop : Option Stop}
      (others : Leaves room indent level gap rest passages stop) :
      Leaves room indent level gap (.snapshot :: rest) passages stop
  | stop {level : Int} {gap : Bool} {reason : String} {rest : List Item} :
      Leaves room indent level gap (.stop reason :: rest) [] (some (.asked reason))

/-- There is a last line, and it is not blank. -/
def endsFilled (listing : Listing) : Bool :=
  listing.written.head?.any (· ≠ "")

private theorem push_blank (listing : Listing) : listing.push "" =
    if listing.endsFilled then { listing with written := "" :: listing.written } else listing := by
  obtain ⟨indent, level, written⟩ := listing
  cases written with
  | nil => rfl
  | cons last others =>
    by_cases blank : last = ""
    · subst blank
      rfl
    · simp [push, endsFilled, blank]

private theorem margin_append_ne {listing : Listing} {line : String} (filled : line ≠ "") :
    listing.margin ++ line ≠ "" := by
  intro empty
  exact filled (String.append_eq_empty_iff.1 empty).2

private theorem endsFilled_push {listing : Listing} {line : String} (filled : line ≠ "") :
    (listing.push line).endsFilled = true := by
  rw [push_of_ne filled]
  simp [endsFilled, margin_append_ne filled]

private theorem lines_push {listing : Listing} {line : String} (filled : line ≠ "") :
    (listing.push line).lines = listing.lines ++ [listing.margin ++ line] := by
  rw [push_of_ne filled]
  simp [Listing.lines]

private theorem level_push (listing : Listing) (line : String) : (listing.push line).level = listing.level := by
  unfold push
  split
  · split <;> rfl
  · rfl

private theorem indent_push (listing : Listing) (line : String) : (listing.push line).indent = listing.indent := by
  unfold push
  split
  · split <;> rfl
  · rfl

/-- The second listing is the first one with the lines of passages behind its own. -/
structure Extends (listing : Listing) (passages : List Passage) (further : Listing) : Prop where
  lines : further.lines = listing.lines ++ linesOfAll listing.indent listing.level passages
  level : further.level = listing.level
  indent : further.indent = listing.indent

private theorem extends_self (listing : Listing) : listing.Extends [] listing :=
  ⟨by simp [linesOfAll], rfl, rfl⟩

theorem Extends.cons {listing middle further : Listing} {passage : Passage} {passages : List Passage}
    (first : listing.Extends [passage] middle) (others : middle.Extends passages further) :
    listing.Extends (passage :: passages) further where
  lines := by
    rw [others.lines, first.lines, first.level, first.indent]
    simp [linesOfAll]
  level := others.level.trans first.level
  indent := others.indent.trans first.indent

private theorem extends_push {listing : Listing} {line : String} (filled : line ≠ "") :
    listing.Extends [.line line] (listing.push line) :=
  ⟨by rw [lines_push filled]; simp [linesOfAll, Passage.lines, margin], level_push _ _, indent_push _ _⟩

private theorem extends_blank (listing : Listing) : listing.Extends [.blank]
    { listing with written := "" :: listing.written } :=
  ⟨by simp [Listing.lines, linesOfAll, Passage.lines], rfl, rfl⟩

private theorem extends_block {listing inner : Listing} {header : String} {body : List Passage}
    (inside : (listing.enter header).Extends body inner) : listing.Extends [.block header body] inner.leave := by
  have headed : header ++ " \x7b" ≠ "" := by simp
  have closing : "\x7d" ≠ "" := by decide
  have level : inner.level = listing.level + 1 := inside.level.trans (by rw [enter, level_push])
  have indent : inner.indent = listing.indent := inside.indent.trans (by rw [enter, indent_push])
  have opened : (listing.enter header).lines = listing.lines ++ [listing.margin ++ (header ++ " \x7b")] :=
    lines_push headed
  refine ⟨?_, ?_, ?_⟩
  · have restored : margin { inner with level := inner.level - 1 } = listing.margin := by
      simp [margin, level, indent]
    have before : Listing.lines { inner with level := inner.level - 1 } = inner.lines := rfl
    rw [leave, lines_push closing, restored, before, inside.lines, opened]
    simp [enter, level_push, indent_push, linesOfAll, Passage.lines, margin]
  · rw [leave, level_push]
    simp [level]
  · rw [leave, indent_push]
    exact indent

/-- From any point at which they are not stopped, the actions leave passages behind the lines that are there. -/
def Describable (room : Nat) (items : List Item) : Prop :=
  ∀ filling : Filling, filling.stopped = none → ∃ passages,
    Leaves room filling.listing.indent filling.listing.level filling.listing.endsFilled items passages
      (performAll room items filling).stopped ∧
    filling.listing.Extends passages (performAll room items filling).listing

private theorem performAll_of_running {item : Item} {rest : List Item} {filling : Filling}
    (running : (item.perform room filling).stopped = none) :
    performAll room (item :: rest) filling = performAll room rest (item.perform room filling) := by
  rw [performAll_cons]
  simp [running]

private theorem performAll_of_stopped {item : Item} {rest : List Item} {filling : Filling} {reason : Stop}
    (stopped : (item.perform room filling).stopped = some reason) :
    performAll room (item :: rest) filling = item.perform room filling := by
  rw [performAll_cons]
  simp [stopped]

private theorem describable_nil : Describable room [] := by
  intro filling running
  rw [performAll_nil, running]
  exact ⟨[], .done, extends_self _⟩

private theorem perform_blank (filling : Filling) :
    (Item.line "").perform room filling = { filling with listing := filling.listing.push "" } := by
  simp [Item.perform_line, Filling.push]

theorem perform_line {filling : Filling} {text : String} (filled : text ≠ "")
    (fits : faultAt? room filling.listing.indent filling.listing.level = none) :
    (Item.line text).perform room filling = { filling with listing := filling.listing.push text } := by
  have free : filling.listing.indentFault? room = none := fits
  simp [Item.perform_line, Filling.push, filled, free]

private theorem perform_line_fault {filling : Filling} {text : String} {fault : IndentFault} (filled : text ≠ "")
    (faulty : faultAt? room filling.listing.indent filling.listing.level = some fault) :
    (Item.line text).perform room filling = filling.stop (.indentation fault) := by
  have caught : filling.listing.indentFault? room = some fault := faulty
  simp [Item.perform_line, Filling.push, filled, caught]

private theorem describable_line (text : String) {rest : List Item} (others : Describable room rest) :
    Describable room (.line text :: rest) := by
  intro filling running
  by_cases blank : text = ""
  · subst blank
    rw [performAll_of_running (by rw [perform_blank]; exact running), perform_blank, push_blank]
    by_cases gap : filling.listing.endsFilled = true
    · rw [if_pos gap, gap]
      obtain ⟨passages, leaves, extended⟩ :=
        others { filling with listing := { filling.listing with written := "" :: filling.listing.written } } running
      exact ⟨.blank :: passages, .blankKept leaves, (extends_blank _).cons extended⟩
    · rw [if_neg gap, Bool.eq_false_iff.2 gap]
      obtain ⟨passages, leaves, extended⟩ := others filling running
      rw [Bool.eq_false_iff.2 gap] at leaves
      exact ⟨passages, .blankDropped leaves, extended⟩
  · cases fault : faultAt? room filling.listing.indent filling.listing.level with
    | none =>
      have written := perform_line blank fault
      rw [performAll_of_running (by rw [written]; exact running), written]
      obtain ⟨passages, leaves, extended⟩ :=
        others { filling with listing := filling.listing.push text } running
      rw [level_push, indent_push, endsFilled_push blank] at leaves
      exact ⟨.line text :: passages, .line blank fault leaves, (extends_push blank).cons extended⟩
    | some cause =>
      have stopped := perform_line_fault blank fault
      rw [performAll_of_stopped (by rw [stopped]; rfl), stopped]
      exact ⟨[], .lineFault blank fault, extends_self _⟩

private theorem perform_lines_cons (room : Nat) (text : String) (others : List String) (filling : Filling) :
    (Item.lines (text :: others)).perform room filling =
      if ((Item.line text).perform room filling).stopped.isSome then (Item.line text).perform room filling
      else (Item.lines others).perform room ((Item.line text).perform room filling) := by
  rw [Item.perform, Item.perform, Item.perform, Filling.pushAll]

private theorem performAll_lines (texts : List String) (rest : List Item) {filling : Filling}
    (running : filling.stopped = none) :
    performAll room (.lines texts :: rest) filling = performAll room (texts.map .line ++ rest) filling := by
  induction texts generalizing filling with
  | nil => exact performAll_of_running running
  | cons text others ih =>
    rw [List.map_cons, List.cons_append]
    have first := perform_lines_cons room text others filling
    cases stopped : ((Item.line text).perform room filling).stopped with
    | some reason =>
      rw [stopped, Option.isSome_some, if_pos rfl] at first
      rw [performAll_of_stopped stopped, performAll_of_stopped (first ▸ stopped), first]
    | none =>
      rw [stopped, Option.isSome_none, if_neg Bool.false_ne_true] at first
      rw [performAll_of_running stopped, ← ih stopped, performAll_cons, performAll_cons, first]

private theorem describable_lines (texts : List String) {rest : List Item} (others : Describable room rest) :
    Describable room (.lines texts :: rest) := by
  have oneByOne : Describable room (texts.map .line ++ rest) := by
    induction texts with
    | nil => exact others
    | cons text _ ih => exact describable_line text ih
  intro filling running
  rw [performAll_lines texts rest running]
  obtain ⟨passages, leaves, extended⟩ := oneByOne filling running
  exact ⟨passages, .lines leaves, extended⟩

/-- A filling at the beginning of a block. -/
def Filling.enter (filling : Filling) (header : String) : Filling :=
  { filling with listing := filling.listing.enter header }

/-- A filling at the end of a block. -/
def Filling.leave (filling : Filling) : Filling :=
  { filling with listing := filling.listing.leave }

private theorem perform_block {filling : Filling} {header : String} {body : List Item}
    (fits : faultAt? room filling.listing.indent filling.listing.level = none) :
    (Item.block header body).perform room filling = (performAll room body (filling.enter header)).leave := by
  have free : filling.listing.indentFault? room = none := fits
  simp [Item.perform, free, Filling.enter, Filling.leave]

private theorem perform_block_fault {filling : Filling} {header : String} {body : List Item} {fault : IndentFault}
    (faulty : faultAt? room filling.listing.indent filling.listing.level = some fault) :
    (Item.block header body).perform room filling = filling.stop (.indentation fault) := by
  have caught : filling.listing.indentFault? room = some fault := faulty
  simp [Item.perform, caught]

private theorem describable_block (header : String) {body rest : List Item} (inside : Describable room body)
    (others : Describable room rest) : Describable room (.block header body :: rest) := by
  intro filling running
  cases fault : faultAt? room filling.listing.indent filling.listing.level with
  | some cause =>
    have stopped : (Item.block header body).perform room filling = filling.stop (.indentation cause) :=
      perform_block_fault fault
    rw [performAll_of_stopped (by rw [stopped]; rfl), stopped]
    exact ⟨[], .blockFault fault, extends_self _⟩
  | none =>
    have performed : (Item.block header body).perform room filling = (performAll room body (filling.enter header)).leave :=
      perform_block fault
    obtain ⟨inner, within, nested⟩ := inside (filling.enter header) running
    have closed : filling.listing.Extends [.block header inner] (performAll room body (filling.enter header)).leave.listing :=
      extends_block nested
    have deeper : (filling.enter header).listing.level = filling.listing.level + 1 := by
      simp [Filling.enter, Listing.enter, level_push]
    have unchanged : (filling.enter header).listing.indent = filling.listing.indent := by
      simp [Filling.enter, Listing.enter, indent_push]
    have headed : (filling.enter header).listing.endsFilled = true := endsFilled_push (by simp)
    rw [headed, deeper, unchanged] at within
    generalize performAll room body (filling.enter header) = left at performed within closed
    cases stopped : left.stopped with
    | some reason =>
      rw [performAll_of_stopped (by rw [performed]; exact stopped), performed]
      rw [stopped] at within
      exact ⟨[.block header inner], stopped ▸ .blockStopped fault within, closed⟩
    | none =>
      rw [performAll_of_running (by rw [performed]; exact stopped), performed]
      rw [stopped] at within
      obtain ⟨passages, leaves, extended⟩ := others left.leave stopped
      have ended : left.leave.listing.endsFilled = true := endsFilled_push (by decide)
      rw [ended, closed.level, closed.indent] at leaves
      exact ⟨.block header inner :: passages, .block fault within leaves, closed.cons extended⟩

private theorem describable_snapshot {rest : List Item} (others : Describable room rest) : Describable room
    (.snapshot :: rest) := by
  intro filling running
  have performed : Item.snapshot.perform room filling =
      { filling with snapshots := filling.snapshots ++ [filling.listing.text] } := by
    rw [Item.perform]
  rw [performAll_of_running (by rw [performed]; exact running), performed]
  obtain ⟨passages, leaves, extended⟩ :=
    others { filling with snapshots := filling.snapshots ++ [filling.listing.text] } running
  exact ⟨passages, .snapshot leaves, extended⟩

private theorem describable_stop (reason : String) (rest : List Item) : Describable room (.stop reason :: rest) := by
  intro filling _
  have performed : (Item.stop reason).perform room filling = filling.stop (.asked reason) := by
    rw [Item.perform]
  rw [performAll_of_stopped (by rw [performed]; rfl), performed]
  exact ⟨[], .stop, extends_self _⟩

private theorem describable (room : Nat) : (items : List Item) → Describable room items
  | [] => describable_nil
  | .line text :: rest => describable_line text (describable room rest)
  | .lines texts :: rest => describable_lines texts (describable room rest)
  | .block header body :: rest => describable_block header (describable room body) (describable room rest)
  | .snapshot :: rest => describable_snapshot (describable room rest)
  | .stop reason :: rest => describable_stop reason rest

/-- A blank line comes neither first nor after another one. -/
def Spaced (lines : List String) : Prop :=
  lines.head? ≠ some "" ∧ lines.IsChain (fun above below => ¬ (above = "" ∧ below = ""))

private theorem spaced_nil : Spaced [] := ⟨by simp, .nil⟩

private theorem Spaced.append_filled {lines : List String} {line : String} (spaced : Spaced lines)
    (filled : line ≠ "") :
    Spaced (lines ++ [line]) := by
  constructor
  · cases lines with
    | nil => simpa using filled
    | cons first others => simpa using spaced.1
  · refine spaced.2.append (.singleton _) ?_
    intro above _ below last
    simp only [List.head?_cons, Option.mem_def, Option.some.injEq] at last
    subst last
    exact fun both => filled both.2

private theorem Spaced.append_blank {lines : List String} {last : String} (spaced : Spaced lines)
    (ends : lines.getLast? = some last) (filled : last ≠ "") : Spaced (lines ++ [""]) := by
  constructor
  · cases lines with
    | nil => simp at ends
    | cons first others => simpa using spaced.1
  · refine spaced.2.append (.singleton _) ?_
    intro above listed below _
    rw [ends, Option.mem_def, Option.some.injEq] at listed
    subst listed
    exact fun both => filled both.1

private theorem spaced_push {listing : Listing} (spaced : Spaced listing.lines) (line : String) :
    Spaced (listing.push line).lines := by
  by_cases blank : line = ""
  · subst blank
    rw [push_blank]
    split
    · rename_i ends
      obtain ⟨last, first, filled⟩ := (Option.any_eq_true _ _).1 ends
      have more : Listing.lines { listing with written := "" :: listing.written } = listing.lines ++ [""] := by
        simp [Listing.lines]
      rw [more]
      have final : listing.lines.getLast? = some last := by rw [Listing.lines, List.getLast?_reverse, first]
      exact spaced.append_blank final (by simpa using filled)
    · exact spaced
  · rw [lines_push blank]
    exact spaced.append_filled (margin_append_ne blank)

private theorem spaced_leave {listing : Listing} (spaced : Spaced listing.lines) : Spaced listing.leave.lines :=
  @spaced_push { listing with level := listing.level - 1 } spaced "\x7d"

/-- All that a filling shows, now and in its snapshots, is spaced. -/
structure Filling.Tidy (filling : Filling) : Prop where
  listing : Spaced filling.listing.lines
  snapshots : ∀ text ∈ filling.snapshots, ∃ lines, Spaced lines ∧ text = Text.unlines lines

theorem Filling.Tidy.push {filling : Filling} (tidy : filling.Tidy) (line : String) :
    (filling.push room line).Tidy := by
  unfold Filling.push
  split
  · exact ⟨tidy.listing, tidy.snapshots⟩
  · exact ⟨spaced_push tidy.listing line, tidy.snapshots⟩

theorem Filling.Tidy.pushAll {filling : Filling} (tidy : filling.Tidy) (lines : List String) :
    (filling.pushAll room lines).Tidy := by
  induction lines generalizing filling with
  | nil => exact tidy
  | cons line rest ih =>
    rw [Filling.pushAll]
    split
    · exact tidy.push line
    · exact ih (tidy.push line)

mutual

/-- What one action keeps. -/
theorem Filling.Tidy.perform (room : Nat) : (item : Item) → {filling : Filling} → filling.Tidy → (item.perform room filling).Tidy
  | .line text, _, tidy => by
    rw [Item.perform]
    exact tidy.push text
  | .lines texts, _, tidy => by
    rw [Item.perform]
    exact tidy.pushAll texts
  | .block header body, filling, tidy => by
    have entered : (filling.enter header).Tidy := ⟨spaced_push tidy.listing _, tidy.snapshots⟩
    have inside := Filling.Tidy.performAll room body entered
    rw [Item.perform]
    split
    · exact ⟨tidy.listing, tidy.snapshots⟩
    · exact ⟨spaced_leave inside.listing, inside.snapshots⟩
  | .snapshot, filling, tidy => by
    rw [Item.perform]
    refine ⟨tidy.listing, fun text member => ?_⟩
    rcases List.mem_append.1 member with old | new
    · exact tidy.snapshots text old
    · exact ⟨filling.listing.lines, tidy.listing, List.mem_singleton.1 new⟩
  | .stop _, _, tidy => by
    rw [Item.perform]
    exact ⟨tidy.listing, tidy.snapshots⟩

/-- What a script keeps. -/
theorem Filling.Tidy.performAll (room : Nat) : (items : List Item) → {filling : Filling} → filling.Tidy →
    (performAll room items filling).Tidy
  | [], _, tidy => by
    rw [performAll_nil]
    exact tidy
  | item :: rest, _, tidy => by
    have next := Filling.Tidy.perform room item tidy
    rw [performAll_cons]
    split
    · exact next
    · exact Filling.Tidy.performAll room rest next

end

/-- Any script on an empty listing, whatever its indentation and depth and wherever the script is stopped, leaves
passages: each block that it entered, with one header and one brace at the depth of the block around what its body left,
and every other line at the depth at which it was added. The depth is the one at the beginning. Neither now nor at any
moment before does a blank line come first or after another one. -/
theorem fill_nested (room : Nat) (indent : String) (level : Int) (items : List Item) :
    (∃ passages, Leaves room indent level false items passages (fill room ⟨indent, level, []⟩ items).stopped ∧
      (fill room ⟨indent, level, []⟩ items).listing.lines = linesOfAll indent level passages) ∧
    (fill room ⟨indent, level, []⟩ items).listing.level = level ∧
    Spaced (fill room ⟨indent, level, []⟩ items).listing.lines ∧
    ∀ text ∈ (fill room ⟨indent, level, []⟩ items).snapshots, ∃ lines, Spaced lines ∧ text = Text.unlines lines := by
  obtain ⟨passages, leaves, extended⟩ := describable room items ⟨⟨indent, level, []⟩, [], none⟩ rfl
  have blank : Filling.Tidy ⟨⟨indent, level, []⟩, [], none⟩ := ⟨spaced_nil, by simp⟩
  have tidy := blank.performAll room items
  exact ⟨⟨passages, leaves, extended.lines⟩, extended.level, tidy.listing, tidy.snapshots⟩

/-- The stop leaves both blocks, and a blank line that was added twice stands once. -/
example : (fill 8 ⟨"  ", 1, []⟩ [.line "", .block "if (a)" [.block "else" [.line "b;", .lines ["", ""], .stop "late"]],
    .line "c;"]).listing.lines = ["  if (a) \x7b", "    else \x7b", "      b;", "", "    \x7d", "  \x7d"] := by
  decide +kernel

end Shading.Listing
