import Shading.Glsl.Stage
import Shading.Proofs.Lines
import Shading.Proofs.Names

/-!
# Reading bodies

The lines of a body can be taken apart into the instructions that they were written from, because no name that stands in
them holds a character that divides their parts (`readBody_bodyText`).
-/

namespace Shading.Glsl

/-- What components are selected from and their letters, both from the characters of a reference in reverse. -/
def splitSelectors : List Char → List Char × List String
  | letter :: '.' :: rest =>
    if letter ∈ componentLetters then
      ((splitSelectors rest).1, (splitSelectors rest).2 ++ [letter.toString])
    else (letter :: '.' :: rest, [])
  | chars => (chars, [])

/-- The reference that characters stand for. -/
def readReference (chars : List Char) : Reference :=
  ⟨String.ofList (splitSelectors chars.reverse).1.reverse, (splitSelectors chars.reverse).2⟩

/-- Characters without the mark that they have to end with. -/
def endedBy (mark : Char) (chars : List Char) : Option (List Char) :=
  if chars.getLast? = some mark then some chars.dropLast else none

/-- The call that characters without blanks stand for. -/
def readCall (chars : List Char) : Option Expression :=
  match Text.split '(' chars with
  | [function, rest] => do
    let inner ← endedBy ')' rest
    return .call (String.ofList function) ((Text.split ',' inner).map readReference)
  | _ => none

/-- The operation that words stand for. -/
def readOperation : List (List Char) → Option Expression
  | [lhs, symbol, rhs] => some (.binary (String.ofList symbol) (readReference lhs) (readReference rhs))
  | [condition, ['?'], success, [':'], failure] =>
    some (.choice (readReference condition) (readReference success) (readReference failure))
  | _ => none

/-- The expression that words stand for; only calls have brackets. -/
def readExpression (words : List (List Char)) : Option Expression :=
  if '(' ∈ words.flatten then readCall words.flatten else readOperation words

/-- The instruction that words stand for: an assignment, or a declaration with a type before its name. -/
def readInstruction : List (List Char) → Option Instruction
  | [target, ['='], value] => some (.assign (String.ofList target) (readReference value))
  | type :: name :: ['='] :: words => (readExpression words).map (.declare (String.ofList type) (String.ofList name))
  | _ => none

/-- The instruction of a line, which is indented by four blanks and ends with a semicolon. -/
def readLine (line : String) : Option Instruction :=
  match line.toList with
  | ' ' :: ' ' :: ' ' :: ' ' :: rest => do readInstruction (Text.split ' ' (← endedBy ';' rest))
  | _ => none

def readBody (text : String) : Option (List Instruction) :=
  if text = "" then some [] else (Text.lines text).mapM readLine

/-- The name that a reference begins with is atomic, and the letters selected from it are components. -/
structure Reference.Plain (reference : Reference) : Prop where
  base : Atomic reference.base
  selectors : ∀ letters ∈ reference.selectors, ∃ letter ∈ componentLetters, letters = letter.toString

/-- What an expression is put together from is plain, and calls have arguments. -/
def Expression.Plain : Expression → Prop
  | .binary symbol lhs rhs => Whole symbol ∧ lhs.Plain ∧ rhs.Plain
  | .choice condition success failure => condition.Plain ∧ success.Plain ∧ failure.Plain
  | .call function arguments => Whole function ∧ arguments ≠ [] ∧ ∀ argument ∈ arguments, argument.Plain

/-- What an instruction is put together from is plain. -/
def Instruction.Plain : Instruction → Prop
  | .declare type name expression => Whole type ∧ Whole name ∧ expression.Plain
  | .assign target value => Whole target ∧ value.Plain

private theorem Reference.text_append (base : String) (selectors : List String) (letters : String) :
    (Reference.mk base (selectors ++ [letters])).text = (Reference.mk base selectors).text ++ "." ++ letters := by
  simp [Reference.text]

private theorem splitSelectors_of_undotted {name : String} (undotted : Undotted name) :
    splitSelectors name.toList.reverse = (name.toList.reverse, []) := by
  unfold splitSelectors
  split
  · rename_i letter rest same
    split
    · rename_i component
      refine absurd ?_ (undotted letter component)
      rw [← name.toList.reverse_reverse, same]
      exact ⟨rest.reverse, by simp⟩
    · rw [same]
  · rfl

private theorem Reference.Plain.of_append {base : String} {selectors : List String} {letters : String}
    (plain : (Reference.mk base (selectors ++ [letters])).Plain) :
    (Reference.mk base selectors).Plain ∧ ∃ letter ∈ componentLetters, letters = letter.toString :=
  ⟨⟨plain.base, fun other member => plain.selectors other (List.mem_append_left _ member)⟩,
    plain.selectors letters (List.mem_append_right _ (List.mem_singleton.2 rfl))⟩

private theorem splitSelectors_text {reference : Reference} (plain : reference.Plain) :
    splitSelectors reference.text.toList.reverse = (reference.base.toList.reverse, reference.selectors) := by
  obtain ⟨base, selectors⟩ := reference
  induction selectors using List.reverseRecOn with
  | nil => exact splitSelectors_of_undotted plain.base.undotted
  | append_singleton selectors letters ih =>
    obtain ⟨others, letter, component, rfl⟩ := plain.of_append
    have reversed : (Reference.mk base (selectors ++ [letter.toString])).text.toList.reverse =
        letter :: '.' :: (Reference.mk base selectors).text.toList.reverse := by
      simp [Reference.text_append, Char.toString]
    rw [reversed, splitSelectors, if_pos component, ih others]

theorem readReference_text {reference : Reference} (plain : reference.Plain) :
    readReference reference.text.toList = reference := by
  rw [readReference, splitSelectors_text plain, List.reverse_reverse, String.ofList_toList]

private theorem Reference.Plain.whole_text {reference : Reference} (plain : reference.Plain) :
    Whole reference.text := by
  obtain ⟨base, selectors⟩ := reference
  induction selectors using List.reverseRecOn with
  | nil => exact plain.base.whole
  | append_singleton selectors letters ih =>
    obtain ⟨others, letter, component, rfl⟩ := plain.of_append
    have selected : Whole letter.toString := by
      simp only [componentLetters, List.mem_cons, List.not_mem_nil, or_false] at component
      rcases component with rfl | rfl | rfl | rfl <;> decide
    rw [Reference.text_append]
    exact ((ih others).append (by decide)).append selected

theorem endedBy_append (mark : Char) (chars : List Char) : endedBy mark (chars ++ [mark]) = some chars := by
  simp [endedBy]

private theorem filter_intercalate {pieces : List (List Char)} (free : ∀ piece ∈ pieces, ' ' ∉ piece) :
    ([',', ' '].intercalate pieces).filter (fun c => c ≠ ' ') = [','].intercalate pieces := by
  have kept : ∀ piece ∈ pieces, piece.filter (fun c => c ≠ ' ') = piece := by
    intro piece member
    refine List.filter_eq_self.2 (fun c inside => ?_)
    have differs : c ≠ ' ' := fun same => free piece member (same ▸ inside)
    simpa using differs
  clear free
  induction pieces with
  | nil => rfl
  | cons piece rest ih =>
    have first := kept piece List.mem_cons_self
    have others := ih (fun other member => kept other (List.mem_cons_of_mem _ member))
    cases rest with
    | nil => simpa using first
    | cons next rest =>
      rw [List.intercalate_cons_cons, List.intercalate_cons_cons, List.filter_append, List.filter_append, first, others]
      rfl

theorem not_mem_intercalate {mark : Char} {between : List Char} {pieces : List (List Char)} (apart : mark ∉ between)
    (free : ∀ piece ∈ pieces, mark ∉ piece) : mark ∉ between.intercalate pieces := by
  induction pieces with
  | nil => simp
  | cons piece rest ih =>
    have first := free piece List.mem_cons_self
    have others := ih (fun other member => free other (List.mem_cons_of_mem _ member))
    cases rest with
    | nil => simpa using first
    | cons next rest =>
      rw [List.intercalate_cons_cons]
      simp [first, apart, others]

private theorem readCall_text {function : String} {arguments : List Reference} (whole : Whole function)
    (given : arguments ≠ []) (plain : ∀ argument ∈ arguments, argument.Plain) :
    readExpression (Text.split ' ' (Expression.call function arguments).text.toList) =
      some (.call function arguments) := by
  have free : ∀ divider ∈ dividers, ∀ piece ∈ arguments.map (fun argument => argument.text.toList),
      divider ∉ piece := by
    intro divider member piece listed
    obtain ⟨argument, given, rfl⟩ := List.mem_map.1 listed
    exact (plain argument given).whole_text divider member
  -- Without blanks the call is its name and the arguments, divided by commas alone.
  have dense : (Text.split ' ' (Expression.call function arguments).text.toList).flatten =
      function.toList ++
        '(' :: ([','].intercalate (arguments.map (fun argument => argument.text.toList)) ++ [')']) := by
    have unbroken : function.toList.filter (fun c => c ≠ ' ') = function.toList := by
      refine List.filter_eq_self.2 (fun c inside => ?_)
      have differs : c ≠ ' ' := fun same => whole ' ' (by decide) (same ▸ inside)
      simpa using differs
    have joined := filter_intercalate (free ' ' (by decide))
    have text : (Expression.call function arguments).text.toList =
        function.toList ++ ['('] ++ [',', ' '].intercalate (arguments.map (fun argument => argument.text.toList)) ++
          [')'] := by
      simp [Expression.text, String.toList_intercalate, Function.comp_def]
    rw [Text.flatten_split, text]
    simp only [List.filter_append, unbroken, joined]
    simp
  have called := not_mem_intercalate (show '(' ∉ [','] by decide) (free '(' (by decide))
  have pieces := Text.split_intercalate (free ',' (by decide)) (by simpa using given)
  have parts : arguments.map (fun argument => readReference argument.text.toList) = arguments := by
    rw [List.map_congr_left (fun argument member => readReference_text (plain argument member)), List.map_id']
  rw [readExpression, dense, if_pos (by simp), readCall, Text.split_append (whole '(' (by decide)),
    Text.split_of_free (by simpa using called)]
  simp [endedBy_append, pieces, Function.comp_def, parts]

private theorem readExpression_text {expression : Expression} (plain : expression.Plain) :
    readExpression (Text.split ' ' expression.text.toList) = some expression := by
  cases expression with
  | call function arguments => exact readCall_text plain.1 plain.2.1 plain.2.2
  | binary symbol lhs rhs =>
    obtain ⟨whole, left, right⟩ := plain
    have text : (Expression.binary symbol lhs rhs).text.toList =
        lhs.text.toList ++ ' ' :: (symbol.toList ++ ' ' :: rhs.text.toList) := by
      simp [Expression.text]
    have blank := show ' ' ∈ dividers by decide
    have bracket := show '(' ∈ dividers by decide
    rw [text, Text.split_append (left.whole_text _ blank), Text.split_append (whole _ blank),
      Text.split_of_free (right.whole_text _ blank), readExpression, if_neg]
    · simp [readOperation, readReference_text left, readReference_text right]
    · simp [left.whole_text _ bracket, whole _ bracket, right.whole_text _ bracket]
  | choice condition success failure =>
    obtain ⟨asked, left, right⟩ := plain
    have text : (Expression.choice condition success failure).text.toList =
        condition.text.toList ++ ' ' :: (['?'] ++ ' ' :: (success.text.toList ++ ' ' ::
          ([':'] ++ ' ' :: failure.text.toList))) := by
      simp [Expression.text]
    have blank := show ' ' ∈ dividers by decide
    have bracket := show '(' ∈ dividers by decide
    rw [text, Text.split_append (asked.whole_text _ blank), Text.split_append (by decide),
      Text.split_append (left.whole_text _ blank), Text.split_append (by decide),
      Text.split_of_free (right.whole_text _ blank), readExpression, if_neg]
    · simp [readOperation, readReference_text asked, readReference_text left, readReference_text right]
    · simp [asked.whole_text _ bracket, left.whole_text _ bracket, right.whole_text _ bracket]

private theorem readLine_text {instruction : Instruction} (plain : instruction.Plain) :
    readLine ("    " ++ instruction.text) = some instruction := by
  have blank := show ' ' ∈ dividers by decide
  cases instruction with
  | assign target value =>
    obtain ⟨whole, held⟩ := plain
    have text : ("    " ++ (Instruction.assign target value).text).toList =
        ' ' :: ' ' :: ' ' :: ' ' :: (target.toList ++ ' ' :: (['='] ++ ' ' :: value.text.toList) ++ [';']) := by
      simp [Instruction.text]
    rw [readLine, text]
    simp only [endedBy_append, Option.bind_eq_bind, Option.bind_some]
    rw [Text.split_append (whole _ blank), Text.split_append (by decide), Text.split_of_free (held.whole_text _ blank),
      readInstruction, readReference_text held, String.ofList_toList]
  | declare type name expression =>
    obtain ⟨typeWhole, nameWhole, computed⟩ := plain
    have text : ("    " ++ (Instruction.declare type name expression).text).toList =
        ' ' :: ' ' :: ' ' :: ' ' :: (type.toList ++ ' ' :: (name.toList ++ ' ' :: (['='] ++ ' ' ::
          expression.text.toList)) ++ [';']) := by
      simp [Instruction.text]
    rw [readLine, text]
    simp only [endedBy_append, Option.bind_eq_bind, Option.bind_some]
    rw [Text.split_append (typeWhole _ blank), Text.split_append (nameWhole _ blank), Text.split_append (by decide)]
    have read := readExpression_text computed
    -- An expression has a word at least, so the line has more words than an assignment.
    cases words : Text.split ' ' expression.text.toList with
    | nil =>
      rw [words] at read
      exact nomatch read
    | cons word others =>
      rw [words] at read
      simp [readInstruction, read]

private theorem mapM_readLine {instructions : List Instruction}
    (plain : ∀ instruction ∈ instructions, instruction.Plain) :
    (instructions.map (fun instruction => "    " ++ instruction.text)).mapM readLine = some instructions := by
  induction instructions with
  | nil => rfl
  | cons instruction rest ih =>
    have others := ih (fun other member => plain other (List.mem_cons_of_mem _ member))
    simp [readLine_text (plain instruction List.mem_cons_self), others]

/-- Lines that can all be read can be read one by one. -/
theorem exists_readLine {lines : List String} {instructions : List Instruction}
    (read : lines.mapM readLine = some instructions) {line : String} (member : line ∈ lines) :
    ∃ instruction, readLine line = some instruction := by
  induction lines generalizing instructions with
  | nil => exact absurd member List.not_mem_nil
  | cons first rest ih =>
    simp only [List.mapM_cons, Option.bind_eq_bind, Option.bind_eq_some_iff] at read
    obtain ⟨instruction, here, others, later, _⟩ := read
    rcases List.mem_cons.1 member with rfl | below
    · exact ⟨instruction, here⟩
    · exact ih later below

theorem Expression.Plain.free {expression : Expression} (plain : expression.Plain) : '\n' ∉ expression.text.toList := by
  have feed := show '\n' ∈ dividers by decide
  cases expression with
  | binary symbol lhs rhs =>
    obtain ⟨whole, left, right⟩ := plain
    simp [Expression.text, whole _ feed, left.whole_text _ feed, right.whole_text _ feed]
  | choice condition success failure =>
    obtain ⟨asked, left, right⟩ := plain
    simp [Expression.text, asked.whole_text _ feed, left.whole_text _ feed, right.whole_text _ feed]
  | call function arguments =>
    obtain ⟨whole, _, each⟩ := plain
    have joined : '\n' ∉ [',', ' '].intercalate (arguments.map (fun argument => argument.text.toList)) := by
      refine not_mem_intercalate (by decide) (fun piece listed => ?_)
      obtain ⟨argument, given, rfl⟩ := List.mem_map.1 listed
      exact (each argument given).whole_text _ feed
    simpa [Expression.text, String.toList_intercalate, Function.comp_def, whole _ feed] using joined

theorem Instruction.Plain.free {instruction : Instruction} (plain : instruction.Plain) :
    '\n' ∉ instruction.text.toList := by
  have feed := show '\n' ∈ dividers by decide
  cases instruction with
  | assign target value =>
    obtain ⟨whole, held⟩ := plain
    simp [Instruction.text, whole _ feed, held.whole_text _ feed]
  | declare type name expression =>
    obtain ⟨typeWhole, nameWhole, computed⟩ := plain
    simp [Instruction.text, typeWhole _ feed, nameWhole _ feed, computed.free]

private theorem Instruction.text_ne (instruction : Instruction) : instruction.text ≠ "" := by
  intro blank
  have chars := congrArg String.toList blank
  cases instruction <;> simp [Instruction.text] at chars

private theorem bodyText_eq (stage : Stage) (instructions : List Instruction) :
    bodyText stage instructions = Text.unlines
      ((openingInstructions stage ++ instructions).map (fun instruction => "    " ++ instruction.text)) := by
  rw [bodyText, Listing.text, Listing.lines_pushAll]
  · simp [Listing.lines, Listing.empty, Function.comp_def, show Listing.margin ⟨"    ", 1, []⟩ = "    " by decide]
  · intro line member
    obtain ⟨instruction, _, rfl⟩ := List.mem_map.1 member
    exact instruction.text_ne

private theorem plain_openingInstructions {stage : Stage} {instruction : Instruction}
    (member : instruction ∈ openingInstructions stage) : instruction.Plain := by
  cases stage with
  | fragment => exact nomatch member
  | vertex =>
    obtain rfl := List.mem_singleton.1 member
    exact ⟨by decide, ⟨by decide, by decide⟩, fun _ selected => nomatch selected⟩

/-- The instructions of a body can be read from its text. -/
theorem readBody_bodyText {stage : Stage} {instructions : List Instruction}
    (plain : ∀ instruction ∈ instructions, instruction.Plain) :
    readBody (bodyText stage instructions) = some (openingInstructions stage ++ instructions) := by
  have all : ∀ instruction ∈ openingInstructions stage ++ instructions, instruction.Plain := by
    intro instruction member
    exact (List.mem_append.1 member).elim plain_openingInstructions (plain instruction)
  rw [bodyText_eq]
  generalize openingInstructions stage ++ instructions = written at all
  cases written with
  | nil => rfl
  | cons first rest =>
    have lines : Text.lines (Text.unlines ((first :: rest).map (fun instruction => "    " ++ instruction.text))) =
        (first :: rest).map (fun instruction => "    " ++ instruction.text) := by
      refine Text.lines_unlines (fun line member => ?_) (by simp)
      obtain ⟨instruction, listed, rfl⟩ := List.mem_map.1 member
      simpa using (all instruction listed).free
    have filled : Text.unlines ((first :: rest).map (fun instruction => "    " ++ instruction.text)) ≠ "" := by
      intro blank
      rw [blank] at lines
      have chars := congrArg String.toList (List.head_eq_of_cons_eq lines)
      simp at chars
    rw [readBody, if_neg filled, lines, mapM_readLine all]

end Shading.Glsl
