import Shading.Listing

/-!
# Lines of texts and listings

A text that is put together from lines can be taken apart into them again, and a listing holds the lines that were
pushed to it behind its margin, except that blank lines never pile up.
-/

namespace Shading

namespace Text

private theorem split_eq_splitOn (mark : Char) (chars : List Char) : split mark chars = chars.splitOn mark := by
  induction chars with
  | nil => rfl
  | cons c rest ih =>
    rw [split, ih, List.splitOn, List.splitOn, List.splitOnP_cons_eq_if_modifyHead]
    by_cases same : c = mark
    · simp [same]
    · rw [if_neg same, if_neg (by simpa using same)]
      cases pieces : List.splitOnP (· == mark) rest with
      | nil => exact absurd pieces (List.splitOnP_ne_nil _ _)
      | cons piece others => rfl

/-- Pieces that do not hold the mark come back when they are joined by it. -/
theorem split_intercalate {mark : Char} {pieces : List (List Char)} (free : ∀ piece ∈ pieces, mark ∉ piece)
    (some : pieces ≠ []) : split mark ([mark].intercalate pieces) = pieces := by
  rw [split_eq_splitOn, List.splitOn_intercalate mark free some]

theorem split_of_free {mark : Char} {piece : List Char} (free : mark ∉ piece) : split mark piece = [piece] := by
  simpa using split_intercalate (show ∀ other ∈ [piece], mark ∉ other by simpa using free) (by simp)

theorem split_ne_nil (mark : Char) (chars : List Char) : split mark chars ≠ [] := by
  rw [split_eq_splitOn]
  exact List.splitOnP_ne_nil _ _

/-- A mark divides a text into the pieces before it and the pieces behind it. -/
theorem split_append_mark (mark : Char) (first second : List Char) :
    split mark (first ++ mark :: second) = split mark first ++ split mark second := by
  induction first with
  | nil => simp [split]
  | cons c rest ih =>
    rw [List.cons_append, split, split, ih]
    by_cases same : c = mark
    · rw [if_pos same, if_pos same, List.cons_append]
    · rw [if_neg same, if_neg same]
      cases pieces : split mark rest with
      | nil => exact absurd pieces (split_ne_nil mark rest)
      | cons piece others => rfl

theorem split_append {mark : Char} {piece : List Char} (free : mark ∉ piece) (rest : List Char) :
    split mark (piece ++ mark :: rest) = piece :: split mark rest := by
  rw [split_append_mark, split_of_free free, List.singleton_append]

/-- The pieces of a text make up the text again. -/
theorem intercalate_split (mark : Char) (text : String) :
    (String.singleton mark).intercalate ((split mark text.toList).map String.ofList) = text := by
  have same : String.toList ∘ String.ofList = id := funext (fun _ => String.toList_ofList)
  rw [← String.toList_inj, String.toList_intercalate, List.map_map, same, List.map_id, split_eq_splitOn,
    String.toList_singleton]
  exact List.intercalate_splitOn mark

/-- The pieces of a text without what marks their ends. -/
theorem flatten_split (mark : Char) (chars : List Char) :
    (split mark chars).flatten = chars.filter (fun c => c ≠ mark) := by
  induction chars with
  | nil => rfl
  | cons c rest ih =>
    unfold split
    split
    · rename_i same
      simp [same, ih]
    · rename_i differs
      rw [List.filter_cons_of_pos (by simpa using differs), ← ih]
      split <;> rename_i pieces <;> simp [pieces]

theorem not_mem_of_mem_split {mark : Char} {chars piece : List Char} (member : piece ∈ split mark chars) :
    mark ∉ piece := by
  induction chars generalizing piece with
  | nil =>
    obtain rfl := List.mem_singleton.1 member
    exact List.not_mem_nil
  | cons c rest ih =>
    unfold split at member
    split at member
    · rcases List.mem_cons.1 member with rfl | later
      · exact List.not_mem_nil
      · exact ih later
    · rename_i differs
      split at member
      · obtain rfl := List.mem_singleton.1 member
        simpa using Ne.symm differs
      · rename_i first others pieces
        rcases List.mem_cons.1 member with rfl | later
        · rw [List.mem_cons, not_or]
          exact ⟨Ne.symm differs, ih (pieces ▸ List.mem_cons_self)⟩
        · exact ih (pieces ▸ List.mem_cons_of_mem _ later)

/-- The lines of texts that stand under each other are the lines of each of them. -/
theorem lines_unlines_flatMap {texts : List String} (some : texts ≠ []) :
    Text.lines (unlines texts) = texts.flatMap Text.lines := by
  induction texts with
  | nil => exact absurd rfl some
  | cons text rest ih =>
    cases rest with
    | nil => simp [unlines]
    | cons next further =>
      have joined : (unlines (text :: next :: further)).toList =
          text.toList ++ '\n' :: (unlines (next :: further)).toList := by
        simp [unlines, String.toList_intercalate]
      rw [List.flatMap_cons, ← ih (by simp), Text.lines, joined, split_append_mark, List.map_append, Text.lines,
        Text.lines]

theorem lines_of_free {line : String} (free : '\n' ∉ line.toList) : Text.lines line = [line] := by
  simp [Text.lines, split_of_free free]

theorem flatMap_lines {lines : List String} (free : ∀ line ∈ lines, '\n' ∉ line.toList) :
    lines.flatMap Text.lines = lines := by
  induction lines with
  | nil => rfl
  | cons line rest ih =>
    rw [List.flatMap_cons, lines_of_free (free line List.mem_cons_self),
      ih (fun other member => free other (List.mem_cons_of_mem _ member)), List.singleton_append]

theorem lines_unlines {lines : List String} (free : ∀ line ∈ lines, '\n' ∉ line.toList) (some : lines ≠ []) :
    Text.lines (unlines lines) = lines := by
  rw [lines_unlines_flatMap some, flatMap_lines free]

/-- Lines that hold no line feed come back one by one, whatever follows them. -/
theorem lines_unlines_append {first rest : List String} (free : ∀ line ∈ first, '\n' ∉ line.toList)
    (some : rest ≠ []) : Text.lines (unlines (first ++ rest)) = first ++ Text.lines (unlines rest) := by
  rw [lines_unlines_flatMap (List.append_ne_nil_of_right_ne_nil first some), List.flatMap_append, flatMap_lines free,
    lines_unlines_flatMap some]

theorem free_of_mem_lines {text line : String} (member : line ∈ Text.lines text) : '\n' ∉ line.toList := by
  obtain ⟨piece, split, rfl⟩ := List.mem_map.1 member
  rw [String.toList_ofList]
  exact not_mem_of_mem_split split

theorem lines_ne_nil (text : String) : Text.lines text ≠ [] := by
  simpa [Text.lines] using split_ne_nil '\n' text.toList

theorem unlines_lines (text : String) : unlines (Text.lines text) = text :=
  intercalate_split '\n' text

private theorem split_append_of_free {mark : Char} {start chars piece : List Char} {others : List (List Char)}
    (free : mark ∉ start) (pieces : split mark chars = piece :: others) :
    split mark (start ++ chars) = (start ++ piece) :: others := by
  induction start with
  | nil => exact pieces
  | cons c rest ih =>
    rw [List.mem_cons, not_or] at free
    rw [List.cons_append, split, if_neg (Ne.symm free.1), ih free.2]
    rfl

theorem lines_append_of_free {start text line : String} {others : List String} (free : '\n' ∉ start.toList)
    (lines : Text.lines text = line :: others) : Text.lines (start ++ text) = (start ++ line) :: others := by
  obtain ⟨piece, others, pieces, rfl, rfl⟩ := List.map_eq_cons_iff.1 lines
  rw [Text.lines, String.toList_append, split_append_of_free free pieces]
  simp

/-- The characters of a line are characters of the text. -/
theorem mem_of_mem_lines {text line : String} (listed : line ∈ Text.lines text) {c : Char} (member : c ∈ line.toList) :
    c ∈ text.toList := by
  obtain ⟨piece, among, rfl⟩ := List.mem_map.1 listed
  rw [String.toList_ofList] at member
  have inside : c ∈ (split '\n' text.toList).flatten := List.mem_flatten.2 ⟨piece, among, member⟩
  rw [flatten_split] at inside
  exact (List.mem_filter.1 inside).1

theorem tail_lines_eq_nil {text : String} : (Text.lines text).tail = [] ↔ '\n' ∉ text.toList := by
  constructor
  · intro single
    obtain ⟨line, others, lines⟩ := List.exists_cons_of_ne_nil (lines_ne_nil text)
    rw [lines, List.tail_cons] at single
    rw [← unlines_lines text, lines, single]
    exact free_of_mem_lines (lines ▸ List.mem_cons_self)
  · intro free
    rw [lines_of_free free, List.tail_cons]

end Text

namespace Listing

theorem push_of_ne {listing : Listing} {line : String} (filled : line ≠ "") :
    listing.push line = { listing with written := (listing.margin ++ line) :: listing.written } := by
  rw [push, if_neg filled]

/-- Lines that are not blank are all written. -/
theorem lines_pushAll {listing : Listing} {lines : List String} (filled : ∀ line ∈ lines, line ≠ "") :
    (listing.pushAll lines).lines = listing.lines ++ lines.map (fun line => listing.margin ++ line) := by
  induction lines generalizing listing with
  | nil => simp [pushAll]
  | cons line rest ih =>
    have first := filled line List.mem_cons_self
    have others := @ih (listing.push line) (fun other member => filled other (List.mem_cons_of_mem _ member))
    rw [push_of_ne first] at others
    rw [pushAll, List.foldl_cons, push_of_ne first]
    simpa [pushAll, Listing.lines, margin] using others

private theorem margin_push (listing : Listing) (line : String) : (listing.push line).margin = listing.margin := by
  unfold push
  split
  · split <;> rfl
  · rfl

/-- Pushing lines changes nothing but the lines. -/
theorem pushAll_eq (listing : Listing) (lines : List String) :
    ∃ written, listing.pushAll lines = { listing with written := written } := by
  induction lines generalizing listing with
  | nil => exact ⟨listing.written, rfl⟩
  | cons line rest ih =>
    obtain ⟨written, pushed⟩ := ih (listing.push line)
    refine ⟨written, ?_⟩
    rw [pushAll, List.foldl_cons, ← pushAll, pushed]
    unfold push
    split
    · split <;> rfl
    · rfl

/-- What is gathered from lines, blank ones aside, is the same before and after they are pushed. -/
theorem filterMap_pushAll {α : Type} {gather : String → Option α} (blank : gather "" = none) {listing : Listing}
    (left : listing.margin = "") (lines : List String) :
    (listing.pushAll lines).lines.filterMap gather = listing.lines.filterMap gather ++ lines.filterMap gather := by
  induction lines generalizing listing with
  | nil => simp [pushAll]
  | cons line rest ih =>
    have step : (listing.push line).lines.filterMap gather =
        listing.lines.filterMap gather ++ [line].filterMap gather := by
      unfold push
      split
      · rename_i empty
        subst empty
        split <;> simp [Listing.lines, blank]
      · simp [Listing.lines, left]
    have others := @ih (listing.push line) (by rw [margin_push, left])
    rw [pushAll, List.foldl_cons, ← pushAll, others, step, List.append_assoc, ← List.filterMap_append,
      List.singleton_append]

/-- Every line of a listing at the left margin was pushed, or is blank. -/
theorem mem_lines_pushAll {listing : Listing} (left : listing.margin = "") {lines : List String} {line : String}
    (member : line ∈ (listing.pushAll lines).lines) : line ∈ listing.lines ∨ line ∈ lines ∨ line = "" := by
  induction lines generalizing listing with
  | nil => exact .inl member
  | cons first rest ih =>
    rw [pushAll, List.foldl_cons, ← pushAll] at member
    rcases ih (by rw [margin_push, left]) member with old | later | blank
    · unfold push at old
      split at old
      · split at old
        · exact .inl old
        · exact .inl old
        · rcases List.mem_cons.1 (List.mem_reverse.1 old) with new | before
          · exact .inr (.inr new)
          · exact .inl (List.mem_reverse.2 before)
      · rcases List.mem_cons.1 (List.mem_reverse.1 old) with new | before
        · rw [left, String.empty_append] at new
          exact .inr (.inl (new ▸ List.mem_cons_self))
        · exact .inl (List.mem_reverse.2 before)
    · exact .inr (.inl (List.mem_cons_of_mem _ later))
    · exact .inr (.inr blank)

end Listing

end Shading
