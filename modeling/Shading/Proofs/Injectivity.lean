import Shading.Proofs.Reuse
import Shading.Proofs.Scoping
import Shading.Proofs.Stability

/-!
# Names tell sources apart

Names are put together from fixed words, numerals and names of the interface. Every family of leaves has a rank of its own,
by which its names are told from all others, and within a family what a name is put together from can be read off. The
temporaries of a generator have numbers of their own. So what a value of a stage is referred to by says what the value
comes from (`names_tell_apart`), except that different floating point literals may be written alike.
-/

namespace Shading

open Glsl

/-- The last character of the name of a material field. -/
def fieldMark : MaterialField → Char
  | .texture => ']'
  | .scale => 'e'
  | .offset => 't'
  | .color => 'r'

theorem getLast?_append {stem ending : String} {mark : Char} (last : ending.toList.getLast? = some mark) :
    (stem ++ ending).toList.getLast? = some mark := by
  rw [String.toList_append, List.getLast?_append, last]
  rfl

private theorem getLast?_materialName (index : Int) (field : MaterialField) :
    (materialName index field).toList.getLast? = some (fieldMark field) := by
  cases field <;> exact getLast?_append (by decide)

private theorem materialName_inj {first second : MaterialField} {index other : Int}
    (same : materialName index first = materialName other second) : first = second ∧ index = other := by
  have last := congrArg (fun name => name.toList.getLast?) same
  simp only [getLast?_materialName, Option.some.injEq] at last
  have fields : first = second := by
    cases first <;> cases second <;> simp [fieldMark] at last ⊢
  subst fields
  refine ⟨rfl, intRepr_inj ?_⟩
  cases first <;> exact (String.append_right_inj _).1 ((String.append_left_inj _).1 same)

namespace Leaf

def isLiteral : Leaf → Bool
  | .literal _ _ => true
  | _ => false

/-- The rank of the name of a leaf that is no literal. -/
def rank : Leaf → Nat
  | .output .position | .output .pointSize => 0
  | .matrix .view => 1
  | .matrix .projection => 2
  | .uniform _ _ => 3
  | .vertexAttribute _ _ => 4
  | .matrix .model => 5
  | .instanceIndex => 6
  | .output (.named _) | .input _ => 7
  | .output .color => 8
  | .material _ _ => 9
  | .literal _ _ | .unknown _ => 11

end Leaf

section

variable {leaf : Leaf} {name : String}

private theorem rank_leafName (named : leafName leaf = .ok name) (other : leaf.isLiteral = false) :
    rank name = leaf.rank := by
  cases leaf with
  | vertexAttribute slot stream =>
    obtain ⟨_, rfl⟩ := leafName_attribute_eq_ok.1 named
    exact rank_attributeName slot stream
  | output output =>
    cases named
    cases output with
    | named name => exact rank_interfaceName name
    | position | pointSize | color => rfl
  | input name =>
    cases named
    exact rank_interfaceName name
  | instanceIndex =>
    cases named
    rfl
  | matrix matrix =>
    cases named
    cases matrix <;> rfl
  | uniform index =>
    cases named
    exact rank_uniformName index
  | literal => cases other
  | material index field =>
    cases named
    rw [rank, initials_materialName]
    rfl
  | unknown => cases named

private theorem literalType?_leafName (named : leafName leaf = .ok name) (other : leaf.isLiteral = false) :
    literalType? name = none := by
  cases leaf with
  | vertexAttribute slot stream =>
    obtain ⟨_, rfl⟩ := leafName_attribute_eq_ok.1 named
    exact (simple_attributeName slot stream).notLiteral
  | output output =>
    cases named
    cases output with
    | named name => exact literalType?_eq_none (by rw [outputName, initials_interfaceName]; rfl) (by decide) (by decide)
    | position | pointSize | color => decide
  | input name =>
    cases named
    exact literalType?_eq_none (by rw [initials_interfaceName]; rfl) (by decide) (by decide)
  | instanceIndex =>
    cases named
    decide
  | matrix matrix =>
    cases named
    cases matrix <;> decide
  | uniform index =>
    cases named
    exact (simple_uniformName index).notLiteral
  | literal => cases other
  | material index field =>
    cases named
    exact literalType?_eq_none (by rw [initials_materialName]; rfl) (by decide) (by decide)
  | unknown => cases named

end

private theorem Document.Formed.uniform_unique {document : Document} (formed : document.Formed) {index : Int}
    {first second : ShaderType} (left : Leaf.Legal document (.uniform index first))
    (right : Leaf.Legal document (.uniform index second)) : first = second := by
  have numbered : ∀ type, Leaf.Legal document (.uniform index type) → ∃ (place : Nat) (entry : String × Value),
      document.resources.uniforms.entries[place]? = some entry ∧ (place : Int) = index ∧ entry.2.type = type := by
    intro type legal
    have legal : ∃ entry ∈ document.resources.uniforms.entries, entry.2.source = .leaf (.uniform index type) := by
      cases document <;> exact legal
    obtain ⟨entry, entered, origin⟩ := legal
    obtain ⟨place, found⟩ := List.mem_iff_getElem?.1 entered
    rw [formed.resources.numbered found] at origin
    simp only [Source.leaf.injEq, Leaf.uniform.injEq] at origin
    exact ⟨place, entry, found, origin.1, origin.2⟩
  obtain ⟨place, entry, found, placed, rfl⟩ := numbered first left
  obtain ⟨other, same, foundSame, otherPlaced, rfl⟩ := numbered second right
  have places : place = other := by omega
  subst places
  cases found.symm.trans foundSame
  rfl

section

variable {document : Document} {first second : Leaf} {name : String}

private theorem variableName_inj (formed : document.Formed) (left : first.Legal document)
    (right : second.Legal document) (named : leafName first = .ok name) (namedToo : leafName second = .ok name)
    (firstOther : first.isLiteral = false) (secondOther : second.isLiteral = false) : first = second := by
  have ranks : first.rank = second.rank := by
    rw [← rank_leafName named firstOther, ← rank_leafName namedToo secondOther]
  have same : leafName first = leafName second := named.trans namedToo.symm
  -- Only outputs and inputs share a rank, and one stage has outputs to read back, the other one inputs.
  cases first with
  | vertexAttribute slot stream =>
    cases second with
    | vertexAttribute other further =>
      obtain ⟨_, rfl⟩ := leafName_attribute_eq_ok.1 named
      obtain ⟨rfl, rfl⟩ := attributeName_inj (leafName_attribute_eq_ok.1 namedToo).2
      rfl
    | _ => grind [Leaf.rank, cases Output, cases Matrix]
  | output output =>
    cases second with
    | output other => rw [outputName_inj (Except.ok.inj same)]
    | input asked =>
      cases document <;> cases output <;> simp [Leaf.Legal, Document.stage, Leaf.rank] at left right ranks
    | _ => grind [Leaf.rank, cases Output, cases Matrix]
  | input asked =>
    cases second with
    | output output =>
      cases document <;> cases output <;> simp [Leaf.Legal, Document.stage, Leaf.rank] at left right ranks
    | input other => rw [interfaceName_inj (Except.ok.inj same)]
    | _ => grind [Leaf.rank, cases Output, cases Matrix]
  | instanceIndex => cases second <;> grind [Leaf.rank, cases Output, cases Matrix]
  | matrix matrix =>
    cases second with
    | matrix other => cases matrix <;> cases other <;> simp [Leaf.rank] at ranks ⊢
    | _ => grind [Leaf.rank, cases Output, cases Matrix]
  | uniform index type =>
    cases second with
    | uniform other further =>
      have indices : index = other := intRepr_inj ((String.append_right_inj _).1 (Except.ok.inj same))
      subst indices
      rw [formed.uniform_unique left right]
    | _ => grind [Leaf.rank, cases Output, cases Matrix]
  | literal => cases firstOther
  | material index field =>
    cases second with
    | material other further =>
      obtain ⟨rfl, rfl⟩ := materialName_inj (Except.ok.inj same)
      rfl
    | _ => grind [Leaf.rank, cases Output, cases Matrix]
  | unknown => cases named

private theorem constantText_inj {first second : Constant} (named : literalText (.constant first) first.type = .ok name)
    (namedToo : literalText (.constant second) second.type = .ok name)
    (apart : ¬ (first.type = .float ∧ second.type = .float)) : first = second := by
  have proper : ∀ constant : Constant, typeOfWord? (wordOf constant.type) = some constant.type := by
    intro constant
    cases constant <;> rfl
  have words := (literalType?_constant named).symm.trans (literalType?_constant namedToo)
  have types : first.type = second.type :=
    Option.some.inj (by rw [← proper first, ← proper second, Option.some.inj words])
  cases first with
  | bool truth =>
    cases second with
    | bool other =>
      have texts : (if truth then "true" else "false") = if other then "true" else "false" :=
        Except.ok.inj (named.trans namedToo.symm)
      cases truth <;> cases other <;> simp at texts ⊢
    | _ => cases types
  | int number =>
    cases second with
    | int other =>
      obtain ⟨_, rfl⟩ := numeral_eq_ok.1 named
      rw [intRepr_inj (numeral_eq_ok.1 namedToo).2]
    | _ => cases types
  | double number =>
    cases second with
    | double other => exact absurd ⟨rfl, rfl⟩ apart
    | _ => cases types

/-- A literal is a constant that is written as none of the other leaves are. -/
theorem Leaf.Typed.constant {leaf : Leaf} {type : ShaderType} (typed : leaf.Typed type) (named : leafName leaf = .ok name)
    (isLiteral : leaf.isLiteral = true) : ∃ constant : Constant, leaf = .literal (.constant constant) constant.type ∧
      literalText (.constant constant) constant.type = .ok name ∧ literalType? name ≠ none := by
  cases leaf with
  | literal plain declared =>
    cases plain with
    | constant constant =>
      obtain ⟨rfl, _⟩ := typed
      have word := literalType?_constant named
      exact ⟨constant, rfl, named, by rw [word]; exact Option.some_ne_none _⟩
    | _ => exact typed.elim
  | _ => cases isLiteral

private theorem leafName_inj (formed : document.Formed) {firstType secondType : ShaderType}
    (firstTyped : first.Typed firstType) (secondTyped : second.Typed secondType) (left : first.Legal document)
    (right : second.Legal document) (named : leafName first = .ok name) (namedToo : leafName second = .ok name)
    (apart : ¬ ((∃ plain, first = .literal plain .float) ∧ ∃ plain, second = .literal plain .float)) : first = second := by
  cases firstIs : first.isLiteral with
  | true =>
    obtain ⟨constant, rfl, spelled, written⟩ := firstTyped.constant named firstIs
    cases secondIs : second.isLiteral with
    | true =>
      obtain ⟨other, rfl, otherSpelled, _⟩ := secondTyped.constant namedToo secondIs
      have same : constant = other := by
        refine constantText_inj spelled otherSpelled ?_
        rintro ⟨float, otherFloat⟩
        exact apart ⟨⟨_, by rw [float]⟩, ⟨_, by rw [otherFloat]⟩⟩
      rw [same]
    | false => exact absurd (literalType?_leafName namedToo secondIs) written
  | false =>
    cases secondIs : second.isLiteral with
    | true =>
      obtain ⟨_, _, _, written⟩ := secondTyped.constant namedToo secondIs
      exact absurd (literalType?_leafName named firstIs) written
    | false => exact variableName_inj formed left right named namedToo firstIs secondIs

end

/-- A value that a stage can use: it is well typed, as is all that it is computed from, and the leaves that it comes from
are legal in the document. -/
def Value.Usable (document : Document) (value : Value) : Prop :=
  ∀ read, value.Reaches read → read.Typed ∧ ∀ leaf, read.source = .leaf leaf → leaf.Legal document

/-- A source is a floating point literal. -/
def Source.IsFloatLiteral (source : Source) : Prop :=
  ∃ plain, source = .leaf (.literal plain .float)

/-- Sources are the same, or the same component of one node or of values that have the same source. -/
def Source.Agrees (first second : Source) : Prop :=
  first = second ∨ ∃ parent other letters, first = .component parent letters ∧ second = .component other letters ∧
    (parent.source = other.source ∨ ∃ node, parent.source.node? = some node ∧ other.source.node? = some node)

private theorem Value.Usable.of_operands {document : Document} {value : Value} (typed : value.Typed)
    (legal : ∀ leaf, value.source = .leaf leaf → leaf.Legal document)
    (operands : ∀ operand ∈ value.source.operands, operand.Usable document) : value.Usable document := by
  intro read below
  rcases Relation.ReflTransGen.cases_head below with rfl | ⟨operand, member, further⟩
  · exact ⟨typed, legal⟩
  · exact operands operand member read further

theorem Value.Usable.operand {document : Document} {value operand : Value} (usable : value.Usable document)
    (member : operand ∈ value.source.operands) : operand.Usable document :=
  fun read below => usable read (Value.reaches_of_operand member below)

namespace Glsl.Temporaries

variable {temporaries : Temporaries}

private theorem sourceReference_cases {source : Source} {reference : Reference}
    (named : temporaries.sourceReference source = .ok reference) :
    (∃ leaf name, source = .leaf leaf ∧ leafName leaf = .ok name ∧ reference = .ofName name) ∨
      ∃ parent letters inner, source = .component parent letters ∧ temporaries.reference parent = .ok inner ∧
        reference = inner.select letters := by
  cases source with
  | leaf leaf =>
    rw [sourceReference] at named
    cases spelled : leafName leaf with
    | error =>
      rw [spelled] at named
      cases named
    | ok name =>
      rw [spelled] at named
      cases named
      exact .inl ⟨leaf, name, rfl, spelled, rfl⟩
  | component parent letters =>
    rw [sourceReference] at named
    obtain ⟨inner, innerNamed, named⟩ := bind_eq_ok named
    cases named
    exact .inr ⟨parent, letters, inner, rfl, innerNamed, rfl⟩
  | _ =>
    rw [sourceReference] at named
    cases named

private theorem reference_of_sourceReference {value : Value} {reference : Reference}
    (named : temporaries.sourceReference value.source = .ok reference) : temporaries.reference value = .ok reference := by
  have plain : value.source.node? = none := by
    rcases sourceReference_cases named with ⟨leaf, _, origin, _⟩ | ⟨parent, letters, _, origin, _⟩
    · rw [origin]
      rfl
    · rw [origin]
      rfl
  rw [reference_eq, plain]
  exact named

private theorem reference_of_vector {parent : Value} {inner : Reference} (typed : parent.Typed)
    (wide : 2 ≤ parent.type.width) (named : temporaries.reference parent = .ok inner) :
    (∃ leaf name, parent.source = .leaf leaf ∧ leaf.isLiteral = false ∧ leafName leaf = .ok name ∧
        inner = .ofName name) ∨
      ∃ node index, parent.source.node? = some node ∧ temporaries.index? node = some index ∧
        inner = .ofName (temporary index) := by
  rw [reference_eq] at named
  cases isNode : parent.source.node? with
  | some node =>
    rw [isNode] at named
    cases found : temporaries.index? node with
    | none =>
      simp only [found] at named
      cases named
    | some index =>
      simp only [found] at named
      cases named
      exact .inr ⟨node, index, rfl, found, rfl⟩
  | none =>
    rw [isNode] at named
    have fits := typed.2
    rcases sourceReference_cases named with ⟨leaf, name, origin, spelled, rfl⟩ | ⟨further, letters, _, origin, _⟩
    · refine .inl ⟨leaf, name, origin, ?_, spelled, rfl⟩
      rw [origin] at fits
      cases leaf with
      | literal plain declared =>
        cases plain with
        | constant constant =>
          obtain ⟨rfl, same⟩ := fits
          rw [same] at wide
          cases constant <;> simp [Constant.type, ShaderType.width] at wide
        | _ => exact fits.elim
      | _ => rfl
    · rw [origin] at fits
      rw [fits.1] at wide
      simp [ShaderType.width] at wide

end Glsl.Temporaries

/-- The characters of identifiers. -/
def isWordChar (c : Char) : Bool :=
  c.isAlphanum || c == '_'

/-- The identifier that a text begins with. -/
def leadingWord (text : String) : String :=
  String.ofList (text.toList.takeWhile isWordChar)

private theorem toList_leadingWord (text : String) : ∃ rest, text.toList = (leadingWord text).toList ++ rest := by
  refine ⟨text.toList.dropWhile isWordChar, ?_⟩
  rw [leadingWord, String.toList_ofList, List.takeWhile_append_dropWhile]

private theorem leadingWord_dotted {word : String} (all : ∀ c ∈ word.toList, isWordChar c = true) (rest : String) :
    leadingWord (word ++ "." ++ rest) = word := by
  have chars : (word ++ "." ++ rest).toList = word.toList ++ '.' :: rest.toList := by simp
  rw [leadingWord, chars, List.takeWhile_append_of_pos all, List.takeWhile_cons_of_neg (by decide), List.append_nil,
    String.ofList_toList]

private theorem isWordChar_temporary (number : Nat) : ∀ c ∈ (temporary number).toList, isWordChar c = true := by
  intro c member
  have identifier : isIdentifier (temporary number).toList = true := isIdentifier_numbered (by decide) number
  simpa [isWordChar] using mem_identifier identifier member

private theorem head?_of_leadingWord {text : String} {number : Nat} (word : leadingWord text = temporary number) :
    text.toList.head? = some 't' := by
  obtain ⟨rest, chars⟩ := toList_leadingWord text
  rw [chars, word]
  simp [temporary]

private theorem Leaf.rank_lt {leaf : Leaf} {name : String} (named : leafName leaf = .ok name)
    (other : leaf.isLiteral = false) :
    leaf.rank < 10 := by
  cases leaf with
  | output output => cases output <;> simp [Leaf.rank]
  | matrix matrix => cases matrix <;> simp [Leaf.rank]
  | literal => cases other
  | unknown => cases named
  | _ => simp [Leaf.rank]

private theorem leadingWord_ne_of_leafName {leaf : Leaf} {name : String} (named : leafName leaf = .ok name)
    (other : leaf.isLiteral = false) (rest : String) (number : Nat) : leadingWord (name ++ rest) ≠ temporary number := by
  intro word
  have start := head?_of_leadingWord word
  have known := rank_leafName named other
  have low := Leaf.rank_lt named other
  rw [String.toList_append] at start
  cases chars : name.toList with
  | nil =>
    simp [rank, initials, chars] at known
    omega
  | cons first others =>
    rw [chars] at start
    cases start
    simp [rank, initials, chars] at known
    omega

private theorem leadingWord_ne_of_constant {constant : Constant} {name : String}
    (named : literalText (.constant constant) constant.type = .ok name) (number : Nat) :
    leadingWord name ≠ temporary number := by
  intro word
  have start := head?_of_leadingWord word
  rcases constantText_cases named with rfl | rfl | numeric
  · have whole : leadingWord "true" = "true" := by decide
    have plain := (simple_temporary number).notLiteral
    rw [← word, whole] at plain
    cases plain
  · cases start
  · exact absurd (numeric 't' (List.mem_of_mem_head? start)) (by decide)

section

variable {document : Document} {temporaries : Temporaries}

private theorem Glsl.Reference.select_inj {first second : Reference} {letters others : String}
    (same : first.select letters = second.select others) : first = second ∧ letters = others := by
  cases first
  cases second
  simp only [Reference.select, Reference.mk.injEq] at same ⊢
  obtain ⟨rfl, selectors⟩ := same
  obtain ⟨rfl, last⟩ := List.append_inj' selectors rfl
  exact ⟨⟨rfl, rfl⟩, List.singleton_inj.1 last⟩

private theorem vector_inj (formed : document.Formed) (distinct : temporaries.Distinct) {parent other : Value}
    {inner : Reference} (usable : parent.Usable document) (usableToo : other.Usable document)
    (wide : 2 ≤ parent.type.width) (wideToo : 2 ≤ other.type.width) (named : temporaries.reference parent = .ok inner)
    (namedToo : temporaries.reference other = .ok inner) :
    parent.source = other.source ∨ ∃ node, parent.source.node? = some node ∧ other.source.node? = some node := by
  obtain ⟨typed, legal⟩ := usable parent .refl
  obtain ⟨typedToo, legalToo⟩ := usableToo other .refl
  rcases Temporaries.reference_of_vector typed wide named with
    ⟨leaf, name, origin, plain, spelled, rfl⟩ | ⟨node, index, isNode, found, rfl⟩
  · rcases Temporaries.reference_of_vector typedToo wideToo namedToo with
      ⟨further, same, originToo, plainToo, spelledToo, names⟩ | ⟨node, index, _, _, names⟩
    · cases names
      rw [origin, originToo]
      exact .inl (congrArg Source.leaf
        (variableName_inj formed (legal _ origin) (legalToo _ originToo) spelled spelledToo plain plainToo))
    · -- The rank of a temporary is that of no leaf.
      cases names
      have known := rank_leafName spelled plain
      have low := Leaf.rank_lt spelled plain
      rw [rank_temporary] at known
      omega
  · rcases Temporaries.reference_of_vector typedToo wideToo namedToo with
      ⟨further, same, _, plainToo, spelledToo, names⟩ | ⟨nodeToo, indexToo, isNodeToo, foundToo, names⟩
    · cases names
      have known := rank_leafName spelledToo plainToo
      have low := Leaf.rank_lt spelledToo plainToo
      rw [rank_temporary] at known
      omega
    · have indices : index = indexToo := temporary_inj (congrArg Reference.base names)
      subst indices
      have nodes := distinct.injective found foundToo
      subst nodes
      exact .inr ⟨node, isNode, isNodeToo⟩

/-- What a component is selected from. -/
theorem Value.Usable.parent {value parent : Value} {letters : String} (usable : value.Usable document)
    (origin : value.source = .component parent letters) : parent.Usable document ∧ 2 ≤ parent.type.width := by
  refine ⟨usable.operand (by simp [origin, Source.operands]), ?_⟩
  have fits := (usable value .refl).1.2
  rw [origin] at fits
  exact fits.2.1

/-- Sources that are written alike agree, unless both are floating point literals. -/
theorem Value.Usable.agrees (formed : document.Formed) (distinct : temporaries.Distinct) {first second : Value}
    {left right : Reference} (usable : first.Usable document) (usableToo : second.Usable document)
    (named : temporaries.sourceReference first.source = .ok left)
    (namedToo : temporaries.sourceReference second.source = .ok right) (texts : left.text = right.text)
    (apart : ¬ (first.source.IsFloatLiteral ∧ second.source.IsFloatLiteral)) : first.source.Agrees second.source := by
  have plain := plain_reference (fun read below => (usable read below).1)
    (Temporaries.reference_of_sourceReference named)
  have plainToo := plain_reference (fun read below => (usableToo read below).1)
    (Temporaries.reference_of_sourceReference namedToo)
  have same : left = right := by rw [← readReference_text plain, ← readReference_text plainToo, texts]
  subst same
  obtain ⟨typed, legal⟩ := usable first .refl
  obtain ⟨typedToo, legalToo⟩ := usableToo second .refl
  rcases Temporaries.sourceReference_cases named with
    ⟨leaf, name, origin, spelled, rfl⟩ | ⟨parent, letters, inner, origin, innerNamed, rfl⟩
  · rcases Temporaries.sourceReference_cases namedToo with
      ⟨other, _, originToo, spelledToo, names⟩ | ⟨_, _, _, _, _, names⟩
    · cases names
      have fits := typed.2
      have fitsToo := typedToo.2
      rw [origin] at fits apart
      rw [originToo] at fitsToo apart
      have leaves : leaf = other := by
        refine leafName_inj formed fits fitsToo (legal _ origin) (legalToo _ originToo) spelled spelledToo ?_
        rintro ⟨⟨plain, rfl⟩, ⟨plainToo, rfl⟩⟩
        exact apart ⟨⟨plain, rfl⟩, ⟨plainToo, rfl⟩⟩
      rw [origin, originToo, leaves]
      exact .inl rfl
    · exact absurd (congrArg Reference.selectors names) (by simp [Reference.ofName, Reference.select])
  · rcases Temporaries.sourceReference_cases namedToo with
      ⟨_, _, _, _, names⟩ | ⟨other, others, innerToo, originToo, innerNamedToo, names⟩
    · exact absurd (congrArg Reference.selectors names) (by simp [Reference.ofName, Reference.select])
    · obtain ⟨rfl, rfl⟩ := Reference.select_inj names
      obtain ⟨parentUsable, wide⟩ := usable.parent origin
      obtain ⟨otherUsable, wideToo⟩ := usableToo.parent originToo
      exact .inr ⟨parent, other, letters, origin, originToo,
        vector_inj formed distinct parentUsable otherUsable wide wideToo innerNamed innerNamedToo⟩

private theorem Value.Usable.component_of_leadingWord {value : Value} {reference : Reference} {number : Nat}
    (usable : value.Usable document) (named : temporaries.sourceReference value.source = .ok reference)
    (word : leadingWord reference.text = temporary number) :
    ∃ parent letters node, value.source = .component parent letters ∧ parent.source.node? = some node ∧
      temporaries.index? node = some number := by
  rcases Temporaries.sourceReference_cases named with
    ⟨leaf, name, origin, spelled, rfl⟩ | ⟨parent, letters, inner, origin, innerNamed, rfl⟩
  · have fits := (usable value .refl).1.2
    rw [origin] at fits
    cases isLiteral : leaf.isLiteral with
    | false =>
      have whole : (Reference.ofName name).text = name ++ "" := by simp [Reference.ofName, Reference.text]
      rw [whole] at word
      exact absurd word (leadingWord_ne_of_leafName spelled isLiteral "" number)
    | true =>
      obtain ⟨constant, rfl, spelled, _⟩ := fits.constant spelled isLiteral
      exact absurd word (leadingWord_ne_of_constant spelled number)
  · obtain ⟨parentUsable, wide⟩ := usable.parent origin
    rcases Temporaries.reference_of_vector (parentUsable parent .refl).1 wide innerNamed with
      ⟨leaf, name, _, plain, spelled, rfl⟩ | ⟨node, index, isNode, found, rfl⟩
    · have whole : ((Reference.ofName name).select letters).text = name ++ ("." ++ letters) := by
        simp [Reference.ofName, Reference.select, Reference.text, String.append_assoc]
      rw [whole] at word
      exact absurd word (leadingWord_ne_of_leafName spelled plain _ number)
    · have whole : ((Reference.ofName (temporary index)).select letters).text = temporary index ++ "." ++ letters := rfl
      rw [whole, leadingWord_dotted (isWordChar_temporary index)] at word
      rw [temporary_inj word] at found
      exact ⟨parent, letters, node, origin, isNode, found⟩

end

namespace Script

/-- In every document that a script makes, and whatever temporaries there are: values that are referred to by the same text
come from the same source, or are the same component of the same node or source, unless both are floating point literals.
A text begins with a temporary only for a component of the node that has the temporary. -/
theorem names_tell_apart (script : List Command) (name : String) (document : Document) (temporaries : Temporaries)
    (held : (Session.start.after script).documents.get? name = some document) (reached : temporaries.Reached) :
    (∀ (first second : Value) (left right : Reference), first.Usable document → second.Usable document →
      temporaries.sourceReference first.source = .ok left → temporaries.sourceReference second.source = .ok right →
      left.text = right.text → ¬ (first.source.IsFloatLiteral ∧ second.source.IsFloatLiteral) →
        first.source.Agrees second.source) ∧
      ∀ (value : Value) (reference : Reference) (number : Nat), value.Usable document →
        temporaries.sourceReference value.source = .ok reference → leadingWord reference.text = temporary number →
          ∃ parent letters node, value.source = .component parent letters ∧ parent.source.node? = some node ∧
            temporaries.index? node = some number := by
  have formed := Session.formed_after held
  constructor
  · intro first second left right usable usableToo named namedToo texts apart
    exact usable.agrees formed reached.distinct usableToo named namedToo texts apart
  · intro value reference number usable named word
    exact usable.component_of_leadingWord named word

/-- The first component of the sum of two colors, whose node has the first temporary. -/
theorem names_doubled : ∃ (document : Document) (first second : Value) (temporaries : Temporaries) (reference : Reference),
    (Session.start.after doubled).documents.get? "v" = some document ∧ temporaries.Reached ∧
      first.Usable document ∧ second.Usable document ∧ first ≠ second ∧ reference.text = "t0.x" ∧
      temporaries.sourceReference first.source = .ok reference ∧
      temporaries.sourceReference second.source = .ok reference ∧ first.source.Agrees second.source ∧
      ∃ parent letters node, first.source = .component parent letters ∧ parent.source.node? = some node ∧
        temporaries.index? node = some 0 := by
  let sum : Value := .mk 2 .vec4 (.arithmetic 1 .add doubled.color doubled.color)
  let document : Document := .vertex doubled.vertex
  let temporaries : Temporaries := (Temporaries.start (some .vertex)).withNode 1
  have held : (Session.start.after doubled).documents.get? "v" = some document := by rfl
  have declared : (Temporaries.start (some .vertex)).declare (some 1) = .ok (temporary 0, temporaries) :=
    (Temporaries.numbers_start _).declare List.not_mem_nil
  have reached : temporaries.Reached := .declare (.start _) declared
  have color : doubled.color.Usable document := by
    refine .of_operands ⟨by decide, rfl⟩ ?_ (by simp [doubled.color, Value.source, Source.operands])
    rintro leaf ⟨⟩
    trivial
  have sumUsable : sum.Usable document := by
    refine .of_operands ⟨by decide, _, _, _, rfl, rfl⟩ (fun _ origin => by cases origin) ?_
    intro operand member
    simp only [sum, Value.source, Source.operands, List.mem_cons, List.not_mem_nil, or_false, or_self] at member
    rwa [member]
  have component : ∀ key, (Value.mk key .float (.component sum "x")).Usable document := by
    intro key
    refine .of_operands ⟨by simp [Value.type], rfl, by decide, by decide, 'x', by decide, rfl⟩
      (fun _ origin => by cases origin) ?_
    intro operand member
    simp only [Value.source, Source.operands, List.mem_singleton] at member
    rwa [member]
  have named : temporaries.sourceReference (.component sum "x") = .ok ⟨"t0", ["x"]⟩ := by rfl
  obtain ⟨agree, begins⟩ := names_tell_apart doubled "v" document temporaries held reached
  let first : Value := .mk 3 .float (.component sum "x")
  let second : Value := .mk 4 .float (.component sum "x")
  have agrees : first.source.Agrees second.source := by
    refine agree first second _ _ (component 3) (component 4) named named rfl ?_
    rintro ⟨⟨_, literal⟩, _⟩
    cases literal
  exact ⟨document, first, second, temporaries, ⟨"t0", ["x"]⟩, held, reached, component 3, component 4,
    by simp [first, second], by decide, named, named, agrees, begins first _ 0 (component 3) named (by decide)⟩

end Script

end Shading
