import Shading.Proofs.Sources

/-!
# Scopes

A body refers to variables that stand in its scope: those that the shading language has, those that the lines before the
body declare, and the temporaries of earlier lines. A scope gives a type to a reference only if the variable that the
reference starts with is declared exactly once, and it accepts a line only if all references of the line have types
(`Scope.check`). The check reads nothing but the text of a source.

A scope that agrees with the values of a plan (`Scope.Tracks`) accepts the lines that they are rendered as
(`Scope.Tracks.run`).
-/

namespace Shading

open Glsl

/-- A variable with the word for its type, and with its size if it is a table. -/
structure Variable where
  name : String
  type : String
  size : Option Nat
deriving DecidableEq

/-- A name before a number in brackets, the number, and what follows. -/
def readIndexed (text : String) : Option (String × Nat × List Char) :=
  match text.toList.dropWhile (fun c => c ≠ '[') with
  | [] => none
  | _ :: rest =>
    match rest.dropWhile (fun c => c ≠ ']') with
    | [] => none
    | _ :: ending => do
      let number ← readNumber (rest.takeWhile (fun c => c ≠ ']'))
      return (String.ofList (text.toList.takeWhile (fun c => c ≠ '[')), number, ending)

/-- The variable of a declaration; a table has its size in brackets. -/
def Glsl.Declaration.toVariable (declaration : Declaration) : Variable :=
  match readIndexed declaration.name with
  | some (stem, size, []) => ⟨stem, declaration.type, some size⟩
  | _ => ⟨declaration.name, declaration.type, none⟩

/-- The variables of a stage that need no declaration. -/
def builtins : Stage → List Variable
  | .vertex => [⟨"gl_Position", "vec4", none⟩, ⟨"gl_PointSize", "float", none⟩, ⟨"gl_InstanceID", "int", none⟩]
  | .fragment => []

/-- The type of a literal: a truth value, or a number, which is an integer if it has neither a point nor an exponent. -/
def literalType? (text : String) : Option String :=
  if text = "true" ∨ text = "false" then some "bool"
  else if text.toList.all isNumeric && text.toList.any Char.isDigit then
    some (if '.' ∈ text.toList ∨ 'e' ∈ text.toList then "float" else "int")
  else none

/-- The type of a component that is selected from a value of a type. -/
def componentType? (type letters : String) : Option String := do
  let whole ← typeOfWord? type
  if 2 ≤ whole.width ∧ whole.width ≤ 4 ∧ letters ∈ (componentLetters.take whole.width).map Char.toString then
    some "float"
  else none

/-- The variables that a line can refer to, and the fields of structures. -/
structure Scope where
  entries : List Variable
  fields : String → List (String × String)

namespace Scope

/-- The scope at the beginning of the body of a source. -/
def ofSource (stage : Stage) (source : String) : Scope where
  entries := builtins stage ++ (declarationsOf source).map Declaration.toVariable
  fields := fieldsOf source

/-- The variable of a name that is declared exactly once. -/
def find? (scope : Scope) (name : String) : Option Variable :=
  match scope.entries.filter (fun entry => entry.name = name) with
  | [found] => some found
  | _ => none

/-- The type of an element of a table, or of a field of an element. The index is below the size of the table. -/
def elementType? (scope : Scope) (stem : String) (index : Nat) (ending : List Char) : Option String := do
  let found ← scope.find? stem
  let size ← found.size
  if index < size then
    match ending with
    | [] => some found.type
    | '.' :: field => (scope.fields found.type).lookup (String.ofList field)
    | _ => none
  else none

/-- The type of a variable that is not a table. -/
def variableType? (scope : Scope) (name : String) : Option String := do
  let found ← scope.find? name
  if found.size = none then some found.type else none

/-- The type of what a reference starts with. -/
def baseType? (scope : Scope) (base : String) : Option String :=
  match literalType? base, readIndexed base with
  | some type, _ => some type
  | none, some (stem, index, ending) => scope.elementType? stem index ending
  | none, none => scope.variableType? base

def typeOf? (scope : Scope) (reference : Reference) : Option String := do
  let type ← scope.baseType? reference.base
  reference.selectors.foldlM componentType? type

/-- The scope with one more variable. -/
def declare (scope : Scope) (name type : String) : Scope :=
  { scope with entries := scope.entries ++ [⟨name, type, none⟩] }

/-- The scope after a line. A declaration is of a new variable, and what it refers to has types. An assignment is of a
variable that has the type of the reference. -/
def check (scope : Scope) : Instruction → Option Scope
  | .declare type name expression =>
    if (∀ reference ∈ expression.references, (scope.typeOf? reference).isSome = true) ∧
        ∀ entry ∈ scope.entries, entry.name ≠ name then
      some (scope.declare name type)
    else none
  | .assign target value =>
    if (scope.variableType? target).isSome = true ∧ scope.variableType? target = scope.typeOf? value then some scope
    else none

section

variable {scope : Scope} {name type : String}

private theorem find?_eq_some {found : Variable} (isOne : scope.find? name = some found) :
    found.name = name ∧ found ∈ scope.entries := by
  unfold find? at isOne
  split at isOne
  · rename_i only alone
    cases isOne
    have member : found ∈ scope.entries.filter (fun entry => entry.name = name) := by simp [alone]
    rw [List.mem_filter] at member
    exact ⟨by simpa using member.2, member.1⟩
  · exact nomatch isOne

theorem find?_of_mem (distinct : (scope.entries.map Variable.name).Nodup) {entry : Variable}
    (member : entry ∈ scope.entries) : scope.find? entry.name = some entry := by
  have only : scope.entries.filter (fun other => other.name = entry.name) = [entry] := by
    generalize scope.entries = entries at distinct member
    induction entries with
    | nil => exact nomatch member
    | cons first rest ih =>
      rw [List.map_cons, List.nodup_cons] at distinct
      rcases List.mem_cons.1 member with rfl | later
      · rw [List.filter_cons_of_pos (by simp)]
        refine congrArg _ (List.filter_eq_nil_iff.2 (fun other listed => ?_))
        have apart : other.name ≠ entry.name := fun same => distinct.1 (same ▸ List.mem_map.2 ⟨other, listed, rfl⟩)
        simpa using apart
      · have apart : first.name ≠ entry.name := fun same => distinct.1 (same ▸ List.mem_map.2 ⟨entry, later, rfl⟩)
        rw [List.filter_cons_of_neg (by simpa using apart)]
        exact ih distinct.2 later
  rw [find?, only]

private theorem find?_declare_self (fresh : ∀ entry ∈ scope.entries, entry.name ≠ name) :
    (scope.declare name type).find? name = some ⟨name, type, none⟩ := by
  have none : scope.entries.filter (fun entry => entry.name = name) = [] :=
    List.filter_eq_nil_iff.2 (fun entry member => by simpa using fresh entry member)
  simp [find?, declare, List.filter_append, none]

private theorem find?_declare {other : String} {found : Variable} (fresh : ∀ entry ∈ scope.entries, entry.name ≠ name)
    (isOne : scope.find? other = some found) : (scope.declare name type).find? other = some found := by
  obtain ⟨named, member⟩ := find?_eq_some isOne
  have apart : ¬ name = other := fun same => fresh found member (named.trans same.symm)
  rw [← isOne, find?, find?, declare, List.filter_append]
  simp [apart]

private theorem variableType?_declare {other word : String} (fresh : ∀ entry ∈ scope.entries, entry.name ≠ name)
    (known : scope.variableType? other = some word) : (scope.declare name type).variableType? other = some word := by
  obtain ⟨found, isOne, typed⟩ := Option.bind_eq_some_iff.1 known
  exact Option.bind_eq_some_iff.2 ⟨found, find?_declare fresh isOne, typed⟩

private theorem baseType?_declare {base word : String} (fresh : ∀ entry ∈ scope.entries, entry.name ≠ name)
    (known : scope.baseType? base = some word) : (scope.declare name type).baseType? base = some word := by
  unfold baseType? at known ⊢
  split
  · rename_i isLiteral
    simpa [isLiteral] using known
  · rename_i isNone isIndexed
    simp only [isNone, isIndexed] at known
    obtain ⟨found, isOne, typed⟩ := Option.bind_eq_some_iff.1 known
    exact Option.bind_eq_some_iff.2 ⟨found, find?_declare fresh isOne, typed⟩
  · rename_i isNone isPlain
    simp only [isNone, isPlain] at known
    exact variableType?_declare fresh known

end

end Scope

/-- A name that is neither a literal nor an element of a table. -/
structure Simple (name : String) : Prop where
  notLiteral : literalType? name = none
  unbracketed : '[' ∉ name.toList

theorem readIndexed_eq_none {text : String} (free : '[' ∉ text.toList) : readIndexed text = none := by
  have nothing : text.toList.dropWhile (fun c => c ≠ '[') = [] := by
    rw [List.dropWhile_eq_nil_iff]
    intro c member
    have other : c ≠ '[' := fun same => free (same ▸ member)
    simpa using other
  rw [readIndexed, nothing]

private theorem readIndexed_append {text stem : String} {ending : List Char} (free : '[' ∉ stem.toList) {number : Nat}
    (written : text.toList = stem.toList ++ '[' :: (Nat.toDigits 10 number ++ ']' :: ending)) :
    readIndexed text = some (stem, number, ending) := by
  have before : ∀ c ∈ stem.toList, decide (c ≠ '[') = true := by
    intro c member
    have other : c ≠ '[' := fun same => free (same ▸ member)
    simpa using other
  have digits : ∀ c ∈ Nat.toDigits 10 number, decide (c ≠ ']') = true := by
    intro c member
    have isDigit := Nat.isDigit_of_mem_toDigits (by decide) (by decide) member
    have other : c ≠ ']' := by
      rintro rfl
      exact absurd isDigit (by decide)
    simpa using other
  have rest : text.toList.dropWhile (fun c => c ≠ '[') = '[' :: (Nat.toDigits 10 number ++ ']' :: ending) := by
    rw [written, List.dropWhile_append_of_pos before]
    rfl
  have start : text.toList.takeWhile (fun c => c ≠ '[') = stem.toList := by
    rw [written, List.takeWhile_append_of_pos before]
    simp
  have inside : (Nat.toDigits 10 number ++ ']' :: ending).takeWhile (fun c => c ≠ ']') = Nat.toDigits 10 number := by
    rw [List.takeWhile_append_of_pos digits]
    simp
  have after : (Nat.toDigits 10 number ++ ']' :: ending).dropWhile (fun c => c ≠ ']') = ']' :: ending := by
    rw [List.dropWhile_append_of_pos digits]
    rfl
  unfold readIndexed
  simp only [rest, after, start, inside, readNumber_toDigits]
  simp

theorem readIndexed_inside {opening closing stem : String} {ending : List Char}
    (opened : opening.toList = stem.toList ++ ['[']) (closed : closing.toList = ']' :: ending)
    (free : '[' ∉ stem.toList) (number : Nat) :
    readIndexed (opening ++ Int.repr number ++ closing) = some (stem, number, ending) := by
  refine readIndexed_append free ?_
  rw [String.toList_append, String.toList_append, opened, closed, show Int.repr number = Nat.repr number from rfl,
    Nat.toList_repr]
  simp

theorem literalType?_eq_none {name : String} {first : Char} (head : (initials name).head? = some first)
    (letter : isNumeric first = false) (other : first ≠ 't' ∧ first ≠ 'f') : literalType? name = none := by
  have member : first ∈ name.toList := List.mem_of_mem_take (List.mem_of_mem_head? head)
  have notTruth : ¬ (name = "true" ∨ name = "false") := by
    rintro (rfl | rfl) <;> cases head
    · exact other.1 rfl
    · exact other.2 rfl
  have notNumber : name.toList.all isNumeric = false := List.all_eq_false.2 ⟨first, member, by simp [letter]⟩
  rw [literalType?, if_neg notTruth, notNumber]
  rfl

theorem Glsl.Numeric.unbracketed {text : String} (numeric : Numeric text) : '[' ∉ text.toList :=
  fun member => absurd (numeric _ member) (by decide)

theorem simple_uniformName (index : Int) : Simple (uniformName index) where
  notLiteral := literalType?_eq_none (initials_uniformName index) (by decide) (by decide)
  unbracketed := by simp [uniformName, (numeric_intRepr index).unbracketed]

theorem simple_attributeName (slot : Slot) (stream : Int) : Simple (attributeName slot stream) where
  notLiteral := by
    have head : (initials (attributeName slot stream)).head? = some 'i' := by rw [initials_attributeName]; rfl
    exact literalType?_eq_none head (by decide) (by decide)
  unbracketed := by
    have digits := (numeric_intRepr stream).unbracketed
    cases slot <;> simp [attributeName, digits]

theorem simple_interfaceName {name : String} (accepted : isInterfaceName name = true) :
    Simple (interfaceName name) where
  notLiteral := by
    have head : (initials (interfaceName name)).head? = some 'i' := by rw [initials_interfaceName]; rfl
    exact literalType?_eq_none head (by decide) (by decide)
  unbracketed := by
    intro member
    rw [interfaceName, String.toList_append, List.mem_append] at member
    rcases member with mark | letter
    · exact absurd mark (by decide)
    · exact absurd (mem_interfaceName accepted letter) (by decide)

theorem simple_temporary (index : Int) : Simple (temporary index) where
  notLiteral := by
    -- The name of a temporary starts as `true` does, so its second character has to be looked at.
    have notTruth : ¬ (temporary index = "true" ∨ temporary index = "false") := by
      rintro (same | same)
      · have rest : Int.repr index = "rue" := (String.append_right_inj "t").1 same
        exact absurd (numeric_intRepr index 'r' (by rw [rest]; decide)) (by decide)
      · have head := initials_temporary index
        rw [same] at head
        exact absurd head (by decide)
    have notNumber : (temporary index).toList.all isNumeric = false :=
      List.all_eq_false.2 ⟨'t', by simp [temporary], by decide⟩
    rw [literalType?, if_neg notTruth, notNumber]
    rfl
  unbracketed := by simp [temporary, (numeric_intRepr index).unbracketed]

theorem Simple.baseType? {scope : Scope} {name : String} (simple : Simple name) :
    scope.baseType? name = scope.variableType? name := by
  unfold Scope.baseType?
  simp only [simple.notLiteral, readIndexed_eq_none simple.unbracketed]

/-- The source of a node computes values of one type. -/
theorem Source.Typed.unique {source : Source} {node : Nat} {first second : ShaderType}
    (isNode : source.node? = some node) (left : source.Typed first) (right : source.Typed second) : first = second := by
  cases source with
  | leaf | component => exact nomatch isNode
  | construct => exact left.1.trans right.1.symm
  | _ =>
    obtain ⟨_, _, _, found, fits⟩ := left
    obtain ⟨_, _, _, again, fitsToo⟩ := right
    cases found.symm.trans again
    exact Except.ok.inj (fits.symm.trans fitsToo)

private theorem typeOfWord?_wordOf {type : ShaderType} (proper : type ≠ .operation) : typeOfWord? (wordOf type)
    = some type :=
  typeOfWord?_spelling (spelling_eq_wordOf proper)

private theorem exists_root_type {value : Value} (typed : ∀ read, value.Reaches read → read.Typed) :
    ∃ root, value.Reaches root ∧ root.source = value.root ∧
      (selectors value).foldlM componentType? (wordOf root.type) = some (wordOf value.type) := by
  induction value using Value.component_induction with
  | plain value plain =>
    refine ⟨value, value.reaches_refl, (Value.root_of_plain plain).symm, ?_⟩
    rw [selectors_of_plain plain]
    rfl
  | component value parent letters origin ih =>
    have read : parent ∈ value.source.operands := by simp [origin, Source.operands]
    obtain ⟨root, below, same, selected⟩ :=
      ih (fun read below => typed read (Value.reaches_of_operand (by simp [origin, Source.operands]) below))
    have proper := (typed parent (Value.reaches_of_operand read parent.reaches_refl)).1
    obtain ⟨_, fits⟩ := typed value value.reaches_refl
    rw [origin] at fits
    obtain ⟨isFloat, least, most, letter, member, rfl⟩ := fits
    refine ⟨root, Value.reaches_of_operand read below, by rw [same, Value.root_of_component origin], ?_⟩
    have selects : componentType? (wordOf parent.type) letter.toString = some (wordOf value.type) := by
      rw [componentType?, typeOfWord?_wordOf proper, isFloat]
      exact if_pos ⟨least, most, List.mem_map_of_mem member⟩
    rw [selectors_of_component origin, List.foldlM_append, selected]
    simpa using selects

/-- The scope gives its type to all that the plan needs and can be referred to, and to all that it writes. Temporaries
that are still to come are not in it. -/
structure Scope.Tracks (plan : Plan) (scope : Scope) (temporaries : Temporaries) : Prop where
  leaf : ∀ {value leaf name}, plan.Reached value → value.source = .leaf leaf → leafName leaf = .ok name →
    scope.baseType? name = some (wordOf value.type)
  node : ∀ {value node index}, plan.Reached value → value.source.node? = some node →
    temporaries.index? node = some index → scope.variableType? (temporary index) = some (wordOf value.type)
  output : ∀ {output value}, (output, value) ∈ plan.targets →
    scope.variableType? (outputName output) = some (wordOf value.type)
  fresh : ∀ entry ∈ scope.entries, ∀ index : Nat, temporaries.count ≤ index → entry.name ≠ temporary index

namespace Scope.Tracks

section

variable {plan : Plan} {scope : Scope} {temporaries : Temporaries} (coherent : plan.Coherent)
  (typed : ∀ value, plan.Reached value → value.Typed)

include typed

/-- A reference to a value has the type of the value. -/
theorem typeOf? (tracks : scope.Tracks plan temporaries) {value : Value} {reference : Reference}
    (reached : plan.Reached value) (named : temporaries.reference value = .ok reference) :
    scope.typeOf? reference = some (wordOf value.type) := by
  obtain ⟨root, below, same, selected⟩ := exists_root_type (fun read below => typed read (reached.reaches below))
  have needed := reached.reaches below
  refine Option.bind_eq_some_iff.2 ⟨wordOf root.type, ?_, ?_⟩
  · rcases Temporaries.reference_cases named with ⟨leaf, name, isLeaf, spelled, rfl⟩ | ⟨node, index, isNode, found, rfl⟩
    · exact tracks.leaf needed (same.trans isLeaf) spelled
    · rw [(simple_temporary index).baseType?]
      exact tracks.node needed (by rw [same, isNode]) found
  · rcases Temporaries.reference_cases named with ⟨_, _, _, _, rfl⟩ | ⟨_, _, _, _, rfl⟩ <;> exact selected

include coherent

/-- A node that is declared is in scope from then on. -/
theorem declare (tracks : scope.Tracks plan temporaries) {value : Value} {node : Nat} (reached : plan.Reached value)
    (isNode : value.source.node? = some node) (fresh : temporaries.index? node = none) :
    (scope.declare (temporary temporaries.count) (wordOf value.type)).Tracks plan (temporaries.withNode node) := by
  have new : ∀ entry ∈ scope.entries, entry.name ≠ temporary temporaries.count :=
    fun entry member => tracks.fresh entry member _ (Nat.le_refl _)
  refine ⟨fun reached origin spelled => baseType?_declare new (tracks.leaf reached origin spelled), ?_,
    fun listed => variableType?_declare new (tracks.output listed), ?_⟩
  · intro other otherNode index otherReached otherIsNode found
    rw [Temporaries.index?_withNode] at found
    by_cases same : node = otherNode
    · subst same
      rw [if_pos rfl] at found
      cases found
      have sameSource := coherent.sameNode otherReached reached otherIsNode isNode
      have sameType : other.type = value.type :=
        Source.Typed.unique isNode (sameSource ▸ (typed other otherReached).2) (typed value reached).2
      rw [sameType, variableType?, find?_declare_self new]
      rfl
    · rw [if_neg same] at found
      exact variableType?_declare new (tracks.node otherReached otherIsNode found)
  · intro entry member index later
    rw [Temporaries.count_withNode fresh] at later
    rcases List.mem_append.1 member with old | last
    · exact tracks.fresh entry old index (by omega)
    · obtain rfl := List.mem_singleton.1 last
      intro same
      have := temporary_inj same
      omega

/-- The lines of statements are accepted one after the other. -/
theorem run (tracks : scope.Tracks plan temporaries) {statements : List Statement} {instructions : List Instruction}
    (fits : ∀ statement ∈ statements, statement.Fits plan) (emits : Emits temporaries statements instructions) :
    ∃ final, instructions.foldlM Scope.check scope = some final ∧ final.Tracks plan (temporaries.after statements) := by
  induction emits generalizing scope with
  | nil => exact ⟨scope, rfl, tracks⟩
  | @declare temporaries value node type expression rest instructions isNode renders spelled fresh others ih =>
    obtain ⟨reached, _⟩ := fits _ List.mem_cons_self
    have references : ∀ reference ∈ expression.references, (scope.typeOf? reference).isSome = true := by
      intro reference member
      obtain ⟨operand, read, named⟩ := exists_of_forall₂ renders.references member
      rw [tracks.typeOf? typed (reached.operand read) named]
      rfl
    have new : ∀ entry ∈ scope.entries, entry.name ≠ temporary temporaries.count :=
      fun entry member => tracks.fresh entry member _ (Nat.le_refl _)
    have accepted : scope.check (.declare type (temporary temporaries.count) expression) =
        some (scope.declare (temporary temporaries.count) (wordOf value.type)) := by
      rw [check, if_pos ⟨references, new⟩, eq_wordOf spelled]
    obtain ⟨final, ran, tracked⟩ := ih (tracks.declare coherent typed reached isNode fresh)
      (fun statement member => fits statement (List.mem_cons_of_mem _ member))
    refine ⟨final, ?_, ?_⟩
    · rw [List.foldlM_cons, accepted]
      exact ran
    · rw [Temporaries.after, declaredNodes_declare isNode]
      exact tracked
  | @assign temporaries output value reference rest instructions named others ih =>
    have target := mem_of_lookup (fits _ List.mem_cons_self)
    have typeOf := tracks.typeOf? typed (Plan.reached_target (fits _ List.mem_cons_self)) named
    have accepted : scope.check (.assign (outputName output) reference) = some scope := by
      rw [check, tracks.output target, typeOf]
      exact if_pos ⟨rfl, rfl⟩
    obtain ⟨final, ran, tracked⟩ := ih tracks (fun statement member => fits statement (List.mem_cons_of_mem _ member))
    refine ⟨final, ?_, tracked⟩
    rw [List.foldlM_cons, accepted]
    exact ran

end

end Scope.Tracks

end Shading
