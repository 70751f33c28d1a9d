import Shading.Proofs.Reading

/-!
# Meaning of graphs and bodies

An interpretation says what names stand for and what operators compute. Under it a value of a graph denotes what comes
out of evaluating its operands, however deep, and the text of a body is executed line by line from nothing written.
-/

namespace Shading

open Glsl

/-- What names stand for, and what operators, calls and selections compute. -/
structure Interpretation (V : Type) where
  name : String → V
  arithmetic : Arithmetic → V → V → V
  compare : Comparison → V → V → V
  choose : V → V → V → V
  texture : V → V → V
  mix : V → V → V → V
  construct : ShaderType → List V → V
  component : String → V → V

variable {V : Type}

/-- A leaf that a stage is given under a name, neither an output nor the index of the instance. -/
def Leaf.isGiven : Leaf → Bool
  | .output _ | .instanceIndex => false
  | _ => true

/-- What the index of the instance is known as when a stage begins. -/
def instanceOrigin : Stage → String
  | .vertex => "gl_InstanceID"
  | .fragment => "iid"

/-- What a source of a document evaluates to. An output that is read back is what its value evaluates to. -/
inductive Denotes (interpretation : Interpretation V) (document : Document) : Source → V → Prop where
  | given {leaf : Leaf} {name : String} (isGiven : leaf.isGiven = true) (named : leafName leaf = .ok name) :
    Denotes interpretation document (.leaf leaf) (interpretation.name name)
  | instanceIndex :
    Denotes interpretation document (.leaf .instanceIndex) (interpretation.name (instanceOrigin document.stage))
  | readBack {output : Output} {value : Value} {held : V} (target : document.writes.lookup output = some value)
      (written : Denotes interpretation document value.source held) :
    Denotes interpretation document (.leaf (.output output)) held
  | component {parent : Value} {letters : String} {held : V}
      (selected : Denotes interpretation document parent.source held) :
    Denotes interpretation document (.component parent letters) (interpretation.component letters held)
  | arithmetic {node : Nat} {operator : Arithmetic} {lhs rhs : Value} {left right : V}
      (first : Denotes interpretation document lhs.source left)
      (second : Denotes interpretation document rhs.source right) :
    Denotes interpretation document (.arithmetic node operator lhs rhs) (interpretation.arithmetic operator left right)
  | compare {node : Nat} {comparison : Comparison} {lhs rhs : Value} {left right : V}
      (first : Denotes interpretation document lhs.source left)
      (second : Denotes interpretation document rhs.source right) :
    Denotes interpretation document (.compare node comparison lhs rhs) (interpretation.compare comparison left right)
  | branch {node : Nat} {condition success failure : Value} {asked left right : V}
      (first : Denotes interpretation document condition.source asked)
      (second : Denotes interpretation document success.source left)
      (third : Denotes interpretation document failure.source right) :
    Denotes interpretation document (.branch node condition success failure) (interpretation.choose asked left right)
  | sample {node : Nat} {filter : Filter} {texture coordinate : Value} {left right : V}
      (first : Denotes interpretation document texture.source left)
      (second : Denotes interpretation document coordinate.source right) :
    Denotes interpretation document (.sample node filter texture coordinate) (interpretation.texture left right)
  | lerp {node : Nat} {lhs rhs factor : Value} {left right weight : V}
      (first : Denotes interpretation document lhs.source left)
      (second : Denotes interpretation document rhs.source right)
      (third : Denotes interpretation document factor.source weight) :
    Denotes interpretation document (.lerp node lhs rhs factor) (interpretation.mix left right weight)
  | construct {node : Nat} {type : ShaderType} {parts : List Value} {meaning : Value → V}
      (each : ∀ part ∈ parts, Denotes interpretation document part.source (meaning part)) :
    Denotes interpretation document (.construct node type parts) (interpretation.construct type (parts.map meaning))

/-- A source evaluates to one thing only. -/
theorem Denotes.unique {interpretation : Interpretation V} {document : Document} {source : Source} {held other : V}
    (first : Denotes interpretation document source held) (second : Denotes interpretation document source other) :
    held = other := by
  induction first generalizing other with
  | given isGiven named =>
    cases second with
    | given _ same =>
      rw [named] at same
      cases same
      rfl
    | instanceIndex | readBack => exact nomatch isGiven
  | instanceIndex =>
    cases second with
    | given isGiven => exact nomatch isGiven
    | instanceIndex => rfl
  | readBack target _ ih =>
    cases second with
    | given isGiven => exact nomatch isGiven
    | readBack same written =>
      rw [target] at same
      cases same
      exact ih written
  | component _ ih =>
    cases second with
    | component selected => rw [ih selected]
  | arithmetic _ _ ihFirst ihSecond =>
    cases second with
    | arithmetic first second => rw [ihFirst first, ihSecond second]
  | compare _ _ ihFirst ihSecond =>
    cases second with
    | compare first second => rw [ihFirst first, ihSecond second]
  | branch _ _ _ ihFirst ihSecond ihThird =>
    cases second with
    | branch first second third => rw [ihFirst first, ihSecond second, ihThird third]
  | sample _ _ ihFirst ihSecond =>
    cases second with
    | sample first second => rw [ihFirst first, ihSecond second]
  | lerp _ _ _ ihFirst ihSecond ihThird =>
    cases second with
    | lerp first second third => rw [ihFirst first, ihSecond second, ihThird third]
  | construct _ ih =>
    cases second with
    | construct each => rw [List.map_congr_left (fun part member => ih part member (each part member))]

/-- The name of a temporary: a letter and a number. -/
def isTemporary (name : String) : Bool :=
  match name.toList with
  | 't' :: digits => !digits.isEmpty && digits.all Char.isDigit
  | _ => false

/-- The variables that a stage writes. -/
def isOutputVariable : Stage → String → Bool
  | .vertex, name => ["gl_Position", "gl_PointSize", "iid"].contains name || Text.startsWith name "io_"
  | .fragment, name => name == "fClr"

/-- The variables that are written while a stage runs. -/
def isVariable (stage : Stage) (name : String) : Bool :=
  isTemporary name || isOutputVariable stage name

def Environment (V : Type) : Type := String → Option V

namespace Environment

def empty : Environment V := fun _ => none

/-- The environment once a variable is written. -/
def write (environment : Environment V) (name : String) (held : V) : Environment V :=
  fun other => if other = name then some held else environment other

theorem write_self (environment : Environment V) (name : String) (held : V) :
    environment.write name held name = some held := if_pos rfl

theorem write_of_ne {name other : String} (environment : Environment V) (held : V) (differs : other ≠ name) :
    environment.write name held other = environment other := if_neg differs

end Environment

namespace Interpretation

variable (interpretation : Interpretation V)

/-- What a symbol between two operands computes. -/
def symbol? : String → Option (V → V → V)
  | "+" => some (interpretation.arithmetic .add)
  | "-" => some (interpretation.arithmetic .subtract)
  | "*" => some (interpretation.arithmetic .multiply)
  | "/" => some (interpretation.arithmetic .divide)
  | "==" => some (interpretation.compare .equal)
  | "!=" => some (interpretation.compare .notEqual)
  | ">" => some (interpretation.compare .greater)
  | ">=" => some (interpretation.compare .greaterEqual)
  | "<" => some (interpretation.compare .less)
  | "<=" => some (interpretation.compare .lessEqual)
  | "&&" => some (interpretation.compare .and)
  | "||" => some (interpretation.compare .or)
  | _ => none

/-- What a function computes; the word of a type constructs it. -/
def call? (function : String) (arguments : List V) : Option V :=
  match function, arguments with
  | "texture", [texture, coordinate] => some (interpretation.texture texture coordinate)
  | "mix", [lhs, rhs, factor] => some (interpretation.mix lhs rhs factor)
  | word, parts => (typeOfWord? word).map (fun type => interpretation.construct type parts)

/-- What a name stands for. A variable has to be written before. -/
def lookup (stage : Stage) (environment : Environment V) (name : String) : Option V :=
  if isVariable stage name then environment name else some (interpretation.name name)

/-- What a reference stands for. -/
def read (stage : Stage) (environment : Environment V) (reference : Reference) : Option V := do
  let held ← interpretation.lookup stage environment reference.base
  return reference.selectors.foldl (fun held letters => interpretation.component letters held) held

/-- What an expression computes. -/
def evaluate (stage : Stage) (environment : Environment V) : Expression → Option V
  | .binary symbol lhs rhs => do
    let compute ← interpretation.symbol? symbol
    return compute (← interpretation.read stage environment lhs) (← interpretation.read stage environment rhs)
  | .choice condition success failure => do
    return interpretation.choose (← interpretation.read stage environment condition)
      (← interpretation.read stage environment success) (← interpretation.read stage environment failure)
  | .call function arguments => do
    interpretation.call? function (← arguments.mapM (interpretation.read stage environment))

/-- The environment after an instruction: a new temporary is declared, or an output variable is assigned. -/
def perform (stage : Stage) (environment : Environment V) : Instruction → Option (Environment V)
  | .declare type name expression => do
    guard ((typeOfWord? type).isSome ∧ isTemporary name = true ∧ (environment name).isNone)
    return environment.write name (← interpretation.evaluate stage environment expression)
  | .assign target value => do
    guard (isOutputVariable stage target = true)
    return environment.write target (← interpretation.read stage environment value)

/-- The environment after the lines of a body. -/
def execute (stage : Stage) (text : String) : Option (Environment V) := do
  (← readBody text).foldlM (interpretation.perform stage) .empty

variable {interpretation}

theorem symbol?_arithmetic (operator : Arithmetic) :
    interpretation.symbol? (arithmeticSymbol operator) = some (interpretation.arithmetic operator) := by
  cases operator <;> rfl

theorem symbol?_comparison (comparison : Comparison) :
    interpretation.symbol? (comparisonSymbol comparison) = some (interpretation.compare comparison) := by
  cases comparison <;> rfl

theorem call?_spelling {type : ShaderType} {name : String} (spelled : spelling type = .ok name) (parts : List V) :
    interpretation.call? name parts = some (interpretation.construct type parts) := by
  cases type <;> cases spelled <;> rfl

end Interpretation

theorem isTemporary_temporary (index : Nat) : isTemporary (temporary index) = true := by
  have chars : (temporary index).toList = 't' :: Nat.toDigits 10 index := by
    rw [temporary, String.toList_append]
    exact congrArg ('t' :: ·) Nat.toList_repr
  have digits : ∀ c ∈ Nat.toDigits 10 index, c.isDigit = true :=
    fun c member => Nat.isDigit_of_mem_toDigits (by decide) (by decide) member
  simpa [isTemporary, chars, Nat.toDigits_ne_nil] using digits

theorem isTemporary_outputName (output : Output) : isTemporary (outputName output) = false := by
  cases output with
  | named name => simp [isTemporary, outputName, interfaceName]
  | position | pointSize | color => rfl

theorem temporary_ne_outputName (index : Nat) (output : Output) : temporary index ≠ outputName output := by
  intro same
  have clash := isTemporary_temporary index
  rw [same, isTemporary_outputName] at clash
  exact nomatch clash

theorem temporary_ne_instanceName (index : Nat) : temporary index ≠ instanceName := by
  intro same
  have clash := isTemporary_temporary index
  rw [same] at clash
  exact nomatch clash

theorem outputName_ne_instanceName (output : Output) : outputName output ≠ instanceName := by
  intro same
  have chars := congrArg String.toList same
  cases output <;> simp [outputName, interfaceName, instanceName] at chars

theorem outputName_inj {first second : Output} (same : outputName first = outputName second) : first = second := by
  have chars := congrArg String.toList same
  cases first <;> cases second <;> simp [outputName, interfaceName] at chars ⊢
  exact String.toList_inj.1 chars

theorem isOutputVariable_outputName {stage : Stage} {output : Output}
    (available : (Leaf.output output).isAvailable stage = true) :
    isOutputVariable stage (outputName output) = true := by
  cases stage <;> cases output <;>
    simp_all [Leaf.isAvailable, isOutputVariable, outputName, interfaceName, Text.startsWith]

/-- The characters that the variables of a stage begin with. -/
def BeginsVariable (stage : Stage) (c d : Char) : Prop :=
  c = 't' ∧ d.isDigit = true ∨ stage = .vertex ∧ (c = 'g' ∨ c = 'i' ∧ (d = 'i' ∨ d = 'o')) ∨
    stage = .fragment ∧ c = 'f' ∧ d = 'C'

instance (stage : Stage) (c d : Char) : Decidable (BeginsVariable stage c d) :=
  inferInstanceAs (Decidable (_ ∨ _))

private theorem begins_of_isVariable {stage : Stage} {name : String} (isOne : isVariable stage name = true) :
    ∃ c d rest, name.toList = c :: d :: rest ∧ BeginsVariable stage c d := by
  rw [isVariable, Bool.or_eq_true] at isOne
  rcases isOne with numbered | output
  · unfold isTemporary at numbered
    split at numbered
    · rename_i digits chars
      cases digits with
      | nil => exact nomatch numbered
      | cons digit rest =>
        simp only [List.all_cons, Bool.and_eq_true] at numbered
        exact ⟨'t', digit, rest, chars, .inl ⟨rfl, numbered.2.1⟩⟩
    · exact nomatch numbered
  · cases stage with
    | fragment =>
      rw [isOutputVariable, beq_iff_eq] at output
      subst output
      exact ⟨_, _, _, rfl, by decide⟩
    | vertex =>
      simp only [isOutputVariable, Bool.or_eq_true, List.contains_iff_mem, List.mem_cons, List.not_mem_nil,
        or_false] at output
      rcases output with (rfl | rfl | rfl) | interface
      · exact ⟨_, _, _, rfl, by decide⟩
      · exact ⟨_, _, _, rfl, by decide⟩
      · exact ⟨_, _, _, rfl, by decide⟩
      · obtain ⟨rest, chars⟩ := List.isPrefixOf_iff_prefix.1 interface
        exact ⟨'i', 'o', '_' :: rest, chars.symm, by decide⟩

private theorem isVariable_append {stage : Stage} {stem : String} {c d : Char} {more : List Char}
    (chars : stem.toList = c :: d :: more) (other : ¬ BeginsVariable stage c d) (ending : String) :
    isVariable stage (stem ++ ending) = false := by
  refine Bool.eq_false_iff.2 (fun isOne => ?_)
  obtain ⟨_, _, rest, same, begins⟩ := begins_of_isVariable isOne
  rw [String.toList_append, chars] at same
  cases same
  exact other begins

private theorem isVariable_inside {stage : Stage} {stem : String} {c d : Char} {more : List Char}
    (chars : stem.toList = c :: d :: more) (other : ¬ BeginsVariable stage c d) (inner ending : String) :
    isVariable stage (stem ++ inner ++ ending) = false :=
  isVariable_append (show (stem ++ inner).toList = c :: d :: (more ++ inner.toList) by simp [chars]) other ending

private theorem isVariable_of_numeric {name : String} (numeric : Numeric name) (stage : Stage) :
    isVariable stage name = false := by
  refine Bool.eq_false_iff.2 (fun isOne => ?_)
  obtain ⟨c, d, rest, chars, begins⟩ := begins_of_isVariable isOne
  have first := numeric c (by simp [chars])
  rcases begins with ⟨rfl, _⟩ | ⟨_, rfl | ⟨rfl, _⟩⟩ | ⟨_, rfl, _⟩ <;> exact nomatch first

/-- What stands for a leaf that a stage is given is no variable that the stage writes. -/
theorem isVariable_of_given {stage : Stage} {leaf : Leaf} {type : ShaderType} {name : String}
    (typed : leaf.Typed type) (available : leaf.isAvailable stage = true) (isGiven : leaf.isGiven = true)
    (named : leafName leaf = .ok name) : isVariable stage name = false := by
  cases leaf with
  | output | instanceIndex => exact nomatch isGiven
  | unknown => exact typed.elim
  | vertexAttribute slot stream =>
    obtain ⟨_, rfl⟩ := leafName_attribute_eq_ok.1 named
    cases slot with
    | position | normal | tangent | color => exact isVariable_append rfl (by cases stage <;> decide) _
    | texCoord0 | texCoord1 => exact isVariable_inside rfl (by cases stage <;> decide) _ _
  | input name =>
    cases named
    cases stage with
    | vertex => exact nomatch available
    | fragment => exact isVariable_append rfl (by decide) _
  | matrix matrix =>
    cases named
    cases stage <;> cases matrix <;> rfl
  | uniform index =>
    cases named
    refine Bool.eq_false_iff.2 (fun isOne => ?_)
    obtain ⟨c, d, rest, chars, begins⟩ := begins_of_isVariable isOne
    simp [uniformName] at chars
    obtain ⟨rfl, _⟩ := chars
    simp [BeginsVariable] at begins
  | material index field =>
    cases named
    have textures : "materialTextures[".toList = 'm' :: 'a' :: "terialTextures[".toList := by decide +kernel
    have materials : "materials[".toList = 'm' :: 'a' :: "terials[".toList := by decide +kernel
    cases field with
    | texture => exact isVariable_inside textures (by cases stage <;> decide) _ _
    | scale | offset | color => exact isVariable_inside materials (by cases stage <;> decide) _ _
  | literal plain declared =>
    cases plain with
    | text | nothing => exact typed.elim
    | constant constant =>
      obtain ⟨rfl, _⟩ := typed
      rcases constantText_cases named with rfl | rfl | numeric
      · cases stage <;> rfl
      · cases stage <;> rfl
      · exact isVariable_of_numeric numeric stage

end Shading
