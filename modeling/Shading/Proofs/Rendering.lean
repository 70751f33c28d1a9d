import Shading.Glsl.Stage
import Shading.Proofs.Names
import Shading.Proofs.Order

/-!
# Rendering statements

The statements of a well-typed stage can be rendered exactly if every node is declared before it is used and every
literal has a spelling, and rendering them fails with a violation otherwise (`okIff_instructionsOf`). A document
in which an output depends on itself is refused here even where its schedule was not.
-/

namespace Shading.Glsl

/-- A result is there exactly under a condition, and otherwise there is an error of a certain sort in its place. -/
inductive OkIff {α : Type} (Stops : Error → Prop) (condition : Prop) : Except Error α → Prop where
  | ok {value : α} (holds : condition) : OkIff Stops condition (.ok value)
  | failed {error : Error} (stops : Stops error) (fails : ¬ condition) : OkIff Stops condition (.error error)

namespace OkIff

variable {α β : Type} {Stops Others : Error → Prop} {condition further : Prop}

theorem exists_ok_iff {result : Except Error α} (decided : OkIff Stops condition result) :
    (∃ value, result = .ok value) ↔ condition := by
  cases decided with
  | ok holds => exact ⟨fun _ => holds, fun _ => ⟨_, rfl⟩⟩
  | failed _ fails => exact ⟨fun ⟨_, same⟩ => (nomatch same), fun holds => absurd holds fails⟩

theorem stops_of_error {result : Except Error α} (decided : OkIff Stops condition result) {error : Error}
    (failed : result = .error error) : Stops error := by
  cases decided with
  | ok => exact nomatch failed
  | failed stops =>
    cases failed
    exact stops

theorem congr {result : Except Error α} (decided : OkIff Stops condition result) (same : condition ↔ further) :
    OkIff Stops further result := by
  cases decided with
  | ok holds => exact .ok (same.1 holds)
  | failed stops fails => exact .failed stops (fun holds => fails (same.2 holds))

theorem mapError {result : Except Error α} {change : Error → Error} (decided : OkIff Stops condition result)
    (changes : ∀ error, Stops error → Others (change error)) : OkIff Others condition (result.mapError change) := by
  cases decided with
  | ok holds => exact .ok holds
  | failed stops fails => exact .failed (changes _ stops) fails

theorem mono {result : Except Error α} (decided : OkIff Stops condition result)
    (more : ∀ error, Stops error → Others error) : OkIff Others condition result := by
  cases decided with
  | ok holds => exact .ok holds
  | failed stops fails => exact .failed (more _ stops) fails

theorem bind {first : Except Error α} {rest : α → Except Error β} (head : OkIff Stops condition first)
    (tail : ∀ value, first = .ok value → OkIff Stops further (rest value)) :
    OkIff Stops (condition ∧ further) (first >>= rest) := by
  cases head with
  | failed stops fails => exact .failed stops (fun both => fails both.1)
  | @ok value holds => exact (tail value rfl).congr (by simp [holds])

theorem map {first : Except Error α} {change : α → β} (head : OkIff Stops condition first) :
    OkIff Stops condition (first.map change) := by
  cases head with
  | ok holds => exact .ok holds
  | failed stops fails => exact .failed stops fails

/-- A last step that cannot fail. -/
theorem bind_pure {first : Except Error α} {result : α → β} (head : OkIff Stops condition first) :
    OkIff Stops condition (do return result (← first)) :=
  (head.bind (fun _ _ => .ok trivial)).congr (by simp)

theorem mapM {run : α → Except Error β} {condition : α → Prop} {entries : List α}
    (each : ∀ entry ∈ entries, OkIff Stops (condition entry) (run entry)) :
    OkIff Stops (∀ entry ∈ entries, condition entry) (entries.mapM run) := by
  induction entries with
  | nil => exact .ok (by simp)
  | cons entry rest ih =>
    rw [List.mapM_cons]
    have first := each entry List.mem_cons_self
    have others := ih (fun other member => each other (List.mem_cons_of_mem _ member))
    exact (first.bind (fun _ _ => others.bind_pure)).congr (by simp)

end OkIff

theorem okIff_spelling {Stops : Error → Prop} {type : ShaderType} (proper : type ≠ .operation) :
    OkIff Stops True (liftViolation (spelling type)) := by
  cases type with
  | operation => exact absurd rfl proper
  | _ => exact .ok trivial

/-- A literal of a floating point type is a finite number. -/
def FiniteLiteral : Leaf → Prop
  | .literal (.constant (.double value)) .float => value.isFinite = true
  | _ => True

/-- The number of an attribute or of an integer literal has few enough digits to be written. -/
def ShortNumber : Leaf → Prop
  | .vertexAttribute _ number | .literal (.constant (.int number)) _ => number.natAbs < 10 ^ Text.digitLimit
  | _ => True

/-- A leaf has a spelling. -/
structure Spelled (leaf : Leaf) : Prop where
  finite : FiniteLiteral leaf
  short : ShortNumber leaf

/-- Why a leaf has no spelling. -/
inductive Unspelled (leaf : Leaf) : Error → Prop where
  | infinite {constant : Constant} : Unspelled leaf (.violation (.noSpelling constant))
  | long (long : ¬ ShortNumber leaf) : Unspelled leaf (.unshown .longNumeral)

private theorem okIff_leafName {leaf : Leaf} {type : ShaderType} (typed : leaf.Typed type) :
    OkIff (Unspelled leaf) (Spelled leaf) (leafName leaf) := by
  cases leaf with
  | unknown => exact typed.elim
  | vertexAttribute slot stream =>
    by_cases writable : Text.isWritable stream = true
    · rw [leafName_of_writable writable]
      exact .ok ⟨trivial, isWritable_iff.1 writable⟩
    · rw [leafName_of_unwritable writable]
      have long : ¬ ShortNumber (.vertexAttribute slot stream) := fun short => writable (isWritable_iff.2 short)
      exact .failed (.long long) (fun spelled => long spelled.short)
  | literal plain declared =>
    cases plain with
    | text | nothing => exact typed.elim
    | constant constant =>
      obtain ⟨rfl, _⟩ := typed
      cases constant with
      | bool => exact .ok ⟨trivial, trivial⟩
      | int value =>
        change OkIff _ _ (numeral value)
        by_cases writable : Text.isWritable value = true
        · rw [numeral_of_writable writable]
          exact .ok ⟨trivial, isWritable_iff.1 writable⟩
        · rw [numeral_of_unwritable writable]
          have long : ¬ ShortNumber (.literal (.constant (.int value)) (Constant.int value).type) :=
            fun short => writable (isWritable_iff.2 short)
          exact .failed (.long long) (fun spelled => long spelled.short)
      | double value =>
        have spelled : leafName (.literal (.constant (.double value)) (Constant.double value).type) =
            if value.isFinite then .ok value.text else .error (.violation (.noSpelling (.double value))) := rfl
        rw [spelled]
        split
        · rename_i finite
          exact .ok ⟨finite, trivial⟩
        · rename_i infinite
          exact .failed .infinite (fun spelled => infinite spelled.finite)
  | _ => exact .ok ⟨trivial, trivial⟩

mutual

/-- The letters of the components that a value selects one after the other. -/
def selectors : Value → List String
  | .mk _ _ source => sourceSelectors source

/-- The letters of the components that a source selects. -/
def sourceSelectors : Source → List String
  | .component parent letters => selectors parent ++ [letters]
  | _ => []

end

private theorem selectors_eq (value : Value) : selectors value = sourceSelectors value.source := by
  cases value
  rw [selectors, Value.source]

theorem selectors_of_component {value parent : Value} {letters : String}
    (origin : value.source = .component parent letters) : selectors value = selectors parent ++ [letters] := by
  rw [selectors_eq, origin, sourceSelectors]

theorem selectors_of_plain {value : Value} (plain : ∀ parent letters, value.source ≠ .component parent letters) :
    selectors value = [] := by
  rw [selectors_eq]
  cases origin : value.source with
  | component parent letters => exact absurd origin (plain parent letters)
  | _ => rfl

namespace Temporaries

variable {temporaries : Temporaries}

theorem reference_eq (value : Value) : temporaries.reference value = match value.source.node? with
    | none => temporaries.sourceReference value.source
    | some node => match temporaries.index? node with
      | some index => .ok (.ofName (temporary index))
      | none => .error (.violation (.undeclared value)) := by
  cases value
  rw [reference]
  rfl

theorem reference_of_component {value parent : Value} {letters : String}
    (origin : value.source = .component parent letters) :
    temporaries.reference value = do return (← temporaries.reference parent).select letters := by
  rw [reference_eq, origin]
  rfl

/-- A value whose node has a temporary is referred to by it. -/
theorem reference_of_index {value : Value} {node index : Nat} (isNode : value.root.node? = some node)
    (found : temporaries.index? node = some index) :
    temporaries.reference value = .ok ⟨temporary index, selectors value⟩ := by
  induction value using Value.component_induction with
  | plain value plain =>
    rw [Value.root_of_plain plain] at isNode
    rw [reference_eq, isNode, selectors_of_plain plain]
    simp [found, Reference.ofName]
  | component value parent letters origin ih =>
    rw [Value.root_of_component origin] at isNode
    rw [reference_of_component origin, ih isNode, selectors_of_component origin]
    rfl

/-- A value that comes from a leaf is referred to by its name. -/
theorem reference_of_leaf {value : Value} {leaf : Leaf} (root : value.root = .leaf leaf) :
    temporaries.reference value = (leafName leaf).map (fun name => ⟨name, selectors value⟩) := by
  induction value using Value.component_induction with
  | plain value plain =>
    rw [Value.root_of_plain plain] at root
    rw [reference_eq, root, selectors_of_plain plain]
    rfl
  | component value parent letters origin ih =>
    rw [Value.root_of_component origin] at root
    rw [reference_of_component origin, ih root, selectors_of_component origin]
    cases leafName leaf <;> rfl

private theorem reference_of_undeclared {value : Value} {node : Nat} (isNode : value.root.node? = some node)
    (absent : temporaries.index? node = none) :
    ∃ read, value.Reaches read ∧ temporaries.reference value = .error (.violation (.undeclared read)) := by
  induction value using Value.component_induction with
  | plain value plain =>
    rw [Value.root_of_plain plain] at isNode
    refine ⟨value, value.reaches_refl, ?_⟩
    rw [reference_eq, isNode]
    simp [absent]
  | component value parent letters origin ih =>
    rw [Value.root_of_component origin] at isNode
    obtain ⟨read, below, failed⟩ := ih isNode
    refine ⟨read, Value.reaches_of_operand (by simp [origin, Source.operands]) below, ?_⟩
    rw [reference_of_component origin, failed]
    rfl

/-- A value that can be referred to comes from a leaf that has a name or from a node that has a temporary. -/
theorem reference_cases {value : Value} {reference : Reference} (named : temporaries.reference value = .ok reference) :
    (∃ leaf name, value.root = .leaf leaf ∧ leafName leaf = .ok name ∧ reference = ⟨name, selectors value⟩) ∨
      ∃ node index, value.root.node? = some node ∧ temporaries.index? node = some index ∧
        reference = ⟨temporary index, selectors value⟩ := by
  rcases value.root_cases with ⟨leaf, root⟩ | ⟨node, isNode⟩
  · rw [reference_of_leaf root] at named
    cases spelled : leafName leaf with
    | error =>
      rw [spelled] at named
      exact nomatch named
    | ok name =>
      rw [spelled] at named
      cases named
      exact .inl ⟨leaf, name, root, spelled, rfl⟩
  · cases found : temporaries.index? node with
    | some index =>
      rw [reference_of_index isNode found] at named
      cases named
      exact .inr ⟨node, index, isNode, found, rfl⟩
    | none =>
      obtain ⟨_, _, failed⟩ := reference_of_undeclared isNode found
      exact nomatch failed.symm.trans named

/-- A source can be referred to: its node has a temporary, and its leaf has a spelling. -/
structure Names (temporaries : Temporaries) (source : Source) : Prop where
  node : ∀ node, source.node? = some node → ∃ index, temporaries.index? node = some index
  leaf : ∀ leaf, source = .leaf leaf → Spelled leaf

end Temporaries

/-- Why a value cannot be referred to: its leaf has no spelling, or its node is not declared. -/
inductive Unnamed (Declared : Nat → Prop) (value : Value) : Error → Prop where
  | leaf {read : Value} {leaf : Leaf} {error : Error} (below : value.Reaches read) (origin : read.source = .leaf leaf)
      (unspelled : Unspelled leaf error) : Unnamed Declared value error
  | node {read : Value} {node : Nat} (below : value.Reaches read) (isNode : value.root.node? = some node)
      (late : ¬ Declared node) : Unnamed Declared value (.violation (.undeclared read))

namespace Temporaries

variable {temporaries : Temporaries}

def Declares (temporaries : Temporaries) (node : Nat) : Prop :=
  ∃ index, temporaries.index? node = some index

private theorem okIff_reference {value : Value} (typed : ∀ read, value.Reaches read → read.Typed) :
    OkIff (Unnamed temporaries.Declares value) (temporaries.Names value.root) (temporaries.reference value) := by
  rcases value.root_cases with ⟨leaf, root⟩ | ⟨node, isNode⟩
  · obtain ⟨read, below, origin⟩ := value.exists_reaches_root
    rw [root] at origin
    have typedLeaf := (typed read below).2
    rw [origin] at typedLeaf
    rw [reference_of_leaf root, root]
    have same : Spelled leaf ↔ temporaries.Names (.leaf leaf) := by
      refine ⟨fun spelled => ⟨fun _ isNode => (nomatch isNode), ?_⟩, fun names => names.leaf leaf rfl⟩
      rintro _ ⟨rfl⟩
      exact spelled
    exact ((okIff_leafName typedLeaf).mono (fun _ unspelled => .leaf below origin unspelled)).map.congr same
  · cases found : temporaries.index? node with
    | some index =>
      rw [reference_of_index isNode found]
      refine .ok ⟨fun other same => ?_, fun leaf root => ?_⟩
      · rw [isNode] at same
        cases same
        exact ⟨index, found⟩
      · rw [root] at isNode
        exact nomatch isNode
    | none =>
      obtain ⟨read, below, failed⟩ := reference_of_undeclared isNode found
      have late : ¬ temporaries.Declares node := by
        rintro ⟨index, found'⟩
        exact nomatch found.symm.trans found'
      rw [failed]
      exact .failed (.node below isNode late) (fun names => late (names.node node isNode))

/-- The temporaries with one more, for a node. -/
def withNode (temporaries : Temporaries) (node : Nat) : Temporaries :=
  { temporaries with numbers := temporaries.numbers.insert (some node) temporaries.count }

theorem index?_withNode (node other : Nat) :
    (temporaries.withNode node).index? other =
      if node = other then some temporaries.count else temporaries.index? other := by
  simp only [withNode, index?, Numbering.lookup_insert, Option.some.injEq]

theorem contains_of_fresh {node : Nat} (fresh : temporaries.index? node = none) :
    temporaries.numbers.contains (some node) = false := by
  have absent : temporaries.numbers[some node]? = none := fresh
  rw [Numbering.contains_eq, absent]
  rfl

theorem count_withNode {node : Nat} (fresh : temporaries.index? node = none) :
    (temporaries.withNode node).count = temporaries.count + 1 :=
  Numbering.size_insert _ _ _ (contains_of_fresh fresh)

/-- The temporary of every node has a number of its own. -/
structure Distinct (temporaries : Temporaries) : Prop where
  bounded : ∀ {node index : Nat}, temporaries.index? node = some index → index < temporaries.count
  injective : ∀ {first second index : Nat}, temporaries.index? first = some index →
    temporaries.index? second = some index → first = second

theorem index?_start (stage : Option Stage) (node : Nat) : (start stage).index? node = none :=
  Numbering.lookup_empty (some node)

theorem distinct_start (stage : Option Stage) : (start stage).Distinct where
  bounded := fun {node _} found => nomatch (index?_start stage node).symm.trans found
  injective := fun {first _ _} found => nomatch (index?_start stage first).symm.trans found

/-- A new entry, of a node or not, gets a number that no node has. -/
theorem Distinct.declare {entry : Option Nat} {name : String} {next : Temporaries} (distinct : temporaries.Distinct)
    (done : temporaries.declare entry = .ok (name, next)) : next.Distinct := by
  unfold Temporaries.declare at done
  dsimp only at done
  split at done
  · exact nomatch done
  · rename_i absent
    cases done
    have fresh : temporaries.numbers.contains entry = false := Bool.eq_false_of_not_eq_true absent
    have count : (temporaries.numbers.insert entry temporaries.count).size = temporaries.count + 1 :=
      Numbering.size_insert _ _ _ fresh
    constructor
    · intro node index found
      rw [index?, Numbering.lookup_insert] at found
      rw [Temporaries.count, count]
      split at found
      · cases found
        exact Nat.lt_succ_self _
      · exact Nat.lt_succ_of_lt (distinct.bounded found)
    · intro first second index foundFirst foundSecond
      rw [index?, Numbering.lookup_insert] at foundFirst foundSecond
      split at foundFirst <;> split at foundSecond
      · rename_i same other
        exact Option.some.inj (same.symm.trans other)
      · cases foundFirst
        exact absurd (distinct.bounded foundSecond) (Nat.lt_irrefl _)
      · cases foundSecond
        exact absurd (distinct.bounded foundFirst) (Nat.lt_irrefl _)
      · exact distinct.injective foundFirst foundSecond

/-- What a stage can keep: the temporaries that entries were given one after another. -/
inductive Reached : Temporaries → Prop where
  | start (stage : Option Stage) : Reached (start stage)
  | declare {temporaries next : Temporaries} {entry : Option Nat} {name : String} (before : Reached temporaries)
      (done : temporaries.declare entry = .ok (name, next)) : Reached next

theorem Reached.distinct (reached : temporaries.Reached) : temporaries.Distinct := by
  induction reached with
  | start stage => exact distinct_start stage
  | declare _ done before => exact before.declare done

/-- The nodes that have a temporary, which has a number of its own. -/
structure Numbers (temporaries : Temporaries) (nodes : List Nat) : Prop extends temporaries.Distinct where
  listed : ∀ node, (∃ index, temporaries.index? node = some index) ↔ node ∈ nodes

theorem numbers_start (stage : Option Stage) : (start stage).Numbers [] :=
  ⟨distinct_start stage, fun node => by simp [index?_start]⟩

variable {nodes : List Nat} {node : Nat}

private theorem Numbers.index?_eq_none (numbers : temporaries.Numbers nodes) (fresh : node ∉ nodes) :
    temporaries.index? node = none :=
  Option.eq_none_iff_forall_ne_some.2 (fun index found => fresh ((numbers.listed node).1 ⟨index, found⟩))

/-- A new node gets the next temporary. -/
theorem Numbers.declare (numbers : temporaries.Numbers nodes) (fresh : node ∉ nodes) :
    temporaries.declare (some node) = .ok (temporary temporaries.count, temporaries.withNode node) := by
  simp [Temporaries.declare, contains_of_fresh (numbers.index?_eq_none fresh), withNode]

theorem Numbers.withNode (numbers : temporaries.Numbers nodes) (fresh : node ∉ nodes) :
    (temporaries.withNode node).Numbers (nodes ++ [node]) := by
  refine ⟨numbers.toDistinct.declare (numbers.declare fresh), fun other => ?_⟩
  rw [index?_withNode, List.mem_append, List.mem_singleton, ← numbers.listed]
  split
  · rename_i same
    simp [same]
  · rename_i differs
    simp [Ne.symm differs]

end Temporaries

/-- The expression that a node is rendered as: its operands are referred to, and what stands between them says what
kind of node it is. -/
inductive Renders (temporaries : Temporaries) : Source → Expression → Prop where
  | arithmetic {node : Nat} {operator : Arithmetic} {lhs rhs : Value} {left right : Reference}
      (first : temporaries.reference lhs = .ok left) (second : temporaries.reference rhs = .ok right) :
      Renders temporaries (.arithmetic node operator lhs rhs) (.binary (arithmeticSymbol operator) left right)
  | compare {node : Nat} {comparison : Comparison} {lhs rhs : Value} {left right : Reference}
      (first : temporaries.reference lhs = .ok left) (second : temporaries.reference rhs = .ok right) :
      Renders temporaries (.compare node comparison lhs rhs) (.binary (comparisonSymbol comparison) left right)
  | branch {node : Nat} {condition success failure : Value} {asked left right : Reference}
      (first : temporaries.reference success = .ok left) (second : temporaries.reference failure = .ok right)
      (third : temporaries.reference condition = .ok asked) :
      Renders temporaries (.branch node condition success failure) (.choice asked left right)
  | sample {node : Nat} {filter : Filter} {texture coordinate : Value} {left right : Reference}
      (first : temporaries.reference texture = .ok left) (second : temporaries.reference coordinate = .ok right) :
      Renders temporaries (.sample node filter texture coordinate) (.call "texture" [left, right])
  | lerp {node : Nat} {lhs rhs factor : Value} {left right by_ : Reference}
      (first : temporaries.reference lhs = .ok left) (second : temporaries.reference rhs = .ok right)
      (third : temporaries.reference factor = .ok by_) :
      Renders temporaries (.lerp node lhs rhs factor) (.call "mix" [left, right, by_])
  | construct {node : Nat} {type : ShaderType} {parts : List Value} {arguments : List Reference} {name : String}
      (each : parts.mapM (fun part => temporaries.reference part) = .ok arguments)
      (spelled : spelling type = .ok name) :
      Renders temporaries (.construct node type parts) (.call name arguments)

/-- A computation that goes on succeeds only if its first step does. -/
theorem bind_eq_ok {α β ε : Type} {first : Except ε α} {rest : α → Except ε β} {result : β}
    (done : (first >>= rest) = .ok result) : ∃ value, first = .ok value ∧ rest value = .ok result := by
  cases first with
  | error => exact nomatch done
  | ok value => exact ⟨value, rfl, done⟩

/-- The results of a computation for each of several entries. -/
theorem forall₂_of_mapM {α β : Type} {run : α → Except Error β} {entries : List α} {results : List β}
    (done : entries.mapM run = .ok results) :
    List.Forall₂ (fun entry result => run entry = .ok result) entries results := by
  induction entries generalizing results with
  | nil =>
    cases done
    exact .nil
  | cons entry rest ih =>
    rw [List.mapM_cons] at done
    obtain ⟨first, ran, done⟩ := bind_eq_ok done
    obtain ⟨others, ranOthers, done⟩ := bind_eq_ok done
    cases done
    exact .cons ran (ih ranOthers)

private theorem mapM_of_forall₂ {α β : Type} {run : α → Except Error β} {entries : List α} {results : List β}
    (pairs : List.Forall₂ (fun entry result => run entry = .ok result) entries results) :
    entries.mapM run = .ok results := by
  induction pairs with
  | nil => rfl
  | cons ran _ ih =>
    rw [List.mapM_cons, ran, ih]
    rfl

theorem exists_of_forall₂ {α β : Type} {Related : α → β → Prop} {entries : List α} {results : List β}
    (pairs : List.Forall₂ Related entries results) {result : β} (member : result ∈ results) :
    ∃ entry ∈ entries, Related entry result := by
  induction pairs with
  | nil => exact nomatch member
  | cons related _ ih =>
    rcases List.mem_cons.1 member with rfl | later
    · exact ⟨_, List.mem_cons_self, related⟩
    · obtain ⟨entry, listed, relatedLater⟩ := ih later
      exact ⟨entry, List.mem_cons_of_mem _ listed, relatedLater⟩

theorem liftViolation_eq_ok {α : Type} {checked : Except Violation α} {value : α}
    (done : liftViolation checked = .ok value) : checked = .ok value := by
  cases checked with
  | error => exact nomatch done
  | ok =>
    cases done
    rfl

/-- What an expression reads, from left to right. -/
def Expression.references : Expression → List Reference
  | .binary _ lhs rhs => [lhs, rhs]
  | .choice condition success failure => [condition, success, failure]
  | .call _ arguments => arguments

/-- An expression refers to the operands of its node one after the other. -/
theorem Renders.references {temporaries : Temporaries} {source : Source} {expression : Expression}
    (renders : Renders temporaries source expression) :
    List.Forall₂ (fun operand reference => temporaries.reference operand = .ok reference) source.operands
      expression.references := by
  cases renders with
  | arithmetic first second | compare first second | sample first second => exact .cons first (.cons second .nil)
  | branch first second third => exact .cons third (.cons first (.cons second .nil))
  | lerp first second third => exact .cons first (.cons second (.cons third .nil))
  | construct each => exact forall₂_of_mapM each

private theorem renders_of_expressionOf {temporaries : Temporaries} {branching : Branching} {value : Value}
    {expression : Expression} (done : expressionOf temporaries branching value = .ok expression) :
    Renders temporaries value.source expression := by
  unfold expressionOf at done
  obtain ⟨operation, ran, done⟩ := bind_eq_ok done
  cases origin : value.source with
  | leaf | component =>
    rw [origin] at ran done
    cases ran
    exact nomatch done
  | arithmetic node operator lhs rhs =>
    rw [origin] at ran
    obtain ⟨left, first, ran⟩ := bind_eq_ok ran
    obtain ⟨right, second, ran⟩ := bind_eq_ok ran
    cases ran
    cases done
    exact .arithmetic first second
  | compare node comparison lhs rhs =>
    rw [origin] at ran
    obtain ⟨left, first, ran⟩ := bind_eq_ok ran
    obtain ⟨right, second, ran⟩ := bind_eq_ok ran
    cases ran
    cases done
    exact .compare first second
  | branch node condition success failure =>
    rw [origin] at ran
    obtain ⟨left, first, ran⟩ := bind_eq_ok ran
    obtain ⟨right, second, ran⟩ := bind_eq_ok ran
    cases branching with
    | refused => exact nomatch ran
    | ternary =>
      obtain ⟨asked, third, ran⟩ := bind_eq_ok ran
      cases ran
      cases done
      exact .branch first second third
  | sample node filter texture coordinate =>
    rw [origin] at ran
    obtain ⟨left, first, ran⟩ := bind_eq_ok ran
    obtain ⟨right, second, ran⟩ := bind_eq_ok ran
    cases ran
    cases done
    exact .sample first second
  | lerp node lhs rhs factor =>
    rw [origin] at ran
    obtain ⟨left, first, ran⟩ := bind_eq_ok ran
    obtain ⟨right, second, ran⟩ := bind_eq_ok ran
    obtain ⟨by_, third, ran⟩ := bind_eq_ok ran
    cases ran
    cases done
    exact .lerp first second third
  | construct node type parts =>
    rw [origin] at ran done
    cases ran
    obtain ⟨construction, ran, done⟩ := bind_eq_ok done
    obtain ⟨arguments, each, ran⟩ := bind_eq_ok ran
    obtain ⟨name, spelled, ran⟩ := bind_eq_ok ran
    cases ran
    cases done
    exact .construct each (liftViolation_eq_ok spelled)

private theorem okIff_expressionOf {temporaries : Temporaries} {value : Value} {node : Nat}
    (isNode : value.source.node? = some node) (typed : ∀ read, value.Reaches read → read.Typed) :
    OkIff (fun error => ∃ operand ∈ value.source.operands, Unnamed temporaries.Declares operand error)
      (∀ operand ∈ value.source.operands, temporaries.Names operand.root)
      (expressionOf temporaries .ternary value) := by
  have refers : ∀ operand ∈ value.source.operands,
      OkIff (fun error => ∃ operand ∈ value.source.operands, Unnamed temporaries.Declares operand error)
        (temporaries.Names operand.root) (temporaries.reference operand) :=
    fun operand read => (Temporaries.okIff_reference (fun other below =>
      typed other (Value.reaches_of_operand read below))).mono (fun _ unnamed => ⟨operand, read, unnamed⟩)
  generalize (fun error => ∃ operand ∈ value.source.operands, Unnamed temporaries.Declares operand error) = Stops
    at refers ⊢
  unfold expressionOf
  cases origin : value.source with
  | leaf | component => simp [origin, Source.node?] at isNode
  | arithmetic | compare | sample =>
    simp only [origin, Source.operands, List.forall_mem_cons] at refers
    simp only [operationExpression, bind_assoc, pure_bind]
    exact (refers.1.bind (fun _ _ => refers.2.1.bind_pure)).congr (by simp [Source.operands])
  | branch =>
    simp only [origin, Source.operands, List.forall_mem_cons] at refers
    simp only [operationExpression, bind_assoc, pure_bind]
    refine (refers.2.1.bind (fun _ _ => refers.2.2.1.bind (fun _ _ => refers.1.bind_pure))).congr ?_
    simp only [Source.operands, List.mem_cons, List.not_mem_nil, or_false, forall_eq_or_imp, forall_eq]
    -- The condition is the first operand, but it is referred to last.
    constructor
    · rintro ⟨second, third, first⟩
      exact ⟨first, second, third⟩
    · rintro ⟨first, second, third⟩
      exact ⟨second, third, first⟩
  | lerp =>
    simp only [origin, Source.operands, List.forall_mem_cons] at refers
    simp only [operationExpression, bind_assoc, pure_bind]
    refine (refers.1.bind (fun _ _ => refers.2.1.bind (fun _ _ => refers.2.2.1.bind_pure))).congr ?_
    simp [Source.operands]
  | construct _ type parts =>
    have whole := (typed value value.reaches_refl).2
    rw [origin] at refers whole
    have proper : type ≠ .operation := whole.1 ▸ (typed value value.reaches_refl).1
    simp only [operationExpression, constructExpression, bind_assoc, pure_bind]
    exact ((OkIff.mapM refers).bind (fun _ _ => (okIff_spelling proper).bind_pure)).congr (by simp [Source.operands])

private theorem okIff_declarationOf {temporaries : Temporaries} {nodes : List Nat} {value : Value} {node : Nat}
    (numbers : temporaries.Numbers nodes) (isNode : value.source.node? = some node) (fresh : node ∉ nodes)
    (typed : ∀ read, value.Reaches read → read.Typed) :
    OkIff (fun error => ∃ operand ∈ value.source.operands, Unnamed temporaries.Declares operand error)
      (∀ operand ∈ value.source.operands, temporaries.Names operand.root)
      (declarationOf temporaries .ternary value) := by
  have proper := (typed value value.reaches_refl).1
  unfold declarationOf
  refine ((okIff_expressionOf isNode typed).bind (fun _ _ => ?_)).congr (and_iff_left trivial)
  rw [isNode, numbers.declare fresh]
  exact (okIff_spelling proper).bind_pure

private theorem okIff_instructionOf {temporaries : Temporaries} {nodes : List Nat} {plan : Plan} {statement : Statement}
    (numbers : temporaries.Numbers nodes) (fits : statement.Fits plan)
    (fresh : ∀ node, statement.node? = some node → node ∉ nodes)
    (typed : ∀ value, plan.Reached value → value.Typed) :
    OkIff (fun error => ∃ value ∈ statement.reads, Unnamed temporaries.Declares value error)
      (∀ value ∈ statement.reads, temporaries.Names value.root) (instructionOf temporaries .ternary statement) := by
  have typedBelow : ∀ {value : Value}, plan.Reached value → ∀ read, value.Reaches read → read.Typed :=
    fun reached read below => typed read (reached.reaches below)
  cases statement with
  | declare value =>
    obtain ⟨reached, node, isNode⟩ := fits
    exact okIff_declarationOf numbers isNode (fresh node isNode) (typedBelow reached)
  | assign output value =>
    have reached := Plan.reached_target fits
    refine ((Temporaries.okIff_reference (typedBelow reached)).mono ?_).bind_pure.congr (by simp [Statement.reads])
    exact fun _ unnamed => ⟨value, List.mem_singleton_self value, unnamed⟩

private theorem instructionOf_cases {temporaries next : Temporaries} {branching : Branching} {nodes : List Nat}
    {plan : Plan} {statement : Statement} {instruction : Instruction} (numbers : temporaries.Numbers nodes)
    (fits : statement.Fits plan) (fresh : ∀ node, statement.node? = some node → node ∉ nodes)
    (done : instructionOf temporaries branching statement = .ok (instruction, next)) :
    (∃ value node type expression, statement = .declare value ∧ value.source.node? = some node ∧
        Renders temporaries value.source expression ∧ spelling value.type = .ok type ∧
        instruction = .declare type (temporary temporaries.count) expression ∧ next = temporaries.withNode node) ∨
      ∃ output value reference, statement = .assign output value ∧ temporaries.reference value = .ok reference ∧
        instruction = .assign (outputName output) reference ∧ next = temporaries := by
  cases statement with
  | declare value =>
    obtain ⟨_, node, isNode⟩ := fits
    change declarationOf temporaries branching value = .ok (instruction, next) at done
    unfold declarationOf at done
    obtain ⟨expression, rendered, done⟩ := bind_eq_ok done
    rw [isNode, numbers.declare (fresh node isNode)] at done
    obtain ⟨_, declared, done⟩ := bind_eq_ok done
    cases declared
    obtain ⟨type, spelled, done⟩ := bind_eq_ok done
    cases done
    exact .inl ⟨value, node, type, expression, rfl, isNode, renders_of_expressionOf rendered,
      liftViolation_eq_ok spelled, rfl, rfl⟩
  | assign output value =>
    obtain ⟨reference, named, done⟩ := bind_eq_ok done
    cases done
    exact .inr ⟨output, value, reference, rfl, named, rfl, rfl⟩

private theorem declaredNodes_append (first second : List Statement) :
    declaredNodes (first ++ second) = declaredNodes first ++ declaredNodes second :=
  List.filterMap_append

private theorem numbers_of_instructionOf {temporaries next : Temporaries} {branching : Branching} {plan : Plan}
    {earlier : List Statement} {statement : Statement} {instruction : Instruction}
    (numbers : temporaries.Numbers (declaredNodes earlier)) (fits : statement.Fits plan)
    (fresh : ∀ node, statement.node? = some node → node ∉ declaredNodes earlier)
    (done : instructionOf temporaries branching statement = .ok (instruction, next)) :
    next.Numbers (declaredNodes (earlier ++ [statement])) := by
  rw [declaredNodes_append]
  rcases instructionOf_cases numbers fits fresh done with
    ⟨value, node, _, _, rfl, isNode, _, _, _, rfl⟩ | ⟨output, value, _, rfl, _, _, rfl⟩
  · rw [declaredNodes_declare isNode]
    exact numbers.withNode (fresh node isNode)
  · rw [declaredNodes_assign]
    simpa [declaredNodes] using numbers

/-- What a statement names can be referred to after earlier statements: nodes are declared by them, and leaves have a
spelling. -/
structure Readable (earlier : List Statement) (source : Source) : Prop where
  node : ∀ node, source.node? = some node → node ∈ declaredNodes earlier
  leaf : ∀ leaf, source = .leaf leaf → Spelled leaf

private theorem names_iff_readable {temporaries : Temporaries} {earlier : List Statement}
    (numbers : temporaries.Numbers (declaredNodes earlier)) (source : Source) :
    temporaries.Names source ↔ Readable earlier source := by
  constructor
  · exact fun names => ⟨fun node isNode => (numbers.listed node).1 (names.node node isNode), names.leaf⟩
  · exact fun readable => ⟨fun node isNode => (numbers.listed node).2 (readable.node node isNode), readable.leaf⟩

private theorem Unnamed.of_numbers {temporaries : Temporaries} {earlier : List Statement}
    (numbers : temporaries.Numbers (declaredNodes earlier)) {value : Value} {error : Error}
    (unnamed : Unnamed temporaries.Declares value error) : Unnamed (· ∈ declaredNodes earlier) value error := by
  cases unnamed with
  | leaf below origin unspelled => exact .leaf below origin unspelled
  | node below isNode late => exact .node below isNode (fun declared => late ((numbers.listed _).2 declared))

private theorem fresh_of_once {earlier rest : List Statement} {statement : Statement}
    (once : (declaredNodes (earlier ++ statement :: rest)).Nodup) {node : Nat} (isNode : statement.node? = some node) :
    node ∉ declaredNodes earlier := by
  intro member
  rw [declaredNodes_append] at once
  have listed : node ∈ declaredNodes (statement :: rest) :=
    List.mem_filterMap.2 ⟨statement, List.mem_cons_self, isNode⟩
  exact (List.nodup_append.1 once).2.2 node member node listed rfl

/-- Statements can be rendered one after the other exactly if each can be, with the temporaries of those before it. -/
theorem okIff_instructionsOf {temporaries : Temporaries} {plan : Plan} {earlier statements : List Statement}
    {Stops : Error → Prop} (numbers : temporaries.Numbers (declaredNodes earlier))
    (fits : ∀ statement ∈ statements, statement.Fits plan) (once : (declaredNodes (earlier ++ statements)).Nodup)
    (typed : ∀ value, plan.Reached value → value.Typed)
    (stops : ∀ before statement after, statements = before ++ statement :: after → ∀ value ∈ statement.reads,
      ∀ error, Unnamed (· ∈ declaredNodes (earlier ++ before)) value error → Stops error) :
    OkIff Stops (∀ before statement after, statements = before ++ statement :: after → ∀ value ∈ statement.reads,
      Readable (earlier ++ before) value.root) (instructionsOf .ternary temporaries statements).1 := by
  induction statements generalizing temporaries earlier with
  | nil => exact .ok (by simp)
  | cons statement rest ih =>
    have statementFits := fits statement List.mem_cons_self
    have fresh : ∀ node, statement.node? = some node → node ∉ declaredNodes earlier :=
      fun _ isNode => fresh_of_once once isNode
    have head := okIff_instructionOf numbers statementFits fresh typed
    simp only [names_iff_readable numbers] at head
    -- The condition on all statements is that on the first one and that on the others after it.
    have split : (∀ before other after, statement :: rest = before ++ other :: after → ∀ value ∈ other.reads,
        Readable (earlier ++ before) value.root) ↔ (∀ value ∈ statement.reads, Readable earlier value.root) ∧
          ∀ before other after, rest = before ++ other :: after → ∀ value ∈ other.reads,
            Readable (earlier ++ [statement] ++ before) value.root := by
      constructor
      · refine fun all => ⟨fun value read => ?_, fun before other after same value read => ?_⟩
        · simpa using all [] statement rest rfl value read
        · simpa using all (statement :: before) other after (by rw [same, List.cons_append]) value read
      · rintro ⟨first, others⟩ before other after same value read
        cases before with
        | nil =>
          cases same
          simpa using first value read
        | cons _ before =>
          cases same
          simpa using others before other after rfl value read
    refine OkIff.congr ?_ split.symm
    unfold instructionsOf
    cases ran : instructionOf temporaries .ternary statement with
    | error error =>
      rw [ran] at head
      cases head with
      | failed unnamed fails =>
        obtain ⟨value, read, unnamed⟩ := unnamed
        have stopsHere := stops [] statement rest rfl value read error
        rw [List.append_nil] at stopsHere
        exact .failed (stopsHere (unnamed.of_numbers numbers)) (fun both => fails both.1)
    | ok result =>
      obtain ⟨instruction, next⟩ := result
      rw [ran] at head
      have holds : ∀ value ∈ statement.reads, Readable earlier value.root := by
        cases head
        assumption
      have later : ∀ before other after, rest = before ++ other :: after → ∀ value ∈ other.reads,
          ∀ error, Unnamed (· ∈ declaredNodes (earlier ++ [statement] ++ before)) value error → Stops error := by
        intro before other after same value read error unnamed
        rw [List.append_assoc, List.singleton_append] at unnamed
        exact stops (statement :: before) other after (by rw [same, List.cons_append]) value read error unnamed
      have tail := ih (numbers_of_instructionOf numbers statementFits fresh ran)
        (fun other member => fits other (List.mem_cons_of_mem _ member)) (by simpa using once) later
      dsimp only
      generalize instructionsOf .ternary next rest = result at tail ⊢
      obtain ⟨result, last⟩ := result
      cases tail with
      | ok others => exact .ok ⟨holds, others⟩
      | failed stops fails => exact .failed stops (fun both => fails both.2)

/-- The instructions that statements are rendered as. A declaration takes the next temporary. -/
inductive Emits : Temporaries → List Statement → List Instruction → Prop where
  | nil {temporaries : Temporaries} : Emits temporaries [] []
  | declare {temporaries : Temporaries} {value : Value} {node : Nat} {type : String} {expression : Expression}
      {rest : List Statement} {instructions : List Instruction} (isNode : value.source.node? = some node)
      (renders : Renders temporaries value.source expression) (spelled : spelling value.type = .ok type)
      (fresh : temporaries.index? node = none) (others : Emits (temporaries.withNode node) rest instructions) :
      Emits temporaries (.declare value :: rest)
        (.declare type (temporary temporaries.count) expression :: instructions)
  | assign {temporaries : Temporaries} {output : Output} {value : Value} {reference : Reference}
      {rest : List Statement} {instructions : List Instruction} (named : temporaries.reference value = .ok reference)
      (others : Emits temporaries rest instructions) :
      Emits temporaries (.assign output value :: rest) (.assign (outputName output) reference :: instructions)

theorem emits_of_instructionsOf {temporaries : Temporaries} {branching : Branching} {plan : Plan}
    {earlier statements : List Statement} {instructions : List Instruction}
    (numbers : temporaries.Numbers (declaredNodes earlier))
    (fits : ∀ statement ∈ statements, statement.Fits plan) (once : (declaredNodes (earlier ++ statements)).Nodup)
    (done : (instructionsOf branching temporaries statements).1 = .ok instructions) :
    Emits temporaries statements instructions := by
  induction statements generalizing temporaries earlier instructions with
  | nil =>
    cases done
    exact .nil
  | cons statement rest ih =>
    have fresh : ∀ node, statement.node? = some node → node ∉ declaredNodes earlier :=
      fun _ isNode => fresh_of_once once isNode
    have statementFits := fits statement List.mem_cons_self
    unfold instructionsOf at done
    cases ran : instructionOf temporaries branching statement with
    | error =>
      rw [ran] at done
      cases done
    | ok result =>
      obtain ⟨instruction, next⟩ := result
      rw [ran] at done
      dsimp only at done
      cases others : instructionsOf branching next rest with
      | mk rendered last =>
        rw [others] at done
        cases rendered with
        | error => cases done
        | ok instructions =>
          cases done
          have tail := ih (numbers_of_instructionOf numbers statementFits fresh ran)
            (fun other member => fits other (List.mem_cons_of_mem _ member)) (by simpa using once) (by rw [others])
          rcases instructionOf_cases numbers statementFits fresh ran with
            ⟨value, node, type, expression, rfl, isNode, renders, spelled, rfl, rfl⟩ |
              ⟨output, value, reference, rfl, named, rfl, rfl⟩
          · exact .declare isNode renders spelled (numbers.index?_eq_none (fresh node isNode)) tail
          · exact .assign named tail

namespace Temporaries

variable {first last : Temporaries}

/-- What has a temporary keeps it. -/
def Extends (first last : Temporaries) : Prop :=
  ∀ node index, first.index? node = some index → last.index? node = some index

/-- The temporaries after statements. -/
def after (temporaries : Temporaries) (statements : List Statement) : Temporaries :=
  (declaredNodes statements).foldl withNode temporaries

private theorem extends_withNode {node : Nat} (fresh : first.index? node = none) : first.Extends (first.withNode node)
    := by
  intro other index found
  rw [index?_withNode, if_neg, found]
  rintro rfl
  exact nomatch fresh.symm.trans found

theorem Extends.reference (kept : first.Extends last) {value : Value} {reference : Reference}
    (named : first.reference value = .ok reference) : last.reference value = .ok reference := by
  rcases reference_cases named with ⟨leaf, name, root, spelled, rfl⟩ | ⟨node, index, isNode, found, rfl⟩
  · rw [reference_of_leaf root, spelled]
    rfl
  · exact reference_of_index isNode (kept node index found)

end Temporaries

private theorem Temporaries.declare_eq_ok {temporaries next : Temporaries} {node : Nat} {name : String}
    (done : temporaries.declare (some node) = .ok (name, next)) : next = temporaries.withNode node := by
  unfold Temporaries.declare at done
  dsimp only at done
  split at done
  · exact nomatch done
  · cases done
    rfl

/-- Rendering statements leaves their temporaries behind. -/
theorem after_of_instructionsOf {temporaries : Temporaries} {branching : Branching} {plan : Plan}
    {statements : List Statement} {instructions : List Instruction}
    (fits : ∀ statement ∈ statements, statement.Fits plan)
    (done : (instructionsOf branching temporaries statements).1 = .ok instructions) :
    (instructionsOf branching temporaries statements).2 = temporaries.after statements := by
  induction statements generalizing temporaries instructions with
  | nil => rfl
  | cons statement rest ih =>
    unfold instructionsOf at done ⊢
    cases ran : instructionOf temporaries branching statement with
    | error =>
      rw [ran] at done
      cases done
    | ok result =>
      obtain ⟨instruction, next⟩ := result
      rw [ran] at done
      dsimp only at done ⊢
      have ends : next.after rest = temporaries.after (statement :: rest) := by
        cases statement with
        | declare value =>
          obtain ⟨_, node, isNode⟩ := fits (.declare value) List.mem_cons_self
          obtain ⟨_, _, ran⟩ := bind_eq_ok ran
          obtain ⟨⟨_, _⟩, declared, ran⟩ := bind_eq_ok ran
          obtain ⟨_, _, ran⟩ := bind_eq_ok ran
          cases ran
          rw [isNode] at declared
          rw [Temporaries.declare_eq_ok (liftViolation_eq_ok declared), Temporaries.after, Temporaries.after,
            declaredNodes_declare isNode]
          rfl
        | assign output value =>
          obtain ⟨_, _, ran⟩ := bind_eq_ok ran
          cases ran
          rfl
      cases others : instructionsOf branching next rest with
      | mk rendered last =>
        rw [others] at done
        cases rendered with
        | error => cases done
        | ok instructions =>
          have left := ih (fun other member => fits other (List.mem_cons_of_mem _ member))
            (show (instructionsOf branching next rest).1 = .ok instructions by rw [others])
          rw [others, ends] at left
          exact left

theorem Renders.mono {first last : Temporaries} (kept : first.Extends last) {source : Source} {expression : Expression}
    (renders : Renders first source expression) : Renders last source expression := by
  cases renders with
  | arithmetic left right => exact .arithmetic (kept.reference left) (kept.reference right)
  | compare left right => exact .compare (kept.reference left) (kept.reference right)
  | branch left right asked => exact .branch (kept.reference left) (kept.reference right) (kept.reference asked)
  | sample left right => exact .sample (kept.reference left) (kept.reference right)
  | lerp left right weight => exact .lerp (kept.reference left) (kept.reference right) (kept.reference weight)
  | construct each spelled => exact .construct (mapM_of_forall₂ ((forall₂_of_mapM each).imp
      (fun _ _ named => kept.reference named))) spelled

/-- The instruction of a statement, with the temporaries that the body ends with. -/
inductive Line (last : Temporaries) : Statement → Instruction → Prop where
  | declare {value : Value} {node index : Nat} {type : String} {expression : Expression}
      (isNode : value.source.node? = some node) (numbered : last.index? node = some index)
      (spelled : spelling value.type = .ok type) (renders : Renders last value.source expression) :
      Line last (.declare value) (.declare type (temporary index) expression)
  | assign {output : Output} {value : Value} {reference : Reference} (named : last.reference value = .ok reference) :
      Line last (.assign output value) (.assign (outputName output) reference)

private theorem Emits.extends_after {temporaries : Temporaries} {statements : List Statement}
    {instructions : List Instruction} (emits : Emits temporaries statements instructions) : temporaries.Extends
    (temporaries.after statements) := by
  induction emits with
  | nil => exact fun _ _ found => found
  | declare isNode _ _ fresh _ ih =>
    intro other index found
    rw [Temporaries.after, declaredNodes_declare isNode]
    exact ih _ _ (Temporaries.extends_withNode fresh _ _ found)
  | assign _ _ ih => exact ih

/-- Every instruction is that of its statement, also with the temporaries that are declared only later. -/
theorem Emits.lines {temporaries : Temporaries} {statements : List Statement} {instructions : List Instruction}
    (emits : Emits temporaries statements instructions) :
    List.Forall₂ (Line (temporaries.after statements)) statements instructions := by
  induction emits with
  | nil => exact .nil
  | @declare temporaries value node type expression rest instructions isNode renders spelled fresh others ih =>
    have last : temporaries.after (.declare value :: rest) = (temporaries.withNode node).after rest := by
      rw [Temporaries.after, declaredNodes_declare isNode]
      rfl
    have numbered : (temporaries.withNode node).index? node = some temporaries.count := by
      rw [Temporaries.index?_withNode, if_pos rfl]
    rw [last]
    refine .cons (.declare isNode (others.extends_after _ _ numbered) spelled (renders.mono ?_)) ih
    exact fun _ _ found => others.extends_after _ _ (Temporaries.extends_withNode fresh _ _ found)
  | assign named others ih => exact .cons (.assign (others.extends_after.reference named)) ih

end Shading.Glsl
