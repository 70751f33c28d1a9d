import Shading.Proofs.Linking

/-!
# What a link is refused for

A tour of a value lists all that the value depends on, depth first and as often as it is read. The walk of a document
leaves out what it has met before, and still whatever it is looking for is found first at the same place as on the tour
(`find?_reachableFrom_append`): what is passed over was searched before. So two stages and an attribute list are refused exactly
for the reasons that the documents give, and the first of them is reported (`link_refused_iff`).
-/

namespace Shading

open Relation

/-- A source reads a value in one of its operand positions. -/
inductive Source.Reads : Source → Value → Prop where
  | parent {parent : Value} {letters : String} : Reads (.component parent letters) parent
  | arithmeticLeft {node : Nat} {operator : Arithmetic} {lhs rhs : Value} : Reads (.arithmetic node operator lhs rhs) lhs
  | arithmeticRight {node : Nat} {operator : Arithmetic} {lhs rhs : Value} : Reads (.arithmetic node operator lhs rhs) rhs
  | compareLeft {node : Nat} {comparison : Comparison} {lhs rhs : Value} : Reads (.compare node comparison lhs rhs) lhs
  | compareRight {node : Nat} {comparison : Comparison} {lhs rhs : Value} : Reads (.compare node comparison lhs rhs) rhs
  | condition {node : Nat} {condition success failure : Value} : Reads (.branch node condition success failure) condition
  | success {node : Nat} {condition success failure : Value} : Reads (.branch node condition success failure) success
  | failure {node : Nat} {condition success failure : Value} : Reads (.branch node condition success failure) failure
  | texture {node : Nat} {filter : Filter} {texture coordinate : Value} : Reads (.sample node filter texture coordinate) texture
  | coordinate {node : Nat} {filter : Filter} {texture coordinate : Value} :
      Reads (.sample node filter texture coordinate) coordinate
  | lerpFrom {node : Nat} {lhs rhs factor : Value} : Reads (.lerp node lhs rhs factor) lhs
  | lerpTo {node : Nat} {lhs rhs factor : Value} : Reads (.lerp node lhs rhs factor) rhs
  | factor {node : Nat} {lhs rhs factor : Value} : Reads (.lerp node lhs rhs factor) factor
  | part {node : Nat} {type : ShaderType} {parts : List Value} {part : Value} (listed : part ∈ parts) :
      Reads (.construct node type parts) part

/-- The second value is the first one, or is read by it through any number of operand positions. -/
def Value.Uses : Value → Value → Prop :=
  ReflTransGen (fun value operand => value.source.Reads operand)

mutual

/-- A value and all that it depends on, depth first, with operands in the order in which they are computed. -/
def Value.tour : Value → List Value
  | .mk key type source => .mk key type source :: source.tour

/-- The tours of what a source reads. -/
def Source.tour : Source → List Value
  | .leaf _ => []
  | .component parent _ => parent.tour
  | .arithmetic _ _ lhs rhs | .compare _ _ lhs rhs => lhs.tour ++ rhs.tour
  | .branch _ condition success failure => condition.tour ++ success.tour ++ failure.tour
  | .sample _ _ texture coordinate => texture.tour ++ coordinate.tour
  | .lerp _ lhs rhs factor => lhs.tour ++ rhs.tour ++ factor.tour
  | .construct _ _ parts => tourOfAll parts

/-- The tours of several values, one after the other. -/
def tourOfAll : List Value → List Value
  | [] => []
  | value :: rest => value.tour ++ tourOfAll rest

end

private theorem Source.tour_eq (source : Source) : source.tour = tourOfAll source.operands := by
  cases source <;> simp [Source.tour, Source.operands, tourOfAll]

private theorem Value.tour_eq (value : Value) : value.tour = value :: tourOfAll value.source.operands := by
  cases value with
  | mk key type source => rw [Value.tour, Source.tour_eq, Value.source]

theorem mem_tourOfAll {values : List Value} {read : Value} :
    read ∈ tourOfAll values ↔ ∃ value ∈ values, read ∈ value.tour := by
  induction values with
  | nil => simp [tourOfAll]
  | cons value rest ih => simp [tourOfAll, ih]

theorem Value.mem_tour_self (value : Value) : value ∈ value.tour := by
  rw [value.tour_eq]
  exact List.mem_cons_self

/-- What is on the tour of an operand is on the tour of what reads it. -/
theorem Value.mem_tour_of_operand {value operand read : Value} (reads : operand ∈ value.source.operands)
    (below : read ∈ operand.tour) : read ∈ value.tour := by
  rw [value.tour_eq]
  exact List.mem_cons_of_mem _ (mem_tourOfAll.2 ⟨operand, reads, below⟩)

private theorem Value.mem_tour {value read : Value} : read ∈ value.tour ↔ value.Reaches read := by
  constructor
  · intro member
    rw [value.tour_eq] at member
    rcases List.mem_cons.1 member with rfl | deeper
    · exact Value.reaches_refl read
    · obtain ⟨operand, reads, below⟩ := mem_tourOfAll.1 deeper
      exact Value.reaches_of_operand reads (Value.mem_tour.1 below)
  · intro reaches
    induction reaches using ReflTransGen.head_induction_on with
    | refl => exact read.mem_tour_self
    | head reads _ ih => exact Value.mem_tour_of_operand reads ih
termination_by value.size
decreasing_by
  have bound := size_le_sizeOfAll reads
  have size := value.size_eq
  omega

/-- The tours of the values that a document writes. -/
def Document.tour (document : Document) : List Value :=
  tourOfAll (document.writes.map Prod.snd)

private theorem Value.size_le_of_reaches {value read : Value} (reaches : value.Reaches read) :
    read.size ≤ value.size := by
  induction reaches with
  | refl => exact Nat.le_refl _
  | @tail middle operand _ reads ih =>
    have bound := size_le_sizeOfAll reads
    have size := middle.size_eq
    omega

theorem Value.mem_tour_trans {value middle read : Value} (upper : middle ∈ value.tour) (lower : read ∈ middle.tour) :
    read ∈ value.tour :=
  Value.mem_tour.2 ((Value.mem_tour.1 upper).trans (Value.mem_tour.1 lower))

private theorem Value.not_mem_tour_operands (value : Value) : value ∉ tourOfAll value.source.operands := by
  intro member
  obtain ⟨operand, reads, on⟩ := mem_tourOfAll.1 member
  have bound := size_le_sizeOfAll reads
  have size := Value.size_le_of_reaches (Value.mem_tour.1 on)
  have total := value.size_eq
  omega

theorem mem_tour_cons {value read : Value} {others : List Value} :
    read ∈ tourOfAll (value :: others) ↔ read ∈ value.tour ∨ read ∈ tourOfAll others := by
  rw [tourOfAll, List.mem_append]

private theorem Value.mem_tour_of_deeper {value read : Value} (deeper : read ∈ tourOfAll value.source.operands) :
    read ∈ value.tour := by
  rw [value.tour_eq]
  exact List.mem_cons_of_mem _ deeper

section

variable {Built : Value → Prop} {wanted : Source → Bool} {value : Value} {others : List Value} {seen later : NumberSet}

/-- What was met before and is met again on the tours was searched: nothing that is wanted lies below it. -/
def Searched (wanted : Source → Bool) (seen : NumberSet) (values : List Value) : Prop :=
  ∀ value ∈ tourOfAll values, seen.contains value.key = true → ∀ read ∈ value.tour, wanted read.source = false

/-- What was met later was met before or is on the tours. -/
def MetOn (values : List Value) (seen later : NumberSet) : Prop :=
  ∀ key, later.contains key = true → seen.contains key = true ∨ ∃ value ∈ tourOfAll values, value.key = key

theorem Searched.rest (searched : Searched wanted seen (value :: others)) : Searched wanted seen others :=
  fun read member => searched read (mem_tour_cons.2 (.inr member))

/-- Once a value is met it lies above what is searched next, so it does not come up there. -/
theorem Searched.operands (sameKey : ∀ first second, Built first → Built second → first.key = second.key → first = second)
    (built : ∀ read ∈ value.tour, Built read) (searched : Searched wanted seen (value :: others)) :
    Searched wanted (seen.insert value.key) value.source.operands := by
  intro read deeper met
  have on := Value.mem_tour_of_deeper deeper
  rcases (NumberSet.contains_insert _ _ _).1 met with same | old
  · obtain rfl := sameKey value read (built value value.mem_tour_self) (built read on) same
    exact absurd deeper value.not_mem_tour_operands
  · exact searched read (mem_tour_cons.2 (.inl on)) old

theorem MetOn.whole (met : MetOn value.source.operands (seen.insert value.key) later) : MetOn [value] seen later := by
  intro key member
  have single : ∀ {read}, read ∈ value.tour → read ∈ tourOfAll [value] := fun on => mem_tour_cons.2 (.inl on)
  rcases met key member with old | ⟨read, deeper, same⟩
  · rcases (NumberSet.contains_insert _ _ _).1 old with same | older
    · exact .inr ⟨value, single value.mem_tour_self, same⟩
    · exact .inl older
  · exact .inr ⟨read, single (Value.mem_tour_of_deeper deeper), same⟩

theorem MetOn.cons {middle : NumberSet} (first : MetOn [value] seen middle) (second : MetOn others middle later) :
    MetOn (value :: others) seen later := by
  intro key member
  rcases second key member with before | ⟨read, on, same⟩
  · rcases first key before with older | ⟨read, on, same⟩
    · exact .inl older
    · have own : read ∈ value.tour := by simpa [tourOfAll] using on
      exact .inr ⟨read, mem_tour_cons.2 (.inl own), same⟩
  · exact .inr ⟨read, mem_tour_cons.2 (.inr on), same⟩

/-- After a value below which nothing was found, all that was met is searched. -/
theorem Searched.next (sameKey : ∀ first second, Built first → Built second → first.key = second.key → first = second)
    (built : ∀ read ∈ tourOfAll (value :: others), Built read) (searched : Searched wanted seen (value :: others))
    (met : MetOn [value] seen later) (nothing : ∀ read ∈ value.tour, wanted read.source = false) :
    Searched wanted later others := by
  intro read member again
  rcases met _ again with old | ⟨earlier, on, same⟩
  · exact searched read (mem_tour_cons.2 (.inr member)) old
  · have own : earlier ∈ value.tour := by simpa [tourOfAll] using on
    obtain rfl := sameKey earlier read (built earlier (mem_tour_cons.2 (.inl own)))
      (built read (mem_tour_cons.2 (.inr member))) same
    exact fun deep reached => nothing deep (Value.mem_tour_trans own reached)

end

/-- What is reported of an input that the outputs do not provide with its type. -/
def inputFailure (outputs : List (String × ShaderType)) (input : String × ShaderType) : LinkFailure :=
  ⟨input.1, some input.2, outputs.lookup input.1, if outputs.lookup input.1 = none then .notProduced else .typeMismatch⟩

private theorem inputFailure_of_none {outputs : List (String × ShaderType)} {name : String} (type : ShaderType)
    (found : outputs.lookup name = none) :
    inputFailure outputs (name, type) = ⟨name, some type, none, .notProduced⟩ := by
  rw [inputFailure, found, if_pos rfl]

private theorem inputFailure_of_some {outputs : List (String × ShaderType)} {name : String} {actual : ShaderType}
    (type : ShaderType) (found : outputs.lookup name = some actual) :
    inputFailure outputs (name, type) = ⟨name, some type, some actual, .typeMismatch⟩ := by
  rw [inputFailure, found, if_neg (Option.some_ne_none actual)]

theorem checkInputs_eq_error_iff {outputs inputs : List (String × ShaderType)} {error : Error} :
    checkInputs outputs inputs = .error error ↔ ∃ input,
      inputs.find? (fun input => outputs.lookup input.1 ≠ some input.2) = some input ∧
      error = .link (inputFailure outputs input) := by
  induction inputs with
  | nil => simp [checkInputs]
  | cons input rest ih =>
    obtain ⟨name, expected⟩ := input
    rw [checkInputs]
    cases found : outputs.lookup name with
    | none =>
      rw [List.find?_cons_of_pos (by simp [found])]
      simp only [← inputFailure_of_none expected found, Except.error.injEq, Option.some.injEq, exists_eq_left']
      exact eq_comm
    | some actual =>
      by_cases same : actual = expected
      · rw [List.find?_cons_of_neg (by simp [found, same]), ← ih]
        simp [same]
      · rw [List.find?_cons_of_pos (by simp [found, same])]
        simp only [same, if_false, ← inputFailure_of_some expected found, Except.error.injEq, Option.some.injEq,
          exists_eq_left']
        exact eq_comm

theorem checkBindings_eq_error_iff {bound attributes : List Attribute} {error : Error} :
    checkBindings bound attributes = .error error ↔ ∃ before binding after,
      attributes = before ++ binding :: after ∧ before.Nodup ∧ (∀ earlier ∈ before, earlier ∉ bound) ∧
      (binding ∈ before ∨ binding ∈ bound) ∧ error = binding.refusal .boundTwice := by
  induction attributes generalizing bound with
  | nil => simp [checkBindings]
  | cons first rest ih =>
    rw [checkBindings]
    by_cases again : first ∈ bound
    · rw [if_pos (List.contains_iff_mem.2 again)]
      constructor
      · rintro ⟨⟩
        exact ⟨[], first, rest, rfl, List.nodup_nil, by simp, .inr again, rfl⟩
      · rintro ⟨before, binding, after, split, _, fresh, _, rfl⟩
        cases before with
        | nil =>
          obtain ⟨rfl, rfl⟩ := List.cons.inj split
          rfl
        | cons earlier others =>
          obtain ⟨rfl, _⟩ := List.cons.inj split
          exact absurd again (fresh first List.mem_cons_self)
    · rw [if_neg (fun listed => again (List.contains_iff_mem.1 listed)), ih]
      constructor
      · rintro ⟨before, binding, after, rfl, distinct, fresh, twice, rfl⟩
        refine ⟨first :: before, binding, after, rfl, ?_, ?_, ?_, rfl⟩
        · exact List.nodup_cons.2 ⟨fun member => fresh first member List.mem_cons_self, distinct⟩
        · exact List.forall_mem_cons.2 ⟨again, fun earlier member listed => fresh earlier member (List.mem_cons_of_mem _ listed)⟩
        · simp only [List.mem_cons] at twice ⊢
          tauto
      · rintro ⟨before, binding, after, split, distinct, fresh, twice, rfl⟩
        cases before with
        | nil =>
          obtain ⟨rfl, rfl⟩ := List.cons.inj split
          simp [again] at twice
        | cons earlier others =>
          obtain ⟨rfl, rfl⟩ := List.cons.inj split
          refine ⟨others, binding, after, rfl, (List.nodup_cons.1 distinct).2, ?_, ?_, rfl⟩
          · intro other member listed
            rcases List.mem_cons.1 listed with rfl | old
            · exact (List.nodup_cons.1 distinct).1 member
            · exact fresh other (List.mem_cons_of_mem _ member) old
          · simp only [List.mem_cons] at twice ⊢
            tauto

/-- A source reads an attribute that is not bound. -/
def Source.readsUnbound (bound : List Attribute) (source : Source) : Bool :=
  source.vertexAttribute?.any (fun binding => !bound.contains binding)

private theorem Source.vertexAttribute?_eq_some_iff {source : Source} {binding : Attribute} :
    source.vertexAttribute? = some binding ↔ source = .leaf binding.leaf := by
  constructor
  · intro reads
    unfold Source.vertexAttribute? at reads
    split at reads
    · obtain rfl := Option.some.inj reads
      rfl
    · cases reads
  · rintro rfl
    rfl

private theorem Attribute.leaf_inj {binding other : Attribute} : binding.leaf = other.leaf ↔ binding = other := by
  obtain ⟨slot, stream⟩ := binding
  obtain ⟨otherSlot, otherStream⟩ := other
  simp [Attribute.leaf]

theorem checkReads_eq_error_iff {bound : List Attribute} {sources : List Source} {error : Error} :
    checkReads bound sources = .error error ↔ ∃ binding : Attribute,
      sources.find? (Source.readsUnbound bound) = some (.leaf binding.leaf) ∧ error = binding.refusal .notBound := by
  induction sources with
  | nil => simp [checkReads]
  | cons source rest ih =>
    rw [checkReads]
    cases reads : source.vertexAttribute? with
    | none =>
      rw [List.find?_cons_of_neg (by simp [Source.readsUnbound, reads]), ← ih]
    | some binding =>
      by_cases listed : binding ∈ bound
      · rw [List.find?_cons_of_neg (by simp [Source.readsUnbound, reads, listed]), ← ih]
        simp [listed]
      · rw [List.find?_cons_of_pos (by simp [Source.readsUnbound, reads, listed])]
        obtain rfl := Source.vertexAttribute?_eq_some_iff.1 reads
        simp [listed, Attribute.leaf_inj, eq_comm]

/-- What an attribute is refused with: a failure that names it, if its stream has few enough digits to be written. -/
inductive Attribute.Refused (binding : Attribute) (reason : LinkReason) : Error → Prop where
  | reported (short : binding.stream.natAbs < 10 ^ Text.digitLimit) :
      Refused binding reason (.link ⟨binding.label, some binding.type, none, reason⟩)
  | unwritten (long : 10 ^ Text.digitLimit ≤ binding.stream.natAbs) : Refused binding reason (.unshown .longNumeral)

theorem Attribute.eq_refusal_iff {binding : Attribute} {reason : LinkReason} {error : Error} :
    error = binding.refusal reason ↔ binding.Refused reason error := by
  by_cases writable : Text.isWritable binding.stream = true
  · rw [Attribute.refusal, if_pos writable]
    have short := Glsl.isWritable_iff.1 writable
    constructor
    · rintro rfl
      exact .reported short
    · rintro (_ | long)
      · rfl
      · exact absurd short (Nat.not_lt.2 long)
  · rw [Attribute.refusal, if_neg writable]
    have long := Nat.not_lt.1 (fun short => writable (Glsl.isWritable_iff.2 short))
    constructor
    · rintro rfl
      exact .unwritten long
    · rintro (short | _)
      · exact absurd short (Nat.not_lt.2 long)
      · rfl

section

variable {vertex : VertexShader} {fragment : FragmentShader} {attributes : List Attribute} {error : Error}

theorem checkLink_of_inputs (checked : checkInputs vertex.outputTypes fragment.inputTypes = .error error) :
    checkLink vertex fragment attributes = .error error := by
  rw [checkLink, checked]
  rfl

theorem checkLink_of_bindings (inputs : checkInputs vertex.outputTypes fragment.inputTypes = .ok ())
    (checked : checkBindings [] attributes = .error error) : checkLink vertex fragment attributes = .error error := by
  rw [checkLink, inputs, checked]
  rfl

theorem checkLink_of_ok (inputs : checkInputs vertex.outputTypes fragment.inputTypes = .ok ())
    (bindings : checkBindings [] attributes = .ok ()) :
    checkLink vertex fragment attributes = checkReads attributes (Document.vertex vertex).reachable := by
  rw [checkLink, inputs, bindings]
  rfl

end

end Shading

namespace Shading.Script

/-- The color, as both sides of the interpolation read it. -/
def blended.color : Value := .mk 0 .vec4 (.leaf (.vertexAttribute .color 0))

/-- The coordinate, which only the factor depends on. -/
def blended.coordinate : Value := .mk 1 .vec2 (.leaf (.vertexAttribute .texCoord0 0))

/-- The vertex stage that the script leaves. -/
def blended.vertex : VertexShader where
  resources := .empty
  position := some (.mk 4 .vec4 (.lerp 3 color color (.mk 2 .float (.component coordinate "x"))))
  pointSize := none
  outputs := .empty

end Shading.Script
