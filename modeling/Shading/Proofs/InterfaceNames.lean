import Mathlib
import Shading.Proofs.Scoping

/-!
# Names of the interface

The names that outputs and inputs can have are a regular language: a letter, followed by letters, digits and underscores
that never stand side by side. The check takes four tests, two of which look at characters of any script; they overlap so
that nothing else is needed of a test for identifiers than what it says about ASCII texts. A name that is accepted can
stand behind the interface mark, which ends with an underscore itself (`interface_names_safe`).
-/

namespace Shading

open Glsl

def IsLetter (c : Char) : Prop :=
  (65 ≤ c.toNat ∧ c.toNat ≤ 90) ∨ (97 ≤ c.toNat ∧ c.toNat ≤ 122)

def IsDigit (c : Char) : Prop :=
  48 ≤ c.toNat ∧ c.toNat ≤ 57

/-- A letter followed by letters, digits and underscores, no two of which stand side by side. -/
structure SafeName (name : String) : Prop where
  first : ∃ letter ∈ name.toList.head?, IsLetter letter
  all : ∀ c ∈ name.toList, IsLetter c ∨ IsDigit c ∨ c = '_'
  single : name.toList.IsChain (fun c next => ¬ (c = '_' ∧ next = '_'))

private theorem isAlpha_iff {c : Char} : c.isAlpha = true ↔ IsLetter c := by
  simp only [Char.isAlpha, Char.isUpper, Char.isLower, Bool.or_eq_true, Bool.and_eq_true, decide_eq_true_eq, ge_iff_le,
    UInt32.le_iff_toNat_le]
  exact Iff.rfl

private theorem isDigit_iff {c : Char} : c.isDigit = true ↔ IsDigit c := by
  simp only [Char.isDigit, Bool.and_eq_true, decide_eq_true_eq, ge_iff_le, UInt32.le_iff_toNat_le]
  exact Iff.rfl

private theorem isAlphanum_or_iff {c : Char} : (c.isAlphanum || c == '_')
    = true ↔ IsLetter c ∨ IsDigit c ∨ c = '_' := by
  rw [Char.isAlphanum, Bool.or_eq_true, Bool.or_eq_true, isAlpha_iff, isDigit_iff, beq_iff_eq, or_assoc]

private theorem occursIn_iff {piece chars : List Char} : occursIn piece chars = true ↔ piece <:+: chars := by
  induction chars with
  | nil => simp [occursIn]
  | cons c rest ih => rw [occursIn, Bool.or_eq_true, List.isPrefixOf_iff_prefix, ih, List.infix_cons_iff]

private theorem isChain_iff_not_infix {mark : Char} {chars : List Char} :
    chars.IsChain (fun c next => ¬ (c = mark ∧ next = mark)) ↔ ¬ [mark, mark] <:+: chars := by
  induction chars with
  | nil => simp
  | cons c rest ih =>
    cases rest with
    | nil => simp [List.infix_cons_iff]
    | cons next others =>
      have here : [mark, mark] <+: c :: next :: others ↔ c = mark ∧ next = mark := by
        simp [List.cons_prefix_cons, eq_comm]
      rw [List.isChain_cons_cons, ih, @List.infix_cons_iff _ _ c, not_or, here]

private theorem isInterfaceName_iff_tests {name : String} : isInterfaceName name = true ↔
    isIdentifier name.toList = true ∧ name.toList.head? ≠ some '_' ∧ ¬ ['_', '_'] <:+: name.toList := by
  simp [isInterfaceName, ← occursIn_iff, and_assoc]

private theorem isInterfaceName_iff {name : String} : isInterfaceName name = true ↔ SafeName name := by
  rw [isInterfaceName_iff_tests]
  constructor
  · rintro ⟨identifier, start, single⟩
    have all : ∀ c ∈ name.toList, IsLetter c ∨ IsDigit c ∨ c = '_' :=
      fun c member => isAlphanum_or_iff.1 (by simpa using mem_identifier identifier member)
    refine ⟨?_, all, isChain_iff_not_infix.2 single⟩
    cases chars : name.toList with
    | nil => simp [chars, isIdentifier] at identifier
    | cons c rest =>
      rw [chars, isIdentifier, Bool.and_eq_true, Bool.or_eq_true, beq_iff_eq] at identifier
      rw [chars] at start
      exact ⟨c, rfl, isAlpha_iff.1 (identifier.1.resolve_right (by simpa using start))⟩
  · rintro ⟨⟨letter, head, isLetter⟩, all, single⟩
    refine ⟨?_, ?_, isChain_iff_not_infix.1 single⟩
    · cases chars : name.toList with
      | nil => simp [chars] at head
      | cons c rest =>
        rw [chars] at head all
        obtain rfl : c = letter := by simpa using head
        rw [isIdentifier, isAlpha_iff.2 isLetter, Bool.true_or, Bool.true_and, List.all_eq_true]
        exact fun d member => isAlphanum_or_iff.2 (all d (List.mem_cons_of_mem _ member))
    · rintro same
      rw [same] at head
      cases head
      exact absurd isLetter (by simp [IsLetter])

def isAscii (name : String) : Bool :=
  name.toList.all (fun c => decide (c.toNat < 128))

/-- The check of a name with any test for identifiers, which may know letters of any script. -/
def passesTests (identifier : String → Bool) (name : String) : Bool :=
  identifier name && isAscii name && !Text.startsWith name "_" && !occursIn ['_', '_'] name.toList

private theorem SafeName.ascii {name : String} (safe : SafeName name) : isAscii name = true := by
  rw [isAscii, List.all_eq_true]
  intro c member
  rw [decide_eq_true_eq]
  rcases safe.all c member with letter | digit | rfl
  · rw [IsLetter] at letter
    omega
  · rw [IsDigit] at digit
    omega
  · decide

private theorem passesTests_iff {identifier : String → Bool}
    (agrees : ∀ text, isAscii text = true → identifier text = isIdentifier text.toList) {name : String} :
    passesTests identifier name = true ↔ SafeName name := by
  have start : Text.startsWith name "_" = true ↔ name.toList.head? = some '_' := by
    rw [Text.startsWith, List.isPrefixOf_iff_prefix]
    cases name.toList <;> simp [List.cons_prefix_cons, eq_comm]
  have tests : passesTests identifier name = true ↔ isAscii name = true ∧ identifier name = true ∧
      name.toList.head? ≠ some '_' ∧ ¬ ['_', '_'] <:+: name.toList := by
    rw [ne_eq, ← start, ← occursIn_iff]
    simp only [passesTests, Bool.and_eq_true, Bool.not_eq_true', Bool.not_eq_true]
    tauto
  rw [tests, ← isInterfaceName_iff]
  constructor
  · rintro ⟨ascii, identified, others⟩
    rw [agrees name ascii] at identified
    exact isInterfaceName_iff_tests.2 ⟨identified, others⟩
  · intro accepted
    have ascii := (isInterfaceName_iff.1 accepted).ascii
    rw [agrees name ascii]
    exact ⟨ascii, isInterfaceName_iff_tests.1 accepted⟩

private theorem acceptName_eq_ok_iff {side : Side} {name : String} : acceptName side name = .ok () ↔ SafeName name := by
  rw [← isInterfaceName_iff, acceptName]
  split <;> simp [*]

private theorem acceptName_of_unsafe {side : Side} {name : String} (refused : ¬ SafeName name) :
    acceptName side name = .error (.violation (.invalidName side name)) := by
  rw [acceptName, if_neg (mt isInterfaceName_iff.1 refused)]

private theorem VertexShader.setOutput_eq_invalidName_iff {vertex : VertexShader} {name : String} {value : Value} :
    vertex.setOutput name value = .error (.violation (.invalidName .output name)) ↔ ¬ SafeName name := by
  constructor
  · intro refused safe
    rw [VertexShader.setOutput, acceptName_eq_ok_iff.2 safe] at refused
    simp only [bind, Except.bind] at refused
    split at refused
    · cases refused
    · split at refused <;> cases refused
  · intro refused
    rw [VertexShader.setOutput, acceptName_of_unsafe refused]
    rfl

/-- A construction that never stops because of an error. -/
def Build.Avoids {α : Type} (error : Error) (build : Build α) : Prop :=
  ∀ next, build.run next ≠ .error error

namespace Build

variable {α β : Type} {error : Error}

theorem Avoids.bind {build : Build α} {rest : α → Build β} (first : Avoids error build)
    (others : ∀ value, Avoids error (rest value)) : Avoids error (build >>= rest) := by
  intro next stopped
  rw [StateT.run_bind] at stopped
  cases ran : build.run next with
  | error cause =>
    rw [ran] at stopped
    obtain rfl : cause = error := Except.error.inj stopped
    exact first next ran
  | ok result =>
    rw [ran] at stopped
    exact others result.1 result.2 stopped

private theorem avoids_pure (value : α) : Avoids error (pure value : Build α) :=
  fun _ stopped => by cases stopped

private theorem avoids_throw {other : Error} (differs : other ≠ error) : Avoids error (throw other : Build α) :=
  fun _ stopped => differs (Except.error.inj stopped)

private theorem avoids_lift {result : Except Error α} (avoids : result ≠ .error error) : Avoids error
    (liftM result : Build α) := by
  intro next stopped
  cases result with
  | error cause => exact avoids (congrArg Except.error (Except.error.inj stopped))
  | ok value => cases stopped

end Build

section

variable {side : Side} {name : String}

private theorem Kind.declaredType_ne_violation (kind : Kind) (component : ScalarType) (cause : Violation) :
    kind.declaredType component ≠ .error (.violation cause) := by
  unfold Kind.declaredType
  split <;> simp

private theorem Kind.avoids_wrap (kind : Kind) (source : Source) (requested : Option ShaderType) :
    Build.Avoids (.violation (.invalidName side name)) (kind.wrap source requested) := by
  unfold Kind.wrap
  split
  · exact .bind (fun _ stopped => by cases stopped) (fun _ => Build.avoids_pure _)
  · rename_i cause refused
    refine Build.avoids_throw ?_
    unfold Kind.resolveType at refused
    split at refused
    · split at refused <;> cases refused
      simp
    · split at refused <;> cases refused
      simp

private theorem FragmentShader.avoids_input (fragment : FragmentShader) (kind : Kind) (component : ScalarType)
    (safe : SafeName name) :
    Build.Avoids (.violation (.invalidName side name)) (fragment.input name kind component) := by
  unfold FragmentShader.input
  refine .bind (Build.avoids_lift (by simp [acceptName_eq_ok_iff.2 safe])) (fun _ => ?_)
  refine .bind (Build.avoids_lift (kind.declaredType_ne_violation component _)) (fun type => ?_)
  split
  · split
    · exact Build.avoids_pure _
    · exact Build.avoids_throw (by simp)
  · exact .bind (kind.avoids_wrap _ _) (fun _ => Build.avoids_pure _)

end

private theorem FragmentShader.input_eq_invalidName_iff {fragment : FragmentShader} {name : String} {kind : Kind}
    {component : ScalarType} {next : Nat} :
    (fragment.input name kind component).run next = .error (.violation (.invalidName .input name)) ↔
      ¬ SafeName name := by
  constructor
  · exact fun refused safe => fragment.avoids_input kind component safe next refused
  · intro refused
    rw [FragmentShader.input, acceptName_of_unsafe refused]
    rfl

/-- The variable of a safe name is a safe name itself: the mark ends with an underscore, but no safe name begins with
one. -/
theorem SafeName.interfaceName {name : String} (safe : SafeName name) : SafeName (interfaceName name) := by
  obtain ⟨letter, head, isLetter⟩ := safe.first
  have chars : (Glsl.interfaceName name).toList = ['i', 'o', '_'] ++ name.toList := by simp [Glsl.interfaceName]
  refine ⟨⟨'i', by simp [chars], by simp [IsLetter]⟩, ?_, ?_⟩
  · intro c member
    rw [chars, List.mem_append] at member
    rcases member with mark | inside
    · simp only [List.mem_cons, List.not_mem_nil, or_false] at mark
      rcases mark with rfl | rfl | rfl <;> simp [IsLetter]
    · exact safe.all c inside
  · rw [chars, List.isChain_append]
    refine ⟨by simp, safe.single, ?_⟩
    rintro c last next first ⟨rfl, rfl⟩
    obtain rfl : letter = '_' := Option.some.inj (head.symm.trans first)
    exact absurd isLetter (by simp [IsLetter])

private theorem not_builtin_interfaceName (name : String) : ¬ ['g', 'l', '_'] <+: (interfaceName name).toList := by
  simp [interfaceName, List.cons_prefix_cons]

/-- Let a test for identifiers agree with the grammar on ASCII texts; what it says about other texts does not matter. The
check of a name accepts exactly the safe names, and a name that is not safe is the one reason for which an output or an
input is refused for its name. The variable of a safe name is an ASCII identifier, has no two underscores side by side and
does not begin like the built-in ones, and different names have different variables. -/
theorem interface_names_safe (identifier : String → Bool)
    (agrees : ∀ text, isAscii text = true → identifier text = isIdentifier text.toList) :
    (∀ name, (passesTests identifier name = true ↔ SafeName name) ∧ (isInterfaceName name = true ↔ SafeName name) ∧
      (∀ side, acceptName side name = .ok () ↔ SafeName name) ∧
      (∀ (vertex : VertexShader) value,
        vertex.setOutput name value = .error (.violation (.invalidName .output name)) ↔ ¬ SafeName name) ∧
      ∀ (fragment : FragmentShader) kind component next,
        (fragment.input name kind component).run next = .error (.violation (.invalidName .input name)) ↔
          ¬ SafeName name) ∧
    (∀ name, SafeName name → ∃ text, leafName (.output (.named name)) = .ok text ∧ leafName (.input name) = .ok text ∧
      text = "io_" ++ name ∧ isAscii text = true ∧ isIdentifier text.toList = true ∧ ¬ ['_', '_'] <:+: text.toList ∧
      ¬ ['g', 'l', '_'] <+: text.toList) ∧
    ∀ name other, name ≠ other →
      leafName (.output (.named name)) ≠ leafName (.output (.named other)) ∧
        leafName (.input name) ≠ leafName (.input other) := by
  refine ⟨fun name => ⟨passesTests_iff agrees, isInterfaceName_iff, fun _ => acceptName_eq_ok_iff,
    fun _ _ => VertexShader.setOutput_eq_invalidName_iff, fun _ _ _ _ => FragmentShader.input_eq_invalidName_iff⟩, ?_, ?_⟩
  · intro name safe
    have marked := safe.interfaceName
    exact ⟨interfaceName name, rfl, rfl, rfl, marked.ascii, isIdentifier_interfaceName (isInterfaceName_iff.2 safe),
      isChain_iff_not_infix.1 marked.single, not_builtin_interfaceName name⟩
  · intro name other differs
    have apart : interfaceName name ≠ interfaceName other := fun same => differs (interfaceName_inj same)
    exact ⟨fun same => apart (Except.ok.inj same), fun same => apart (Except.ok.inj same)⟩

/-- A test for identifiers that knows a word with an accent. -/
def knowsAccents (text : String) : Bool :=
  isIdentifier text.toList || text == "café"

/-- The word with the accent is an identifier and is refused, like names with a leading or a doubled underscore. -/
theorem names_accented :
    knowsAccents "café" = true ∧ SafeName "uv_0" ∧ ∀ name ∈ ["café", "two__parts", "_hidden"], ¬ SafeName name := by
  have agrees : ∀ text, isAscii text = true → knowsAccents text = isIdentifier text.toList := by
    intro text ascii
    have other : text ≠ "café" := by
      rintro rfl
      exact absurd ascii (by decide)
    rw [knowsAccents, beq_false_of_ne other, Bool.or_false]
  have names := (interface_names_safe knowsAccents agrees).1
  have refused : ∀ name ∈ ["café", "two__parts", "_hidden"], passesTests knowsAccents name = false := by decide +kernel
  refine ⟨by decide, (names "uv_0").1.1 (by decide +kernel), fun name member safe => ?_⟩
  exact absurd ((names name).1.2 safe) (by simp [refused name member])

end Shading
