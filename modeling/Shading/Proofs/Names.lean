import Shading.Proofs.Building
import Shading.Glsl.Expression

/-!
# Names in lines

A line of a source is divided by blanks, commas, brackets and semicolons. None of them stands in a name or a literal, so
a line can be taken apart into the names that it was put together from.
-/

namespace Shading.Glsl

/-- The characters that divide the parts of a line, and lines from each other. -/
def dividers : List Char := [' ', '\n', ',', '(', ')', ';']

/-- No divider stands in a name. -/
def Whole (name : String) : Prop :=
  ∀ divider ∈ dividers, divider ∉ name.toList

-- The instances of this module are given by hand: a search may come up with a test of all characters there are.
instance (name : String) : Decidable (Whole name) :=
  List.decidableBAll (fun divider => divider ∉ name.toList) dividers

theorem Whole.append {first second : String} (left : Whole first) (right : Whole second) : Whole (first ++ second) := by
  intro divider member inside
  rw [String.toList_append, List.mem_append] at inside
  exact inside.elim (left divider member) (right divider member)

/-- A character of numbers: a digit, a point, a sign or the mark of an exponent. -/
def isNumeric (c : Char) : Bool :=
  c.isDigit || ['.', 'e', '+', '-'].contains c

/-- A text consists of the characters of numbers. -/
def Numeric (text : String) : Prop :=
  ∀ c ∈ text.toList, isNumeric c = true

theorem Numeric.whole {text : String} (numeric : Numeric text) : Whole text := by
  intro divider member inside
  have isOne := numeric divider inside
  simp only [dividers, List.mem_cons, List.not_mem_nil, or_false] at member
  rcases member with rfl | rfl | rfl | rfl | rfl | rfl <;> simp [isNumeric] at isOne

theorem Numeric.append {first second : String} (left : Numeric first) (right : Numeric second) :
    Numeric (first ++ second) := by
  intro c member
  rw [String.toList_append, List.mem_append] at member
  exact member.elim (left c) (right c)

private theorem isNumeric_of_mem_toDigits {n : Nat} {c : Char} (member : c ∈ Nat.toDigits 10 n) :
    isNumeric c = true := by
  simp [isNumeric, Nat.isDigit_of_mem_toDigits (by decide) (by decide) member]

theorem numeric_natRepr (n : Nat) : Numeric (Nat.repr n) := by
  intro c member
  rw [Nat.toList_repr] at member
  exact isNumeric_of_mem_toDigits member

theorem numeric_intRepr (n : Int) : Numeric (Int.repr n) := by
  cases n with
  | ofNat n => exact numeric_natRepr n
  | negSucc n =>
    have sign : Numeric "-" := by simp [Numeric, isNumeric]
    exact sign.append (numeric_natRepr (n + 1))

private theorem isNumeric_positional {digits : List Char} {point : Int} (numeric : ∀ c ∈ digits, isNumeric c = true) :
    ∀ c ∈ Decimal.positional digits point, isNumeric c = true := by
  have zero : ∀ count, ∀ c ∈ List.replicate count '0', isNumeric c = true := by
    intro count c member
    rw [List.eq_of_mem_replicate member]
    rfl
  intro c member
  unfold Decimal.positional at member
  split at member
  · simp only [List.mem_cons, List.mem_append] at member
    rcases member with rfl | rfl | zeros | later
    · rfl
    · rfl
    · exact zero _ c zeros
    · exact numeric c later
  · split at member
    · simp only [List.mem_append, List.mem_cons, List.not_mem_nil, or_false] at member
      rcases member with (first | zeros) | rfl | rfl
      · exact numeric c first
      · exact zero _ c zeros
      · rfl
      · rfl
    · simp only [List.mem_append, List.mem_cons] at member
      rcases member with first | rfl | later
      · exact numeric c (List.mem_of_mem_take first)
      · rfl
      · exact numeric c (List.mem_of_mem_drop later)

private theorem isNumeric_scientific {digits : List Char} {exponent : Int}
    (numeric : ∀ c ∈ digits, isNumeric c = true) :
    ∀ c ∈ Decimal.scientific digits exponent, isNumeric c = true := by
  intro c member
  unfold Decimal.scientific at member
  simp only [List.mem_append, List.mem_cons] at member
  rcases member with mantissa | rfl | sign | size
  · split at mantissa
    · simp only [List.mem_cons] at mantissa
      rcases mantissa with rfl | rfl | rfl | rest
      · exact numeric _ (by simp)
      · rfl
      · exact numeric _ (by simp)
      · exact numeric _ (by simp [rest])
    · exact numeric c mantissa
  · rfl
  · split at sign <;> (subst sign; rfl)
  · split at size
    · rcases List.mem_cons.1 size with rfl | digit
      · rfl
      · exact isNumeric_of_mem_toDigits digit
    · exact isNumeric_of_mem_toDigits size

theorem isDigit_trimmed {decimal : Decimal} {c : Char} (member : c ∈ decimal.trimmed) : c.isDigit = true := by
  unfold Decimal.trimmed at member
  have kept := (List.dropWhile_sublist _).subset (List.mem_reverse.1 member)
  exact Nat.isDigit_of_mem_toDigits (by decide) (by decide) (List.mem_reverse.1 kept)

private theorem isNumeric_trimmed {decimal : Decimal} {c : Char} (member : c ∈ decimal.trimmed) :
    isNumeric c = true := by
  simp [isNumeric, isDigit_trimmed member]

theorem isNaN_eq_false {value : Double} (finite : value.isFinite = true) : value.isNaN = false := by
  simp only [Double.isFinite, Double.isNaN, ne_eq, decide_eq_true_eq, decide_eq_false_iff_not] at finite ⊢
  exact fun both => finite both.1

/-- The text of a finite double is a number. -/
theorem numeric_double {value : Double} (finite : value.isFinite = true) : Numeric value.text := by
  have sign : Numeric (if value.isNegative then "-" else "") := by
    split <;> simp [Numeric, isNumeric]
  have zero : Numeric "0.0" := by simp [Numeric, isNumeric]
  unfold Double.text
  simp only [isNaN_eq_false finite, finite, Bool.false_eq_true, if_false, Bool.not_true]
  split
  · exact sign.append zero
  · refine sign.append (fun c member => ?_)
    rw [String.toList_ofList] at member
    simp only [Decimal.layout] at member
    split at member
    · exact isNumeric_positional (fun c => isNumeric_trimmed) c member
    · exact isNumeric_scientific (fun c => isNumeric_trimmed) c member

private theorem natRepr_inj {first second : Nat} (same : Nat.repr first = Nat.repr second) : first = second := by
  have digits := congrArg String.toList same
  rw [Nat.toList_repr, Nat.toList_repr] at digits
  rw [← @Nat.ofDigitChars_ten_toDigits first, digits, Nat.ofDigitChars_ten_toDigits]

theorem intRepr_inj {first second : Int} (same : Int.repr first = Int.repr second) : first = second := by
  have unsigned : ∀ positive negative : Nat, Nat.repr positive ≠ "-" ++ Nat.repr negative := by
    intro positive negative same
    have sign : '-' ∈ (Nat.repr positive).toList := by simp [same]
    rw [Nat.toList_repr] at sign
    exact absurd (Nat.isDigit_of_mem_toDigits (by decide) (by decide) sign) (by decide)
  cases first with
  | ofNat first =>
    cases second with
    | ofNat second => rw [natRepr_inj same]
    | negSucc second => exact absurd same (unsigned first (second + 1))
  | negSucc first =>
    cases second with
    | ofNat second => exact absurd same.symm (unsigned second (first + 1))
    | negSucc second => rw [Nat.succ.inj (natRepr_inj ((String.append_right_inj _).1 same))]

/-- A text of numbers has a digit. -/
def HasDigit (text : String) : Prop :=
  ∃ c ∈ text.toList, c.isDigit = true

private theorem hasDigit_natRepr (n : Nat) : HasDigit (Nat.repr n) := by
  obtain ⟨c, member⟩ := List.exists_mem_of_ne_nil _ (@Nat.toDigits_ne_nil n 10)
  exact ⟨c, by rwa [Nat.toList_repr], Nat.isDigit_of_mem_toDigits (by decide) (by decide) member⟩

theorem hasDigit_intRepr (n : Int) : HasDigit (Int.repr n) := by
  cases n with
  | ofNat n => exact hasDigit_natRepr n
  | negSucc n =>
    obtain ⟨c, member, digit⟩ := hasDigit_natRepr (n + 1)
    exact ⟨c, by rw [Int.repr, String.toList_append]; exact List.mem_append_right _ member, digit⟩

/-- Integers have neither a point nor an exponent. -/
theorem plain_intRepr (n : Int) : '.' ∉ (Int.repr n).toList ∧ 'e' ∉ (Int.repr n).toList := by
  have digits : ∀ n : Nat, '.' ∉ (Nat.repr n).toList ∧ 'e' ∉ (Nat.repr n).toList := by
    intro n
    rw [Nat.toList_repr]
    constructor <;> intro member <;>
      exact absurd (Nat.isDigit_of_mem_toDigits (by decide) (by decide) member) (by decide)
  cases n with
  | ofNat n => exact digits n
  | negSucc n => simpa [Int.repr] using digits (n + 1)

private theorem floating_positional {digits : List Char} {point : Int} (numeric : ∀ c ∈ digits, c.isDigit = true) :
    '.' ∈ Decimal.positional digits point ∧ ∃ c ∈ Decimal.positional digits point, c.isDigit = true := by
  unfold Decimal.positional
  split
  · exact ⟨by simp, '0', by simp, by decide⟩
  · split
    · exact ⟨by simp, '0', by simp, by decide⟩
    · rename_i positive short
      refine ⟨by simp, ?_⟩
      cases digits with
      | nil => simp at short; omega
      | cons first rest =>
        refine ⟨first, List.mem_append_left _ ?_, numeric first List.mem_cons_self⟩
        obtain ⟨count, more⟩ := Nat.exists_eq_succ_of_ne_zero (by omega : point.toNat ≠ 0)
        rw [more]
        exact List.mem_cons_self

private theorem floating_scientific (digits : List Char) (exponent : Int) :
    'e' ∈ Decimal.scientific digits exponent ∧ ∃ c ∈ Decimal.scientific digits exponent, c.isDigit = true := by
  obtain ⟨c, member⟩ := List.exists_mem_of_ne_nil _ (@Nat.toDigits_ne_nil exponent.natAbs 10)
  have digit := Nat.isDigit_of_mem_toDigits (by decide) (by decide) member
  unfold Decimal.scientific
  refine ⟨by simp, c, List.mem_append_right _ (List.mem_cons_of_mem _ (List.mem_cons_of_mem _ ?_)), digit⟩
  split
  · exact List.mem_cons_of_mem _ member
  · exact member

/-- The text of a finite double has a point or an exponent, and a digit. -/
theorem floating_double {value : Double} (finite : value.isFinite = true) :
    ('.' ∈ value.text.toList ∨ 'e' ∈ value.text.toList) ∧ HasDigit value.text := by
  have behind : ∀ sign text : String, ('.' ∈ text.toList ∨ 'e' ∈ text.toList) ∧ HasDigit text →
      ('.' ∈ (sign ++ text).toList ∨ 'e' ∈ (sign ++ text).toList) ∧ HasDigit (sign ++ text) := by
    rintro sign text ⟨mark, c, member, digit⟩
    simp only [String.toList_append, List.mem_append]
    exact ⟨mark.imp .inr .inr, c, by rw [String.toList_append]; exact List.mem_append_right _ member, digit⟩
  unfold Double.text
  simp only [isNaN_eq_false finite, finite, Bool.false_eq_true, if_false, Bool.not_true]
  split
  · exact behind _ _ ⟨.inl (by decide), '0', by decide, by decide⟩
  · refine behind _ _ ?_
    rw [HasDigit, String.toList_ofList]
    simp only [Decimal.layout]
    split
    · obtain ⟨mark, digit⟩ := floating_positional (fun c => isDigit_trimmed)
      exact ⟨.inl mark, digit⟩
    · obtain ⟨mark, digit⟩ := floating_scientific _ _
      exact ⟨.inr mark, digit⟩

/-- A name does not end like a component that is selected from another name. -/
def Undotted (name : String) : Prop :=
  ∀ letter ∈ componentLetters, ¬ ['.', letter] <:+ name.toList

instance (name : String) : Decidable (Undotted name) :=
  List.decidableBAll (fun letter => ¬ ['.', letter] <:+ name.toList) componentLetters

private theorem undotted_of_free {name : String} (free : '.' ∉ name.toList) : Undotted name :=
  fun _ _ ending => free (ending.subset List.mem_cons_self)

/-- A name does not end in the letter of a component. -/
def EndsPlain (name : String) : Prop :=
  ∀ c ∈ name.toList.getLast?, c ∉ componentLetters

instance (name : String) : Decidable (EndsPlain name) :=
  Option.decidableForallMem name.toList.getLast?

theorem EndsPlain.append {first second : String} (left : EndsPlain first) (right : EndsPlain second) :
    EndsPlain (first ++ second) := by
  intro c last
  rw [String.toList_append, List.getLast?_append, Option.mem_def, Option.or_eq_some_iff] at last
  exact last.elim (right c) (fun earlier => left c earlier.2)

theorem EndsPlain.undotted {name : String} (plain : EndsPlain name) : Undotted name := by
  rintro letter component ⟨before, same⟩
  exact plain letter (by rw [← same]; simp) component

private theorem Numeric.endsPlain {text : String} (numeric : Numeric text) : EndsPlain text := by
  intro c last component
  have isOne := numeric c (List.mem_of_getLast? last)
  simp only [componentLetters, List.mem_cons, List.not_mem_nil, or_false] at component
  rcases component with rfl | rfl | rfl | rfl <;> simp [isNumeric] at isOne

/-- A name can be told from what stands around it and from components selected from it. -/
structure Atomic (name : String) : Prop where
  whole : Whole name
  undotted : Undotted name

theorem Numeric.atomic {text : String} (numeric : Numeric text) : Atomic text :=
  ⟨numeric.whole, numeric.endsPlain.undotted⟩

def typeOfWord? : String → Option ShaderType
  | "bool" => some .bool
  | "int" => some .int
  | "float" => some .float
  | "vec2" => some .vec2
  | "vec3" => some .vec3
  | "vec4" => some .vec4
  | "mat3" => some .mat3
  | "mat4" => some .mat4
  | "sampler2D" => some .sampler
  | _ => none

theorem typeOfWord?_spelling {type : ShaderType} {name : String} (spelled : spelling type = .ok name) :
    typeOfWord? name = some type := by
  cases type <;> cases spelled <;> rfl

/-- Types that are spelled alike are the same. -/
theorem spelling_inj {first second : ShaderType} {word : String} (left : spelling first = .ok word)
    (right : spelling second = .ok word) : first = second :=
  Option.some.inj ((typeOfWord?_spelling left).symm.trans (typeOfWord?_spelling right))

/-- The words of types are whole. -/
theorem whole_spelling {type : ShaderType} {name : String} (spelled : spelling type = .ok name) : Whole name := by
  cases type <;> cases spelled <;> decide

private theorem atomic_numbered {stem : String} (whole : Whole stem) (ends : EndsPlain stem) (index : Int) :
    Atomic (stem ++ Int.repr index) :=
  ⟨whole.append (numeric_intRepr index).whole, (ends.append (numeric_intRepr index).endsPlain).undotted⟩

private theorem atomic_inside {stem ending : String} (whole : Whole stem) (ends : EndsPlain stem) (index : Int)
    (closed : Whole ending) (last : EndsPlain ending) : Atomic (stem ++ Int.repr index ++ ending) :=
  ⟨(whole.append (numeric_intRepr index).whole).append closed,
    ((ends.append (numeric_intRepr index).endsPlain).append last).undotted⟩

theorem atomic_temporary (index : Int) : Atomic (temporary index) :=
  atomic_numbered (by decide) (by decide) index

theorem temporary_inj {first second : Nat} (same : temporary first = temporary second) : first = second :=
  natRepr_inj ((String.append_right_inj _).1 same)

theorem atomic_uniformName (index : Int) : Atomic (uniformName index) :=
  atomic_numbered (by decide) (by decide) index

theorem uniformName_inj {first second : Nat} (same : uniformName first = uniformName second) : first = second :=
  natRepr_inj ((String.append_right_inj _).1 same)

theorem atomic_attributeName (slot : Slot) (stream : Int) : Atomic (attributeName slot stream) := by
  cases slot with
  | position | normal | tangent | color => exact atomic_numbered (by decide) (by decide) stream
  | texCoord0 | texCoord1 => exact atomic_inside (by decide) (by decide) stream (by decide) (by decide)

private theorem atomic_materialName (index : Int) (field : MaterialField) : Atomic (materialName index field) := by
  cases field <;> exact atomic_inside (by decide) (by decide) index (by decide) (by decide)

private theorem atomic_matrixName (matrix : Matrix) : Atomic (matrixName matrix) := by
  cases matrix <;> exact ⟨by decide, by decide⟩

theorem mem_identifier {chars : List Char} (identifier : isIdentifier chars = true) {c : Char} (member : c ∈ chars) :
    c.isAlphanum = true ∨ c = '_' := by
  cases chars with
  | nil => cases member
  | cons first rest =>
    simp only [isIdentifier, Bool.and_eq_true, Bool.or_eq_true, beq_iff_eq, List.all_eq_true] at identifier
    rcases List.mem_cons.1 member with rfl | later
    · exact identifier.1.imp (fun letter => by simp [Char.isAlphanum, letter]) id
    · exact identifier.2 c later

/-- The characters of the names that the interface accepts. -/
theorem mem_interfaceName {name : String} (accepted : isInterfaceName name = true) {c : Char}
    (member : c ∈ name.toList) : c.isAlphanum = true ∨ c = '_' := by
  simp only [isInterfaceName, Bool.and_eq_true] at accepted
  exact mem_identifier accepted.1.1 member

theorem atomic_interfaceName {name : String} (accepted : isInterfaceName name = true) :
    Atomic (interfaceName name) := by
  refine ⟨Whole.append (by decide) (fun divider member inside => ?_), undotted_of_free (fun inside => ?_)⟩
  · have letter := mem_interfaceName accepted inside
    simp only [dividers, List.mem_cons, List.not_mem_nil, or_false] at member
    rcases member with rfl | rfl | rfl | rfl | rfl | rfl <;> simp at letter
  · rw [interfaceName, String.toList_append, List.mem_append] at inside
    rcases inside with mark | letter
    · simp at mark
    · simpa using mem_interfaceName accepted letter

theorem isWritable_iff {n : Int} : Text.isWritable n = true ↔ n.natAbs < 10 ^ Text.digitLimit := by
  rw [Text.isWritable, decide_eq_true_iff, Nat.length_toDigits_le_iff (by decide) (by decide)]

theorem numeral_of_writable {value : Int} (writable : Text.isWritable value = true) :
    numeral value = .ok (Int.repr value) :=
  if_pos writable

theorem numeral_of_unwritable {value : Int} (long : ¬ Text.isWritable value = true) :
    numeral value = .error (.unshown .longNumeral) :=
  if_neg long

theorem leafName_of_writable {slot : Slot} {stream : Int} (writable : Text.isWritable stream = true) :
    leafName (.vertexAttribute slot stream) = .ok (attributeName slot stream) :=
  if_pos writable

theorem leafName_of_unwritable {slot : Slot} {stream : Int} (long : ¬ Text.isWritable stream = true) :
    leafName (.vertexAttribute slot stream) = .error (.unshown .longNumeral) :=
  if_neg long

theorem numeral_eq_ok {value : Int} {text : String} :
    numeral value = .ok text ↔ Text.isWritable value = true ∧ text = Int.repr value := by
  by_cases writable : Text.isWritable value = true
  · rw [numeral_of_writable writable, Except.ok.injEq, eq_comm]
    exact ⟨fun same => ⟨writable, same⟩, And.right⟩
  · rw [numeral_of_unwritable writable]
    exact iff_of_false (by simp) (fun named => writable named.1)

theorem leafName_attribute_eq_ok {slot : Slot} {stream : Int} {name : String} :
    leafName (.vertexAttribute slot stream) = .ok name ↔
      Text.isWritable stream = true ∧ name = attributeName slot stream := by
  by_cases writable : Text.isWritable stream = true
  · rw [leafName_of_writable writable, Except.ok.injEq, eq_comm]
    exact ⟨fun same => ⟨writable, same⟩, And.right⟩
  · rw [leafName_of_unwritable writable]
    exact iff_of_false (by simp) (fun named => writable named.1)

/-- A constant is spelled as a truth value or a number. -/
theorem constantText_cases {constant : Constant} {name : String}
    (named : literalText (.constant constant) constant.type = .ok name) :
    name = "true" ∨ name = "false" ∨ Numeric name := by
  cases constant with
  | bool value =>
    cases named
    cases value
    · exact .inr (.inl rfl)
    · exact .inl rfl
  | int value =>
    obtain ⟨_, rfl⟩ := numeral_eq_ok.1 named
    exact .inr (.inr (numeric_intRepr value))
  | double value =>
    have spelled : literalText (.constant (.double value)) (Constant.double value).type =
        if value.isFinite then .ok value.text else .error (.violation (.noSpelling (.double value))) := rfl
    rw [spelled] at named
    split at named
    · rename_i finite
      cases named
      exact .inr (.inr (numeric_double finite))
    · exact nomatch named

/-- What stands for a well-typed leaf is atomic. -/
theorem atomic_leafName {leaf : Leaf} {type : ShaderType} {name : String} (typed : leaf.Typed type)
    (named : leafName leaf = .ok name) : Atomic name := by
  cases leaf with
  | vertexAttribute slot stream =>
    obtain ⟨_, rfl⟩ := leafName_attribute_eq_ok.1 named
    exact atomic_attributeName slot stream
  | output output =>
    cases named
    cases output with
    | named name => exact atomic_interfaceName typed
    | position | pointSize | color => exact ⟨by decide, by decide⟩
  | input name =>
    cases named
    exact atomic_interfaceName typed
  | instanceIndex =>
    cases named
    exact ⟨by decide, by decide⟩
  | matrix matrix =>
    cases named
    exact atomic_matrixName matrix
  | uniform index =>
    cases named
    exact atomic_uniformName index
  | literal plain declared =>
    cases plain with
    | text | nothing => exact typed.elim
    | constant constant =>
      obtain ⟨rfl, _⟩ := typed
      rcases constantText_cases named with rfl | rfl | numeric
      · exact ⟨by decide, by decide⟩
      · exact ⟨by decide, by decide⟩
      · exact numeric.atomic
  | material index field =>
    cases named
    exact atomic_materialName index field
  | unknown => exact typed.elim

/-- The first two characters of a name, by which families of names can be told apart. -/
def initials (name : String) : List Char :=
  name.toList.take 2

private theorem initials_append {stem : String} (long : 2 ≤ stem.toList.length) (rest : String) :
    initials (stem ++ rest) = initials stem := by
  rw [initials, initials, String.toList_append, List.take_append_of_le_length long]

private theorem initials_inside {stem : String} {known : List Char} (long : 2 ≤ stem.toList.length)
    (same : initials stem = known) (middle ending : String) : initials (stem ++ middle ++ ending) = known := by
  rw [String.append_assoc, initials_append long, same]

theorem initials_interfaceName (name : String) : initials (interfaceName name) = ['i', 'o'] :=
  initials_append (by decide) name

theorem interfaceName_inj {first second : String} (same : interfaceName first = interfaceName second) :
    first = second :=
  (String.append_right_inj _).1 same

/-- The letter that the name of an attribute is told by. -/
def slotLetter : Slot → Char
  | .position => 'P'
  | .texCoord0 | .texCoord1 => 'U'
  | .normal => 'N'
  | .tangent => 'T'
  | .color => 'C'

theorem initials_attributeName (slot : Slot) (stream : Int) :
    initials (attributeName slot stream) = ['i', slotLetter slot] := by
  cases slot with
  | position | normal | tangent | color => exact initials_append (by decide) _
  | texCoord0 | texCoord1 => exact initials_inside (by decide) (by decide) _ _

/-- Attributes that go by one name are the same. -/
theorem attributeName_inj {first second : Slot} {stream other : Int}
    (same : attributeName first stream = attributeName second other) : first = second ∧ stream = other := by
  have letters := congrArg initials same
  rw [initials_attributeName, initials_attributeName, List.cons.injEq, List.cons.injEq] at letters
  have ends : ∀ (stem : String) (left right : Int),
      stem ++ Int.repr left ++ "_0" ≠ stem ++ Int.repr right ++ "_1" := by
    intro stem left right alike
    have last := congrArg (fun name => name.toList.getLast?) alike
    simp at last
  have slots : first = second ∨ (first = .texCoord0 ∧ second = .texCoord1) ∨
      (first = .texCoord1 ∧ second = .texCoord0) := by
    cases first <;> cases second <;> simp [slotLetter] at letters ⊢
  rcases slots with rfl | ⟨rfl, rfl⟩ | ⟨rfl, rfl⟩
  · refine ⟨rfl, intRepr_inj ?_⟩
    cases first with
    | position | normal | tangent | color => exact (String.append_right_inj _).1 same
    | texCoord0 | texCoord1 => exact (String.append_right_inj _).1 ((String.append_left_inj _).1 same)
  · exact absurd same (ends _ _ _)
  · exact absurd same.symm (ends _ _ _)

theorem initials_materialName (index : Int) (field : MaterialField) : initials (materialName index field) = ['m', 'a'] := by
  cases field <;> exact initials_inside (by decide) (by decide) _ _

theorem initials_uniformName (index : Int) : (initials (uniformName index)).head? = some 'u' := by
  simp [initials, uniformName]

theorem initials_temporary (index : Int) : (initials (temporary index)).head? = some 't' := by
  simp [initials, temporary]

theorem Numeric.initials {text : String} (numeric : Numeric text) : ∀ c ∈ initials text, isNumeric c = true :=
  fun c member => numeric c (List.mem_of_mem_take member)

end Shading.Glsl
