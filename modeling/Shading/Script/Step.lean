import Shading.Generator

/-!
# Steps of a scripted session

A script builds shader graphs without naming their values directly: values are kept in registers, and documents
and generators have names. The members of closed sets are given by name and looked up when the step is
performed.
-/

namespace Shading.Script

/-- An argument of an expression: a register or a plain operand. -/
inductive Argument where
  | register (name : String)
  | plain (value : Plain)

/-- A description of a source. -/
inductive SourceSpec where
  | vertexAttribute (slot : String) (stream : Int)
  | output (output : Output)
  | input (name : String)
  | instanceIndex
  | matrix (matrix : String)
  | uniform (index : Int) (type : String)
  | literal (value : Plain) (type : String)
  | material (index : Int) (field : String)
  | component (parent : String) (letters : String)
  | construct (type : String) (parts : List String)
  /-- The source of the value in a register. -/
  | ofRegister (register : String)
  | unknown (text : String)

/-- A description of an operator. -/
inductive OperatorSpec where
  | arithmetic (operator : String)
  | compare (comparison : String)
  | branch (condition : String)
  | sample (filter : Option String)
  | lerp (factor : String)
  | unknown (text : String)

/-- A description of an entry of an attribute list. -/
structure AttributeSpec where
  slot : String
  stream : Int

/-- How a new generator is chosen. -/
inductive GeneratorSpec where
  | dialect (name : String)
  | target (name : String)
  | standard
  /-- A generator whose backend has no lowering of branches. -/
  | branchless

/-- The documents and attributes that a generation reads. -/
structure ProgramSpec where
  vertex : String
  fragment : String
  attributes : List AttributeSpec

/-- One step of a script. -/
inductive Step where
  -- Values
  | literal (value : Plain)
  | arithmetic (operator : Arithmetic) (lhs rhs : Argument)
  | compare (comparison : Comparison) (lhs : String) (rhs : Argument)
  | lerp (lhs rhs : String) (factor : Argument)
  | select (condition success failure : String)
  | sample (texture coordinate : String) (filter : Option String)
  | member (value : String) (letters : String)
  | component (value : String) (letters : String)
  | construct (kind : String) (parts : List String)
  | wrap (kind : String) (source : SourceSpec) (type : Option String)
  | wrapAs (source : SourceSpec) (type : String)
  | operate (lhs : String) (operator : OperatorSpec) (rhs : String)
  | chain (start : String) (operator : Arithmetic) (operand : Argument) (count : Nat)
  -- Questions about values
  | inspect (value : String)
  | display (value : String)
  | sameValue (first second : String)
  | sameSource (first second : String)
  -- Documents
  | newDocument (document : String) (stage : Stage)
  | uniform (document name : String) (kind component : Option String)
  | uniforms (document : String)
  | uniformsByIndex (document : String)
  | channel (document : String) (index : Int) (field : Option MaterialField)
  | channels (document : String)
  | instanceIndex (document : String)
  | vertexAttribute (document slot : String) (stream : Int)
  | vertexInput (document : String) (slot : Slot) (stream : Int)
  | matrix (document : String) (matrix : Matrix)
  | setPosition (document value : String)
  | setPointSize (document value : String)
  | setColor (document value : String)
  | readPosition (document : String)
  | readPointSize (document : String)
  | readColor (document : String)
  | setOutput (document name value : String)
  | readOutput (document name : String)
  | hasOutput (document name : String)
  | outputs (document : String)
  | declareInput (document name kind : String) (component : Option String)
  | getInput (document name : String)
  | hasInput (document name : String)
  | inputs (document : String)
  | writes (document : String)
  | describeAttribute (binding : AttributeSpec)
  | failLink (name : String) (expected actual : Option String) (reason : String)
  -- Generators
  | newGenerator (generator : String) (choice : GeneratorSpec)
  | spelling (generator type : String)
  | sourceName (generator : String) (source : SourceSpec)
  | literalText (generator : String) (value : Plain) (type : String)
  | symbol (generator : String) (operator : OperatorSpec)
  | operationText (generator value : String)
  | constructText (generator value : String)
  | reference (generator value : String)
  | nameTemporary (generator value : String)
  | declaration (generator value : String)
  | temporary (generator : String) (index : Int)
  | renew (generator : String) (stage : Option String)
  | temporaries (generator : String)
  | schedule (generator document : String)
  | reachable (generator document : String)
  | checkLink (generator : String) (program : ProgramSpec)
  | generate (generator : String) (program : ProgramSpec)
  | vertexSource (generator : String) (program : ProgramSpec)
  | fragmentSource (generator : String) (program : ProgramSpec)
  | body (generator document : String)
  /-- A step that no script can perform. -/
  | unknown (name : String)

/-- A step, and the register that keeps its value. -/
structure Command where
  step : Step
  register : Option String

end Shading.Script
