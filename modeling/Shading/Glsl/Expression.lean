import Shading.Glsl.Temporaries

/-!
# Expressions of nodes

The expression that computes a node from its operands, and the declaration of its temporary.
-/

namespace Shading.Glsl

/-- The symbol of an arithmetic operator. -/
def arithmeticSymbol : Arithmetic → String
  | .add => "+"
  | .subtract => "-"
  | .multiply => "*"
  | .divide => "/"

/-- The symbol of a comparison or a connective. -/
def comparisonSymbol : Comparison → String
  | .equal => "=="
  | .notEqual => "!="
  | .greater => ">"
  | .greaterEqual => ">="
  | .less => "<"
  | .lessEqual => "<="
  | .and => "&&"
  | .or => "||"

/-- The symbol of an operator that stands between its operands. -/
def symbol : Operator → Except Violation String
  | .arithmetic operator => .ok (arithmeticSymbol operator)
  | .compare comparison => .ok (comparisonSymbol comparison)
  | operator => .error (.noSymbol operator)

/-- How a backend writes a choice between two values. -/
inductive Branching where
  /-- By the ternary operator. -/
  | ternary
  /-- Not at all; the backend is named in the refusal. -/
  | refused (backend : String)
deriving DecidableEq

/-- The expression of an operation, or nothing for another source. Its two operands are looked up first. -/
def operationExpression (temporaries : Temporaries) (branching : Branching) : Source → Except Error (Option Expression)
  | .arithmetic _ operator lhs rhs => do
    let left ← temporaries.reference lhs
    let right ← temporaries.reference rhs
    return some (.binary (arithmeticSymbol operator) left right)
  | .compare _ comparison lhs rhs => do
    let left ← temporaries.reference lhs
    let right ← temporaries.reference rhs
    return some (.binary (comparisonSymbol comparison) left right)
  | .branch _ condition success failure => do
    let left ← temporaries.reference success
    let right ← temporaries.reference failure
    match branching with
    | .ternary => return some (.choice (← temporaries.reference condition) left right)
    | .refused backend => throw (.violation (.noBranch backend))
  | .sample _ _ texture coordinate => do
    let left ← temporaries.reference texture
    let right ← temporaries.reference coordinate
    return some (.call "texture" [left, right])
  | .lerp _ lhs rhs factor => do
    let left ← temporaries.reference lhs
    let right ← temporaries.reference rhs
    return some (.call "mix" [left, right, ← temporaries.reference factor])
  | .leaf _ | .component _ _ | .construct _ _ _ => return none

/-- A violation among the other errors. -/
def liftViolation {α : Type} (checked : Except Violation α) : Except Error α :=
  checked.mapError Error.violation

/-- The constructor call of a composite, or nothing for another source. -/
def constructExpression (temporaries : Temporaries) : Source → Except Error (Option Expression)
  | .construct _ type parts => do
    let arguments ← parts.mapM (fun part => temporaries.reference part)
    let name ← liftViolation (spelling type)
    return some (.call name arguments)
  | _ => return none

/-- The expression that computes a value from its operands. -/
def expressionOf (temporaries : Temporaries) (branching : Branching) (value : Value) : Except Error Expression := do
  match ← operationExpression temporaries branching value.source with
  | some expression => return expression
  | none =>
    match ← constructExpression temporaries value.source with
    | some expression => return expression
    | none => throw (.violation (.needsNoDeclaration value))

/-- The declaration of a value's temporary. Its operands are looked up before the temporary exists. -/
def declarationOf (temporaries : Temporaries) (branching : Branching) (value : Value) :
    Except Error (Instruction × Temporaries) := do
  let expression ← expressionOf temporaries branching value
  let (name, next) ← liftViolation (temporaries.declare value.source.node?)
  let type ← liftViolation (spelling value.type)
  return (.declare type name expression, next)

end Shading.Glsl
