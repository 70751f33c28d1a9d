import Shading.Text.Lines

/-!
# Instructions of a body

A body is a row of instructions, each of which declares a temporary or assigns an output. Expressions are flat:
what they read are references to variables and literals, never other expressions.
-/

namespace Shading.Glsl

/-- What an expression reads: a variable or a literal, and the components selected from it one after the other. -/
structure Reference where
  base : String
  selectors : List String
deriving DecidableEq

namespace Reference

/-- A variable or a literal as it stands. -/
def ofName (name : String) : Reference := ⟨name, []⟩

/-- The components of a reference with the given letters. -/
def select (reference : Reference) (letters : String) : Reference :=
  { reference with selectors := reference.selectors ++ [letters] }

def text (reference : Reference) : String :=
  reference.selectors.foldl (fun text letters => text ++ "." ++ letters) reference.base

end Reference

/-- An expression over references. -/
inductive Expression where
  | binary (symbol : String) (lhs rhs : Reference)
  | choice (condition success failure : Reference)
  | call (function : String) (arguments : List Reference)
deriving DecidableEq

def Expression.text : Expression → String
  | .binary symbol lhs rhs => lhs.text ++ " " ++ symbol ++ " " ++ rhs.text
  | .choice condition success failure => condition.text ++ " ? " ++ success.text ++ " : " ++ failure.text
  | .call function arguments => function ++ "(" ++ ", ".intercalate (arguments.map Reference.text) ++ ")"

/-- One line of a body. -/
inductive Instruction where
  | declare (type name : String) (expression : Expression)
  | assign (target : String) (value : Reference)
deriving DecidableEq

def Instruction.text : Instruction → String
  | .declare type name expression => type ++ " " ++ name ++ " = " ++ expression.text ++ ";"
  | .assign target value => target ++ " = " ++ value.text ++ ";"

end Shading.Glsl
