import Shading.Enumeration

/-!
# Dialects of the shading language

The dialects differ in their version directive and in the precision statements that follow it.
-/

namespace Shading.Glsl

/-- The supported versions of the shading language. -/
inductive Dialect where
  | es300
  | core330
deriving DecidableEq

instance : Enumeration Dialect where
  title := "GLSLVersion"
  members := [.es300, .core330]
  name
    | .es300 => "V300_ES"
    | .core330 => "V330_CORE"

namespace Dialect

/-- The first line of every source. -/
def versionLine : Dialect → String
  | .es300 => "#version 300 es"
  | .core330 => "#version 330 core"

/-- The precision statements after the directive. -/
def precision : Dialect → List String
  | .es300 => ["precision highp float;", "precision highp int;"]
  | .core330 => []

end Dialect

end Shading.Glsl
