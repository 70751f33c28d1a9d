import Shading.Execution
import Shading.Proofs.Dependence
import Shading.Proofs.Walk
import Shading.Proofs.Building
import Shading.Proofs.Documents
import Shading.Proofs.Order
import Shading.Proofs.Sessions
import Shading.Proofs.Typing
import Shading.Proofs.Rendering
import Shading.Proofs.Scheduling
import Shading.Proofs.Generation
import Shading.Proofs.Lines
import Shading.Proofs.Names
import Shading.Proofs.Reading
import Shading.Proofs.Meaning
import Shading.Proofs.Sources
import Shading.Proofs.Uniforms
import Shading.Proofs.Ownership
import Shading.Proofs.Interface
import Shading.Proofs.Legality
import Shading.Proofs.Linking
import Shading.Proofs.Stability
import Shading.Proofs.Allocation
import Shading.Proofs.Scopes
import Shading.Proofs.Scoping
import Shading.Proofs.Dialects
import Shading.Proofs.Crossing
import Shading.Proofs.Identity
import Shading.Proofs.Effects
import Shading.Proofs.Reuse
import Shading.Proofs.Injectivity
import Shading.Proofs.Recursion
import Shading.Proofs.Coverage
import Shading.Proofs.Files
import Shading.Proofs.Refreshing
import Shading.Proofs.Watching
import Shading.Proofs.Validation
import Shading.Proofs.Nesting
import Shading.Proofs.Rounding
import Shading.Proofs.Operands
import Shading.Proofs.Shortest
import Shading.Proofs.Literals
import Shading.Proofs.Presentation
import Shading.Proofs.InterfaceNames
import Shading.Proofs.Termination
