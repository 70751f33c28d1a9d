/-!
# Classes of failures

Every failure belongs to a class, and every class but the first one stands below another. A caller that is prepared for a
class is prepared for all that stand below it.
-/

namespace Shading

/-- The classes of failures: those of this library, and those that a program or the system around it can bring up. -/
inductive ExceptionClass where
  | shaderGraphError | contractViolation | linkError
  | baseException | baseExceptionGroup | generatorExit | keyboardInterrupt | systemExit | exception
  | arithmeticError | floatingPointError | overflowError | zeroDivisionError
  | assertionError | attributeError | bufferError | eofError | exceptionGroup
  | importError | moduleNotFoundError
  | lookupError | indexError | keyError
  | memoryError | nameError | unboundLocalError
  | osError | blockingIOError | childProcessError | fileExistsError | fileNotFoundError | interruptedError
  | isADirectoryError | notADirectoryError | permissionError | processLookupError | timeoutError
  | connectionError | brokenPipeError | connectionAbortedError | connectionRefusedError | connectionResetError
  | referenceError | runtimeError | notImplementedError | recursionError
  | stopAsyncIteration | stopIteration
  | syntaxError | indentationError | tabError
  | systemError | typeError
  | valueError | unicodeError | unicodeDecodeError | unicodeEncodeError | unicodeTranslateError
  | warning | bytesWarning | deprecationWarning | encodingWarning | futureWarning | importWarning
  | pendingDeprecationWarning | resourceWarning | runtimeWarning | syntaxWarning | unicodeWarning | userWarning
  /-- A class that a program defines for itself, straight below the usual failures. -/
  | defined
deriving DecidableEq

namespace ExceptionClass

/-- The class right above a class. -/
def parent? : ExceptionClass → Option ExceptionClass
  | .baseException => none
  | .baseExceptionGroup | .generatorExit | .keyboardInterrupt | .systemExit | .exception => some .baseException
  | .contractViolation | .linkError => some .shaderGraphError
  | .floatingPointError | .overflowError | .zeroDivisionError => some .arithmeticError
  | .moduleNotFoundError => some .importError
  | .indexError | .keyError => some .lookupError
  | .unboundLocalError => some .nameError
  | .blockingIOError | .childProcessError | .fileExistsError | .fileNotFoundError | .interruptedError
  | .isADirectoryError | .notADirectoryError | .permissionError | .processLookupError | .timeoutError
  | .connectionError => some .osError
  | .brokenPipeError | .connectionAbortedError | .connectionRefusedError | .connectionResetError => some .connectionError
  | .notImplementedError | .recursionError => some .runtimeError
  | .indentationError => some .syntaxError
  | .tabError => some .indentationError
  | .unicodeError => some .valueError
  | .unicodeDecodeError | .unicodeEncodeError | .unicodeTranslateError => some .unicodeError
  | .bytesWarning | .deprecationWarning | .encodingWarning | .futureWarning | .importWarning
  | .pendingDeprecationWarning | .resourceWarning | .runtimeWarning | .syntaxWarning | .unicodeWarning
  | .userWarning => some .warning
  | _ => some .exception

/-- A class and the classes above it, as far as a number of steps leads. -/
def upward : Nat → ExceptionClass → List ExceptionClass
  | 0, found => [found]
  | steps + 1, found =>
    match found.parent? with
    | none => [found]
    | some parent => found :: parent.upward steps

/-- A class and all the classes above it. None stands more than four steps below the first one. -/
def ancestors (found : ExceptionClass) : List ExceptionClass :=
  found.upward 4

/-- The class above an ancestor is an ancestor, so that none is missing. -/
theorem parent?_mem_ancestors (found : ExceptionClass) :
    ∀ above ∈ found.ancestors, ∀ parent ∈ above.parent?, parent ∈ found.ancestors := by
  cases found <;> decide

/-- A class is caught where one of some classes is expected. -/
def isCaughtBy (found : ExceptionClass) (expected : List ExceptionClass) : Bool :=
  found.ancestors.any expected.contains

end ExceptionClass

end Shading
