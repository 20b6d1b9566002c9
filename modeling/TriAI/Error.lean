import Mathlib
/-!
Contract: the error values of the engine.

Owns: `IoError`, the operating-system errors the modelled code tells apart, and
`TriAIError` with the message texts of the source.

Does not own: the display formatting of errors.
-/

set_option autoImplicit false

namespace TriAI

/-- The kinds of `std::io::Error` that occur in the modelled code. -/
inductive IoError where
  | notFound
  | alreadyExists
  | notADirectory
  | isADirectory
  | directoryNotEmpty
  | unexpectedEof
  | wouldBlock
  | invalidInput
  | invalidData
  | other (message : String)
deriving DecidableEq, Repr

/-- `error::TriAIError`. -/
inductive TriAIError where
  | evidenceWrite (message : String)
  | io (error : IoError)
  | serialization (message : String)
  | other (message : String)
deriving DecidableEq, Repr

end TriAI
