/-!
# The shape of a circuit

Keys, witnesses and circuits are matched by their sizes. Counts of variables
are natural numbers here; where they are read from bytes or multiplied by
the size of an entry, the limit of the 64-bit counts of the format applies.
-/

namespace PreimageProof

/-- The sizes of a compiled circuit. The public variables include the
constant 1. -/
structure Shape where
  constraints : Nat
  publics : Nat
  secrets : Nat
  internals : Nat
  deriving DecidableEq

namespace Shape

/-- The number of variables, which is the length of an assignment. -/
def width (shape : Shape) : Nat := shape.publics + shape.secrets + shape.internals

/-- The number of values a verifier supplies: the constant is not one. -/
def publicInputs (shape : Shape) : Nat := shape.publics - 1

/-- The sizes as messages show them. -/
def describe (shape : Shape) : String :=
  "CircuitShape \x7b num_constraints: " ++ toString shape.constraints ++
    ", num_public: " ++ toString shape.publics ++
    ", num_secret: " ++ toString shape.secrets ++
    ", num_internal: " ++ toString shape.internals ++ " \x7d"

end Shape

end PreimageProof
