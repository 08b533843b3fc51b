import PreimageProof.Error

/-!
# Rank-1 constraint systems

A frozen circuit: rows `A(z) * B(z) = C(z)` over an assignment
`z = [1, statement…, secret…, internal…]`, with the rules that compute the
internal part from what comes before it.
-/

namespace PreimageProof

/-- A row of a constraint matrix: coefficients with their columns. -/
abbrev Row : Type := List (Fr × Nat)

/-- The value of a row, `z` being zero outside its bounds. -/
def Row.value (row : Row) (z : Array Fr) : Fr :=
  (row.map fun entry => entry.1 * z.getD entry.2 0).sum

/-- The three matrices, one row for each constraint. -/
structure Matrices where
  a : List Row
  b : List Row
  c : List Row
  deriving DecidableEq

namespace Matrices

/-- The rows of the three matrices side by side, as far as all three reach. -/
def rows (m : Matrices) : List (Row × Row × Row) := m.a.zip (m.b.zip m.c)

/-- Whether the constraint of a row fails. -/
def isViolated (z : Array Fr) (row : Row × Row × Row) : Bool :=
  row.1.value z * row.2.1.value z ≠ row.2.2.value z

/-- The first row that an assignment violates is reported. -/
def check (m : Matrices) (z : List Fr) : Except Error Unit :=
  match m.rows.findIdx? (isViolated z.toArray) with
  | some row => .error (.unsatisfied row)
  | none => .ok ()

end Matrices

/-- A frozen circuit. -/
structure ConstraintSystem where
  shape : Shape
  matrices : Matrices
  /-- For each internal variable in turn, the two rows it is the product of. -/
  derivations : List (Row × Row)
  deriving DecidableEq

namespace ConstraintSystem

/-- Extend the constant, the statement and the secrets by every internal value. -/
def solve (system : ConstraintSystem) (inputs : List Fr) : List Fr :=
  (system.derivations.foldl (fun z d => z.push (d.1.value z * d.2.value z)) inputs.toArray).toList

/-- A full assignment has the right length, starts with 1 and satisfies every row. -/
def check (system : ConstraintSystem) (z : List Fr) : Except Error Unit :=
  if z.length ≠ system.shape.width then
    .error (.mismatch (.values system.shape.width z.length))
  else if z.head? ≠ some 1 then
    .error (.mismatch .constant)
  else system.matrices.check z

end ConstraintSystem

end PreimageProof
