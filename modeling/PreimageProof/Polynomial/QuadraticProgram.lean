import PreimageProof.Circuit.System
import PreimageProof.Polynomial.Domain

/-!
# Constraints as divisibility

Each column of a matrix is read as the values of a polynomial on a domain, row
`i` at the `i`-th element. An assignment `z` satisfies every row exactly when
`(Σ zᵢ Aᵢ)(Σ zᵢ Bᵢ) - Σ zᵢ Cᵢ` vanishes on the domain, that is, when `X ^ n - 1`
divides it.

After the constraints the first matrix has one more row for each public
variable, holding just that variable: these rows are satisfied by every
assignment, and they keep the polynomials of the public variables independent
of all the others.
-/

namespace PreimageProof

/-- The rows of the first matrix with those of the public variables. -/
def Matrices.extendedA (m : Matrices) (publics : Nat) : List Row :=
  m.a ++ (List.range publics).map fun j => [(1, j)]

namespace Domain

/-- The domain for the constraints and the public variables of a circuit. -/
def ofShape (shape : Shape) : Except SetupError Domain :=
  let rows := shape.constraints + shape.publics
  match ofRows? rows with
  | some d => .ok d
  | none => .error (.noDomain rows)

end Domain

namespace QuadraticProgram

/-! ## The polynomials at a point -/

/-- Add a row times a weight to a vector of columns. -/
def addRow (columns : Array Fr) (entry : Row × Fr) : Array Fr :=
  entry.1.foldl (fun columns e => columns.modify e.2 (· + entry.2 * e.1)) columns

/-- The values of all the column polynomials of a matrix where those of the
domain's Lagrange basis are `weights`. -/
def columnValues (width : Nat) (rows : List Row) (weights : List Fr) : List Fr :=
  ((rows.zip weights).foldl addRow (Array.replicate width 0)).toList

/-- Every column polynomial at a point, and the vanishing polynomial there. -/
structure Evaluations where
  a : List Fr
  b : List Fr
  c : List Fr
  target : Fr

/-- The polynomials at a point outside the domain. -/
def evaluateAt (m : Matrices) (shape : Shape) (d : Domain) (tau : Fr) :
    Except SetupError Evaluations :=
  let target := d.vanishing tau
  if target = 0 then .error .tauInDomain
  else
    let weights := d.lagrange tau
    let columns (rows : List Row) := columnValues shape.width rows weights
    .ok ⟨columns (m.extendedA shape.publics), columns m.b, columns m.c, target⟩

/-! ## The quotient -/

/-- The values of the rows at an assignment, zero where there is no row. -/
def rowValues (d : Domain) (rows : List Row) (z : Array Fr) : List Fr :=
  let values := rows.map fun row => row.value z
  values.take d.size ++ List.replicate (d.size - values.length) 0

/-- The coefficients of the quotient by `X ^ n - 1`. The division is done on
the domain shifted by a generator of the field, where the divisor has the same
value everywhere; the quotient has degree at most `n - 2`, so its last
coefficient is left out. -/
def quotient (m : Matrices) (shape : Shape) (d : Domain) (z : List Fr) : List Fr :=
  let g := Fr.generator
  let shifted (rows : List Row) := d.shift g (rowValues d rows z.toArray)
  let divisor := (d.vanishing g)⁻¹
  let products := List.zipWith (· * ·) (shifted (m.extendedA shape.publics)) (shifted m.b)
  let values := List.zipWith (fun ab c => (ab - c) * divisor) products (shifted m.c)
  (d.interpolateShifted g values).take (d.size - 1)

end QuadraticProgram

end PreimageProof
