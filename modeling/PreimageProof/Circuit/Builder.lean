import PreimageProof.Circuit.LinearCombination
import PreimageProof.Circuit.System

/-!
# Building a circuit

A circuit is written as a program in `Build`: it asks for variables, states
constraints between linear combinations of them, and may fail. The builder it
works on is a value, and the outcome of a program is an answer or an error
together with the builder it left, so that what a failure leaves behind is a
question with an answer.

Completing a circuit (`finalize`) is the only step that looks at the whole.
It gives every variable its place in the assignment, the statement first,
then the secrets, then the internal variables, each in the order of their
allocation; it refuses variables that were never handed out and internal
variables that cannot be computed in that order. A builder that was completed
is frozen, one that was refused can be repaired.
-/

namespace PreimageProof

/-- `a * b = c`. -/
structure Constraint where
  a : LinearCombination
  b : LinearCombination
  c : LinearCombination
  deriving DecidableEq

/-- The rule for an internal variable: the product `a * b`. -/
structure Derivation where
  a : LinearCombination
  b : LinearCombination
  deriving DecidableEq

/-- A circuit under construction. -/
structure Builder where
  /-- The number of public variables, the constant among them. -/
  publics : Nat
  secrets : Nat
  /-- The rules of the internal variables; one allocated on its own has none. -/
  internals : Array (Option Derivation)
  constraints : Array Constraint
  frozen : Bool
  deriving DecidableEq

/-- A program that builds a part of a circuit. -/
abbrev Build : Type → Type := ExceptT Error (StateM Builder)

namespace Builder

/-- The circuit with the constant and nothing else. -/
def empty : Builder := ⟨1, 0, #[], #[], false⟩

/-- The number of variables of a role. -/
def count (b : Builder) : Role → Nat
  | .statement => b.publics
  | .secret => b.secrets
  | .internal => b.internals.size

/-- The place in the assignment where the variables of a role begin. -/
def offset (b : Builder) : Role → Nat
  | .statement => 0
  | .secret => b.publics
  | .internal => b.publics + b.secrets

def shape (b : Builder) : Shape :=
  ⟨b.constraints.size, b.publics, b.secrets, b.internals.size⟩

/-! ## Completing a circuit -/

/-- The place of a variable in the assignment. -/
def globalIndex (b : Builder) (v : Variable) : Except Error Nat :=
  if v.index < b.count v.role then .ok (b.offset v.role + v.index)
  else .error (.gadget (.unallocated v))

/-- A linear combination as a row, in the order of its terms. -/
def lower (b : Builder) (lc : LinearCombination) : Except Error Row :=
  lc.terms.mapM fun t => do return (t.2, ← b.globalIndex t.1)

/-- The rule of an internal variable as rows. Values are computed in the order
of allocation, so a rule may use only what comes before its variable. -/
def lowerDerivation (b : Builder) (index : Nat) (derivation : Option Derivation) :
    Except Error (Row × Row) :=
  match derivation with
  | none => .error (.gadget (.underived index))
  | some d => do
      let left ← b.lower d.a
      let right ← b.lower d.b
      if (left ++ right).any fun entry => b.offset .internal + index ≤ entry.2 then
        .error (.gadget (.forwardReference index))
      else return (left, right)

def lowerConstraint (b : Builder) (constraint : Constraint) : Except Error (Row × Row × Row) := do
  return (← b.lower constraint.a, ← b.lower constraint.b, ← b.lower constraint.c)

/-- The complete circuit, the rules being looked at before the constraints. -/
def system (b : Builder) : Except Error ConstraintSystem := do
  let derivations ← b.internals.toList.zipIdx.mapM fun d => b.lowerDerivation d.2 d.1
  let rows ← b.constraints.toList.mapM b.lowerConstraint
  return {
    shape := b.shape
    matrices := ⟨rows.map (·.1), rows.map (·.2.1), rows.map (·.2.2)⟩
    derivations := derivations }

end Builder

namespace Build

/-- Refuse to go on when the circuit is complete. -/
def ensureMutable : Build Unit := do
  if (← get).frozen then throw .frozen

/-- A fresh variable of a role. An internal variable made here has no rule, and
the circuit cannot be completed with it; gadgets use `mul`. -/
def allocate (role : Role) : Build Variable := do
  ensureMutable
  let b ← get
  set (match role with
    | .statement => { b with publics := b.publics + 1 }
    | .secret => { b with secrets := b.secrets + 1 }
    | .internal => { b with internals := b.internals.push none })
  return ⟨role, b.count role⟩

/-- State that `a * b = c`. -/
def constrain (a b c : LinearCombination) : Build Unit := do
  ensureMutable
  modify fun s => { s with constraints := s.constraints.push ⟨a, b, c⟩ }

/-- State that `x = y`, as `(x - y) * 1 = 0`. -/
def assertEqual (x y : LinearCombination) : Build Unit :=
  constrain (x - y) (LinearCombination.ofVariable Variable.one) 0

/-- A new internal variable for the product `a * b`, and its constraint. -/
def mul (a b : LinearCombination) : Build Variable := do
  ensureMutable
  let out : Variable := ⟨.internal, (← get).internals.size⟩
  modify fun s => { s with internals := s.internals.push (some ⟨a, b⟩) }
  constrain a b (LinearCombination.ofVariable out)
  return out

/-- Complete the circuit and freeze the builder. -/
def finalize : Build ConstraintSystem := do
  ensureMutable
  let b ← get
  match b.system with
  | .error e => throw e
  | .ok system =>
      set { b with frozen := true }
      return system

end Build

/-- What compiling a circuit gives: the system, and the places of the public
inputs in the order the verifier supplies them. -/
structure CompiledCircuit where
  system : ConstraintSystem
  layout : List Nat

namespace CompiledCircuit

/-- Complete a circuit that has been built. The constant is at 0 and the public
inputs follow it. -/
def ofBuilder (b : Builder) : Except Error CompiledCircuit :=
  match Build.finalize.run.run b with
  | (.error e, _) => .error e
  | (.ok system, _) => .ok ⟨system, (List.range system.shape.publicInputs).map (· + 1)⟩

end CompiledCircuit

/-- Build a circuit from nothing and complete it. -/
def compile (circuit : Build Unit) : Except Error CompiledCircuit :=
  match circuit.run.run Builder.empty with
  | (.error e, _) => .error e
  | (.ok (), b) => CompiledCircuit.ofBuilder b

end PreimageProof
