import PreimageProof.Field.Bn254

/-!
# Variables of a circuit

A variable is named by its role and its place among the variables of that
role. Which global index it gets is known only when the circuit is complete,
so until then these names are all that a gadget handles.
-/

namespace PreimageProof

/-- Who knows the value of a variable. -/
inductive Role where
  /-- The verifier, too: the statement that is proved. -/
  | statement
  /-- Only the prover, who is asked for it. -/
  | secret
  /-- Only the prover, who computes it from the others. -/
  | internal
  deriving DecidableEq

namespace Role

def name : Role → String
  | .statement => "Public"
  | .secret => "Secret"
  | .internal => "Internal"

/-- The order of the roles in an assignment. -/
def rank : Role → Nat
  | .statement => 0
  | .secret => 1
  | .internal => 2

theorem rank_inj {a b : Role} : a.rank = b.rank ↔ a = b := by
  cases a <;> cases b <;> decide

end Role

/-- A variable, by its role and its place within the role. -/
@[ext] structure Variable where
  role : Role
  index : Nat
  deriving DecidableEq

namespace Variable

/-- The constant 1: the first variable of the statement in every circuit. -/
def one : Variable := ⟨.statement, 0⟩

/-- By role, then by place: the order in which an assignment lists them. -/
def Precedes (a b : Variable) : Prop :=
  a.role.rank < b.role.rank ∨ (a.role.rank = b.role.rank ∧ a.index < b.index)

instance : LT Variable := ⟨Precedes⟩

instance (a b : Variable) : Decidable (a < b) :=
  inferInstanceAs (Decidable (_ ∨ _))

theorem lt_def {a b : Variable} :
    a < b ↔ a.role.rank < b.role.rank ∨ (a.role.rank = b.role.rank ∧ a.index < b.index) :=
  Iff.rfl

theorem lt_irrefl (a : Variable) : ¬ a < a := by
  rw [lt_def]
  omega

theorem lt_trans {a b c : Variable} (hab : a < b) (hbc : b < c) : a < c := by
  rw [lt_def] at *
  omega

theorem lt_of_not_lt {a b : Variable} (hne : a ≠ b) (h : ¬ a < b) : b < a := by
  rw [lt_def] at *
  have hne' : ¬ (a.role.rank = b.role.rank ∧ a.index = b.index) := fun ⟨hr, hi⟩ =>
    hne (Variable.ext (Role.rank_inj.1 hr) hi)
  omega

end Variable

end PreimageProof
