import Mathlib
import PreimageProof.Proofs.Circuit.Value

/-!
# Histories of a builder

A builder is reached by a list of calls. The linear combinations in them are
arbitrary, so handles of other builders and of variables that are allocated
later occur in them too, and a call may have depended on the answers of those
before it. A call does one of five things to the builder, listed by `Step`;
what holds of every history is proved from that list once.

Two things hold of every history. Later builders extend earlier ones: a
constraint or a rule keeps its place. And every internal variable with a rule
has the constraint that `mul` made for it.
-/

namespace PreimageProof

/-- The answer of a program on a builder, and the builder it leaves. -/
def Build.on {α : Type} (program : Build α) (b : Builder) : Except Error α × Builder :=
  program.run.run b

theorem Build.bind_on_of_ok {α β : Type} {b b' : Builder} {program : Build α}
    {next : α → Build β} {x : α} (h : program.on b = (.ok x, b')) :
    (program >>= next).on b = (next x).on b' := by
  rw [Build.on] at h
  rw [Build.on, ExceptT.run_bind, StateT.run_bind, h]
  rfl

/-- A call of the interface of a builder. -/
inductive Call where
  | allocate (role : Role)
  | constrain (a b c : LinearCombination)
  | assertEqual (x y : LinearCombination)
  | mul (a b : LinearCombination)
  | finalize

namespace Builder

/-- The builder after a call, whatever its answer. -/
def after (b : Builder) : Call → Builder
  | .allocate role => ((Build.allocate role).on b).2
  | .constrain x y z => ((Build.constrain x y z).on b).2
  | .assertEqual x y => ((Build.assertEqual x y).on b).2
  | .mul x y => ((Build.mul x y).on b).2
  | .finalize => (Build.finalize.on b).2

def afterAll (b : Builder) (calls : List Call) : Builder := calls.foldl after b

/-- The answer of completing the circuit. -/
def completion (b : Builder) : Except Error ConstraintSystem := (Build.finalize.on b).1

end Builder

/-- A system that some history of calls on a new builder, completed, gives. -/
def ConstraintSystem.Built (system : ConstraintSystem) : Prop :=
  ∃ calls, (Builder.empty.afterAll calls).completion = .ok system

/-! ## What a call does -/

namespace Builder

def allocated (b : Builder) : Role → Builder
  | .statement => { b with publics := b.publics + 1 }
  | .secret => { b with secrets := b.secrets + 1 }
  | .internal => { b with internals := b.internals.push none }

def constrained (b : Builder) (c : Constraint) : Builder :=
  { b with constraints := b.constraints.push c }

/-- The constraint of the internal variable `index` with the given rule. -/
def productRow (index : Nat) (rule : Derivation) : Constraint :=
  ⟨rule.a, rule.b, LinearCombination.ofVariable ⟨.internal, index⟩⟩

def multiplied (b : Builder) (rule : Derivation) : Builder :=
  { b with
    internals := b.internals.push (some rule)
    constraints := b.constraints.push (productRow b.internals.size rule) }

/-- What a call can do to a builder. Only an unfrozen one changes. -/
inductive Step : Builder → Builder → Prop where
  | stay (b) : Step b b
  | allocate {b} (h : b.frozen = false) (role) : Step b (b.allocated role)
  | constrain {b} (h : b.frozen = false) (c) : Step b (b.constrained c)
  | multiply {b} (h : b.frozen = false) (rule) : Step b (b.multiplied rule)
  | freeze {b} (h : b.frozen = false) : Step b { b with frozen := true }

variable {b : Builder}

theorem allocate_on (h : b.frozen = false) (role : Role) :
    (Build.allocate role).on b = (.ok ⟨role, b.count role⟩, b.allocated role) := by
  obtain ⟨publics, secrets, internals, constraints, frozen⟩ := b
  cases h
  cases role <;> rfl

theorem constrain_on (h : b.frozen = false) (x y z : LinearCombination) :
    (Build.constrain x y z).on b = (.ok (), b.constrained ⟨x, y, z⟩) := by
  obtain ⟨publics, secrets, internals, constraints, frozen⟩ := b
  cases h
  rfl

theorem mul_on (h : b.frozen = false) (x y : LinearCombination) :
    (Build.mul x y).on b = (.ok ⟨.internal, b.internals.size⟩, b.multiplied ⟨x, y⟩) := by
  obtain ⟨publics, secrets, internals, constraints, frozen⟩ := b
  cases h
  rfl

theorem ensureMutable_on (h : b.frozen = false) : Build.ensureMutable.on b = (.ok (), b) := by
  obtain ⟨publics, secrets, internals, constraints, frozen⟩ := b
  cases h
  rfl

theorem get_on (b : Builder) : (get : Build Builder).on b = (.ok b, b) := rfl

theorem finalize_on_of_ok (h : b.frozen = false) {system : ConstraintSystem}
    (hsystem : b.system = .ok system) :
    Build.finalize.on b = (.ok system, { b with frozen := true }) := by
  rw [Build.finalize, Build.bind_on_of_ok (ensureMutable_on h), Build.bind_on_of_ok (get_on b),
    hsystem]
  rfl

theorem finalize_on_of_error (h : b.frozen = false) {e : Error} (hsystem : b.system = .error e) :
    Build.finalize.on b = (.error e, b) := by
  rw [Build.finalize, Build.bind_on_of_ok (ensureMutable_on h), Build.bind_on_of_ok (get_on b),
    hsystem]
  rfl

theorem after_of_frozen (h : b.frozen = true) (call : Call) : b.after call = b := by
  obtain ⟨publics, secrets, internals, constraints, frozen⟩ := b
  cases h
  cases call <;> rfl

/-- Every call takes a step. -/
theorem step_after (b : Builder) (call : Call) : Step b (b.after call) := by
  cases h : b.frozen with
  | true =>
      rw [after_of_frozen h call]
      exact .stay b
  | false =>
      cases call with
      | allocate role =>
          rw [after, allocate_on h]
          exact .allocate h role
      | constrain x y z =>
          rw [after, constrain_on h]
          exact .constrain h _
      | assertEqual x y =>
          rw [after, Build.assertEqual, constrain_on h]
          exact .constrain h _
      | mul x y =>
          rw [after, mul_on h]
          exact .multiply h _
      | finalize =>
          cases hsystem : b.system with
          | error e =>
              rw [after, finalize_on_of_error h hsystem]
              exact .stay b
          | ok system =>
              rw [after, finalize_on_of_ok h hsystem]
              exact .freeze h

theorem completion_eq_ok {system : ConstraintSystem} (h : b.completion = .ok system) :
    b.frozen = false ∧ b.system = .ok system := by
  cases hf : b.frozen with
  | true =>
      obtain ⟨publics, secrets, internals, constraints, frozen⟩ := b
      cases hf
      cases h
  | false =>
      cases hsystem : b.system with
      | error e =>
          rw [completion, finalize_on_of_error hf hsystem] at h
          cases h
      | ok system' =>
          rw [completion, finalize_on_of_ok hf hsystem] at h
          exact ⟨rfl, h⟩

/-! ## Later builders extend earlier ones -/

/-- No variable is lost, every rule and every constraint keeps its place, and
what was frozen stays so. -/
structure Extends (b later : Builder) : Prop where
  unfrozen : later.frozen = false → b.frozen = false
  publics_le : b.publics ≤ later.publics
  secrets_le : b.secrets ≤ later.secrets
  internal : ∀ {i : Nat} {r : Option Derivation},
    b.internals[i]? = some r → later.internals[i]? = some r
  constraint : ∀ {k : Nat} {c : Constraint},
    b.constraints[k]? = some c → later.constraints[k]? = some c

namespace Extends

theorem refl (b : Builder) : b.Extends b := ⟨id, le_rfl, le_rfl, id, id⟩

theorem trans {b₁ b₂ b₃ : Builder} (h₁ : b₁.Extends b₂) (h₂ : b₂.Extends b₃) :
    b₁.Extends b₃ :=
  ⟨h₁.unfrozen ∘ h₂.unfrozen, h₁.publics_le.trans h₂.publics_le,
    h₁.secrets_le.trans h₂.secrets_le,
    fun h => h₂.internal (h₁.internal h), fun h => h₂.constraint (h₁.constraint h)⟩

end Extends

theorem getElem?_push_of_some {α : Type} {xs : Array α} {i : Nat} {x y : α}
    (h : xs[i]? = some x) : (xs.push y)[i]? = some x := by
  obtain ⟨hi, rfl⟩ := Array.getElem?_eq_some_iff.1 h
  rw [Array.getElem?_push_lt hi]

theorem extends_allocated (b : Builder) (role : Role) : b.Extends (b.allocated role) := by
  cases role with
  | statement => exact ⟨id, Nat.le_succ _, le_rfl, id, id⟩
  | secret => exact ⟨id, le_rfl, Nat.le_succ _, id, id⟩
  | internal => exact ⟨id, le_rfl, le_rfl, getElem?_push_of_some, id⟩

theorem extends_constrained (b : Builder) (c : Constraint) : b.Extends (b.constrained c) :=
  ⟨id, le_rfl, le_rfl, id, getElem?_push_of_some⟩

theorem extends_multiplied (b : Builder) (rule : Derivation) : b.Extends (b.multiplied rule) :=
  ⟨id, le_rfl, le_rfl, getElem?_push_of_some, getElem?_push_of_some⟩

theorem Step.extends {later : Builder} (h : Step b later) : b.Extends later := by
  cases h with
  | stay => exact .refl b
  | allocate _ role => exact extends_allocated b role
  | constrain _ c => exact extends_constrained b c
  | multiply _ rule => exact extends_multiplied b rule
  | freeze h => exact ⟨fun _ => h, le_rfl, le_rfl, id, id⟩

theorem extends_afterAll (b : Builder) (calls : List Call) : b.Extends (b.afterAll calls) := by
  induction calls generalizing b with
  | nil => exact .refl b
  | cons call calls ih => exact (step_after b call).extends.trans (ih (b.after call))

/-! ## Every rule has its constraint -/

/-- The constraint at a place says that an internal variable obeys its rule. -/
def IsProductRow (b : Builder) (k : Nat) : Prop :=
  ∃ i rule, b.internals[i]? = some (some rule) ∧ b.constraints[k]? = some (productRow i rule)

theorem IsProductRow.extend {later : Builder} {k : Nat} (h : b.IsProductRow k)
    (hext : b.Extends later) : later.IsProductRow k := by
  obtain ⟨i, rule, hi, hk⟩ := h
  exact ⟨i, rule, hext.internal hi, hext.constraint hk⟩

theorem isProductRow_multiplied (b : Builder) (rule : Derivation) :
    (b.multiplied rule).IsProductRow b.constraints.size :=
  ⟨b.internals.size, rule, by simp [multiplied], by simp [multiplied]⟩

/-- What every history keeps: the constant is a variable, and every internal
variable with a rule has a constraint that says so. -/
structure Consistent (b : Builder) : Prop where
  publics_pos : 0 < b.publics
  product_row : ∀ {i : Nat} {rule : Derivation}, b.internals[i]? = some (some rule) →
    ∃ k : Nat, b.constraints[k]? = some (productRow i rule)

theorem consistent_empty : empty.Consistent :=
  ⟨Nat.one_pos, fun h => by simp [empty] at h⟩

theorem Consistent.allocated (h : b.Consistent) (role : Role) :
    (b.allocated role).Consistent := by
  cases role with
  | statement => exact ⟨Nat.succ_pos _, h.product_row⟩
  | secret => exact ⟨h.publics_pos, h.product_row⟩
  | internal =>
      refine ⟨h.publics_pos, fun {i rule} hi => ?_⟩
      rw [Builder.allocated, Array.getElem?_push] at hi
      split at hi
      · cases hi
      · exact h.product_row hi

theorem Consistent.constrained (h : b.Consistent) (c : Constraint) :
    (b.constrained c).Consistent := by
  refine ⟨h.publics_pos, fun {i rule} hi => ?_⟩
  obtain ⟨k, hk⟩ := h.product_row hi
  exact ⟨k, getElem?_push_of_some hk⟩

theorem Consistent.multiplied (h : b.Consistent) (rule : Derivation) :
    (b.multiplied rule).Consistent := by
  refine ⟨h.publics_pos, fun {i rule'} hi => ?_⟩
  rw [Builder.multiplied, Array.getElem?_push] at hi
  split at hi
  · next heq =>
      cases hi
      exact ⟨b.constraints.size, by simp [Builder.multiplied, heq]⟩
  · obtain ⟨k, hk⟩ := h.product_row hi
    exact ⟨k, getElem?_push_of_some hk⟩

theorem Consistent.step {later : Builder} (h : b.Consistent) (hstep : Step b later) :
    later.Consistent := by
  cases hstep with
  | stay => exact h
  | allocate _ role => exact h.allocated role
  | constrain _ c => exact h.constrained c
  | multiply _ rule => exact h.multiplied rule
  | freeze _ => exact ⟨h.publics_pos, h.product_row⟩

theorem Consistent.afterAll (h : b.Consistent) (calls : List Call) :
    (b.afterAll calls).Consistent := by
  induction calls generalizing b with
  | nil => exact h
  | cons call calls ih => exact ih (h.step (step_after b call))

end Builder

end PreimageProof
