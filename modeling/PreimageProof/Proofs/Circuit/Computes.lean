import Mathlib
import PreimageProof.Proofs.Circuit.Assignment

/-!
# Programs that compute a value

A gadget is a program that does nothing to a builder but append products, and
the value of its answer is forced as soon as these products hold. `Computes`
says both of a program on a builder, and it composes: one lemma for a product,
one for two programs in sequence, one for linear arithmetic on an answer and
one for a fold. None of them looks at what the builder holds already or at the
linear combinations that go in.

The products are rows of every circuit the builder can still become, and
solving satisfies them, so what `Computes` says of a builder holds of all
those circuits: `Realizes`.
-/

namespace PreimageProof

/-! ## Appending products -/

namespace Builder

variable {b : Builder}

/-- The builder after one product for each rule. -/
def multipliedAll (b : Builder) (rules : List Derivation) : Builder := rules.foldl multiplied b

/-- The products of the rules hold, the first being the next internal variable
of the builder. -/
def Follows (b : Builder) : (rules : List Derivation) → (assign : Variable → Fr) → Prop
  | [], _ => True
  | rule :: rules, assign =>
      (productRow b.internals.size rule).Holds assign ∧ (b.multiplied rule).Follows rules assign

@[simp] theorem frozen_multipliedAll (b : Builder) (rules : List Derivation) :
    (b.multipliedAll rules).frozen = b.frozen := by
  induction rules generalizing b with
  | nil => rfl
  | cons rule rules ih => exact ih (b.multiplied rule)

theorem multipliedAll_append (b : Builder) (rules more : List Derivation) :
    b.multipliedAll (rules ++ more) = (b.multipliedAll rules).multipliedAll more :=
  List.foldl_append

theorem follows_append (b : Builder) (rules more : List Derivation) (assign : Variable → Fr) :
    b.Follows (rules ++ more) assign ↔
      b.Follows rules assign ∧ (b.multipliedAll rules).Follows more assign := by
  induction rules generalizing b with
  | nil => exact (iff_of_eq (true_and _)).symm
  | cons rule rules ih =>
      exact (and_congr_right fun _ => ih (b.multiplied rule)).trans and_assoc.symm

theorem extends_multipliedAll (b : Builder) (rules : List Derivation) :
    b.Extends (b.multipliedAll rules) := by
  induction rules generalizing b with
  | nil => exact .refl b
  | cons rule rules ih => exact (extends_multiplied b rule).trans (ih (b.multiplied rule))

theorem sizes_multipliedAll (b : Builder) (rules : List Derivation) :
    (b.multipliedAll rules).internals.size = b.internals.size + rules.length ∧
      (b.multipliedAll rules).constraints.size = b.constraints.size + rules.length := by
  induction rules generalizing b with
  | nil => exact ⟨rfl, rfl⟩
  | cons rule rules ih =>
      have hinternals : (b.multiplied rule).internals.size = b.internals.size + 1 :=
        Array.size_push _
      have hconstraints : (b.multiplied rule).constraints.size = b.constraints.size + 1 :=
        Array.size_push _
      have hrest := ih (b.multiplied rule)
      show ((b.multiplied rule).multipliedAll rules).internals.size = _ ∧
        ((b.multiplied rule).multipliedAll rules).constraints.size = _
      rw [List.length_cons]
      omega

/-- The appended constraints are the products, in any later builder, too. -/
theorem isProductRow_multipliedAll {later : Builder} {rules : List Derivation} {k : Nat}
    (hext : (b.multipliedAll rules).Extends later) (hk : b.constraints.size ≤ k)
    (hlt : k < b.constraints.size + rules.length) : later.IsProductRow k := by
  -- Either the row is the first product, or it is one of the rest from the next builder on.
  induction rules generalizing b with
  | nil => exact absurd hlt (Nat.not_lt.2 hk)
  | cons rule rules ih =>
      rcases Nat.eq_or_lt_of_le hk with rfl | hgt
      · exact (isProductRow_multiplied b rule).extend
          ((extends_multipliedAll (b.multiplied rule) rules).trans hext)
      · refine ih (b := b.multiplied rule) hext ?_ ?_
        · simpa [multiplied] using hgt
        · simp only [multiplied, Array.size_push]
          rw [List.length_cons] at hlt
          omega

/-- Where all constraints of a later builder hold, the products do. -/
theorem follows_of_holds {later : Builder} {rules : List Derivation} {assign : Variable → Fr}
    (hext : (b.multipliedAll rules).Extends later)
    (h : ∀ {k : Nat} {c : Constraint}, later.constraints[k]? = some c → c.Holds assign) :
    b.Follows rules assign := by
  induction rules generalizing b with
  | nil => trivial
  | cons rule rules ih =>
      refine ⟨?_, ih (b := b.multiplied rule) hext⟩
      have hlater := (extends_multipliedAll (b.multiplied rule) rules).trans hext
      exact h (hlater.constraint (k := b.constraints.size) (by simp [multiplied]))

end Builder

/-! ## Programs that compute a value -/

/-- On the builder, the program appends `products` products and nothing else,
and its answer has the given value wherever these products hold and the
constant is 1. -/
def Computes (b : Builder) (program : Build LinearCombination) (products : Nat)
    (value : (Variable → Fr) → Fr) : Prop :=
  ∃ out rules, program.on b = (.ok out, b.multipliedAll rules) ∧ rules.length = products ∧
    ∀ assign, assign Variable.one = 1 → b.Follows rules assign → out.value assign = value assign

section

variable {b b' : Builder} {n k : Nat}

theorem computes_pure (b : Builder) (out : LinearCombination) :
    Computes b (pure out) 0 out.value :=
  ⟨out, [], rfl, rfl, fun _ _ _ => rfl⟩

/-- A product, and a program that goes on with its variable. -/
theorem computes_mul_bind {g : (Variable → Fr) → Fr → Fr}
    {next : Variable → Build LinearCombination} (hb : b.frozen = false) (x y : LinearCombination)
    (hnext : ∀ (v : Variable) (b' : Builder), b'.frozen = false →
      Computes b' (next v) n fun assign => g assign (assign v)) :
    Computes b (Build.mul x y >>= next) (n + 1)
      fun assign => g assign (x.value assign * y.value assign) := by
  obtain ⟨out, rules, hrun, hlen, hvalue⟩ :=
    hnext ⟨.internal, b.internals.size⟩ (b.multiplied ⟨x, y⟩) hb
  refine ⟨out, ⟨x, y⟩ :: rules, ?_, congrArg (· + 1) hlen, fun assign hone hfollows => ?_⟩
  · rw [Build.bind_on_of_ok (Builder.mul_on hb x y), hrun]
    rfl
  · have hproduct := hfollows.1
    rw [Constraint.Holds, Builder.productRow, LinearCombination.value_ofVariable] at hproduct
    exact (hvalue assign hone hfollows.2).trans (congrArg (g assign) hproduct.symm)

/-- Two programs in sequence. -/
theorem Computes.bind {f : (Variable → Fr) → Fr} {g : (Variable → Fr) → Fr → Fr}
    {program : Build LinearCombination} {next : LinearCombination → Build LinearCombination}
    (h : Computes b program n f) (hb : b.frozen = false)
    (hnext : ∀ (out : LinearCombination) (b' : Builder), b'.frozen = false →
      Computes b' (next out) k fun assign => g assign (out.value assign)) :
    Computes b (program >>= next) (n + k) fun assign => g assign (f assign) := by
  obtain ⟨mid, rules, hrun, hlen, hvalue⟩ := h
  obtain ⟨out, more, hrun', hlen', hvalue'⟩ :=
    hnext mid (b.multipliedAll rules) (by rwa [Builder.frozen_multipliedAll])
  refine ⟨out, rules ++ more, ?_, ?_, fun assign hone hfollows => ?_⟩
  · rw [Build.bind_on_of_ok hrun, hrun', Builder.multipliedAll_append]
  · rw [List.length_append, hlen, hlen']
  · rw [Builder.follows_append] at hfollows
    exact (hvalue' assign hone hfollows.2).trans
      (congrArg (g assign) (hvalue assign hone hfollows.1))

theorem Computes.congr {f g : (Variable → Fr) → Fr} {program : Build LinearCombination}
    (h : Computes b program n f)
    (hfg : ∀ assign, assign Variable.one = 1 → f assign = g assign) :
    Computes b program n g := by
  obtain ⟨out, rules, hrun, hlen, hvalue⟩ := h
  refine ⟨out, rules, hrun, hlen, fun assign hone hfollows => ?_⟩
  rw [hvalue assign hone hfollows, hfg assign hone]

/-- A program and linear arithmetic on its answer. -/
theorem Computes.map {f g : (Variable → Fr) → Fr} {program : Build LinearCombination}
    {post : LinearCombination → LinearCombination} (h : Computes b program n f)
    (hpost : ∀ out assign, assign Variable.one = 1 → out.value assign = f assign →
      (post out).value assign = g assign) :
    Computes b (do return post (← program)) n g := by
  obtain ⟨out, rules, hrun, hlen, hvalue⟩ := h
  refine ⟨post out, rules, Build.bind_on_of_ok hrun, hlen, fun assign hone hfollows => ?_⟩
  exact hpost out assign hone (hvalue assign hone hfollows)

/-- Folding a program over a list, when each step computes its part. -/
theorem computes_foldlM {α : Type} {f : (Variable → Fr) → Fr → α → Fr}
    {step : LinearCombination → α → Build LinearCombination}
    (hstep : ∀ (state : LinearCombination) (x : α) (b : Builder), b.frozen = false →
      Computes b (step state x) n fun assign => f assign (state.value assign) x)
    (hb : b.frozen = false) (xs : List α) (state : LinearCombination) :
    Computes b (xs.foldlM step state) (n * xs.length)
      fun assign => xs.foldl (f assign) (state.value assign) := by
  induction xs generalizing b state with
  | nil => exact computes_pure b state
  | cons x xs ih =>
      rw [List.foldlM_cons, List.length_cons, Nat.mul_succ, Nat.add_comm]
      exact Computes.bind (g := fun assign y => xs.foldl (f assign) y) (hstep state x b hb) hb
        fun out b' hb' => ih hb' out

end

/-! ## In every circuit -/

/-- The program succeeds on the builder, appending `products` internal
variables and as many constraints. Whatever calls follow, in the completed
circuit the answer has the given value for every satisfying assignment, and
the constraints hold for the solved one, whatever the inputs. -/
def Realizes (b : Builder) (program : Build LinearCombination) (products : Nat)
    (value : (Variable → Fr) → Fr) : Prop :=
  ∃ out rules, program.on b = (.ok out, b.multipliedAll rules) ∧
    (b.multipliedAll rules).internals.size = b.internals.size + products ∧
    (b.multipliedAll rules).constraints.size = b.constraints.size + products ∧
    ∀ calls system, ((b.multipliedAll rules).afterAll calls).completion = .ok system →
      (∀ z, z.head? = some 1 → system.matrices.Satisfied z →
        out.value (system.shape.valuation z) = value (system.shape.valuation z)) ∧
      ∀ publics secrets z, publics.length + 1 = system.shape.publics →
        secrets.length = system.shape.secrets →
        z = system.solve (1 :: (publics ++ secrets)) →
        ∀ k, b.constraints.size ≤ k → k < b.constraints.size + products →
          ∃ row, system.matrices.rows[k]? = some row ∧
            row.1.value z.toArray * row.2.1.value z.toArray = row.2.2.value z.toArray

theorem Shape.valuation_one {shape : Shape} {z : List Fr} (h : z.head? = some 1) :
    shape.valuation z Variable.one = 1 := by
  obtain ⟨rest, rfl⟩ := List.head?_eq_some_iff.1 h
  rfl

theorem Computes.realizes {b : Builder} {program : Build LinearCombination} {n : Nat}
    {f : (Variable → Fr) → Fr} (h : Computes b program n f) : Realizes b program n f := by
  obtain ⟨out, rules, hrun, rfl, hvalue⟩ := h
  obtain ⟨hinternals, hconstraints⟩ := b.sizes_multipliedAll rules
  refine ⟨out, rules, hrun, hinternals, hconstraints, fun calls system hsystem => ?_⟩
  have hlowered := Builder.lowered (Builder.completion_eq_ok hsystem).2
  have hext := (b.multipliedAll rules).extends_afterAll calls
  refine ⟨fun z hone hz => ?_, fun publics secrets z hpublics hsecrets hsolve k hk hlt => ?_⟩
  · rw [hlowered.shape]
    refine hvalue _ (Shape.valuation_one hone) (Builder.follows_of_holds hext ?_)
    exact hlowered.satisfied_iff.1 hz
  · have hproduct := Builder.isProductRow_multipliedAll hext hk hlt
    have hinputs : (1 :: (publics ++ secrets)).length = system.shape.offset .internal := by
      rw [List.length_cons, List.length_append, Shape.offset]
      omega
    rw [hsolve]
    exact hlowered.solve_productRow hinputs hproduct

end PreimageProof
