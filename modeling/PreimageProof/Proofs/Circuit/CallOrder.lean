import Mathlib
import PreimageProof.Proofs.Circuit.History

/-!
# The order of calls

A history fills four lists: the variables of each role, the internal ones with
their rules, and the constraints. A call that returns a variable adds to the
list of its role, a call that states a constraint to that of the constraints,
and `mul` does both. Each list is known from the calls that add to it, in
their order; how calls that add to different lists are interleaved leaves no
trace.

The constraints are the one list that seems to depend on another, because the
constraint of a product names its variable. But the number of that variable
counts the internal variables before it, and these are known from the calls
for internal variables alone.
-/

namespace PreimageProof

namespace Call

/-- The role of the variable that a call returns. -/
def declares : Call → Option Role
  | .allocate role => some role
  | .mul _ _ => some .internal
  | .constrain _ _ _ | .assertEqual _ _ | .finalize => none

/-- Whether a call states a constraint. -/
def constrains : Call → Bool
  | .constrain _ _ _ | .assertEqual _ _ | .mul _ _ => true
  | .allocate _ | .finalize => false

/-- The rule of the variable that a call returns. -/
def rule : Call → Option Derivation
  | .mul x y => some ⟨x, y⟩
  | _ => none

/-- The calls that return a variable of a role. -/
def declarations (role : Role) (calls : List Call) : List Call :=
  calls.filter fun call => call.declares = some role

/-- The calls that state a constraint. -/
def statements (calls : List Call) : List Call := calls.filter constrains

/-- Two histories agree on the order within each role and on the order of the
constraints. -/
structure SameOrders (calls calls' : List Call) : Prop where
  declarations : ∀ role, declarations role calls = declarations role calls'
  statements : statements calls = statements calls'

end Call

open Call (declarations statements SameOrders)

namespace Builder

/-! ## Builders that stay open -/

/-- What a call makes of a builder, when nothing is frozen. -/
def grown (b : Builder) : Call → Builder
  | .allocate role => b.allocated role
  | .constrain x y z => b.constrained ⟨x, y, z⟩
  | .assertEqual x y => b.constrained ⟨x - y, .ofVariable .one, 0⟩
  | .mul x y => b.multiplied ⟨x, y⟩
  | .finalize => b

def grownAll (b : Builder) (calls : List Call) : Builder := calls.foldl grown b

variable {b : Builder} {call : Call} {calls calls' : List Call}

theorem grownAll_cons : b.grownAll (call :: calls) = (b.grown call).grownAll calls := rfl

@[simp] theorem frozen_grown : (b.grown call).frozen = b.frozen := by
  cases call with
  | allocate role => cases role <;> rfl
  | constrain x y z => rfl
  | assertEqual x y => rfl
  | mul x y => rfl
  | finalize => rfl

@[simp] theorem frozen_grownAll : (b.grownAll calls).frozen = b.frozen := by
  induction calls generalizing b with
  | nil => rfl
  | cons call calls ih => rw [grownAll_cons, ih, frozen_grown]

theorem after_eq_grown_of_ne (hb : b.frozen = false) (h : call ≠ .finalize) :
    b.after call = b.grown call := by
  cases call with
  | allocate role => rw [after, allocate_on hb, grown]
  | constrain x y z => rw [after, constrain_on hb, grown]
  | assertEqual x y => rw [after, Build.assertEqual, constrain_on hb, grown]
  | mul x y => rw [after, mul_on hb, grown]
  | finalize => exact absurd rfl h

theorem after_eq_grown (h : (b.after call).frozen = false) : b.after call = b.grown call := by
  have hb : b.frozen = false := (step_after b call).extends.unfrozen h
  by_cases hcall : call = .finalize
  · subst hcall
    -- Completing the circuit would have frozen the builder.
    cases hsystem : b.system with
    | error e => rw [after, finalize_on_of_error hb hsystem, grown]
    | ok system =>
        rw [after, finalize_on_of_ok hb hsystem] at h
        cases h
  · exact after_eq_grown_of_ne hb hcall

theorem afterAll_cons : b.afterAll (call :: calls) = (b.after call).afterAll calls := rfl

theorem afterAll_eq_grownAll (h : (b.afterAll calls).frozen = false) :
    b.afterAll calls = b.grownAll calls := by
  induction calls generalizing b with
  | nil => rfl
  | cons call calls ih =>
      rw [afterAll_cons] at h ⊢
      have hcall := ((b.after call).extends_afterAll calls).unfrozen h
      rw [ih h, after_eq_grown hcall, grownAll_cons]

theorem unfrozen_afterAll_of_not_mem (hb : b.frozen = false) (h : Call.finalize ∉ calls) :
    (b.afterAll calls).frozen = false := by
  induction calls generalizing b with
  | nil => exact hb
  | cons call calls ih =>
      rw [List.mem_cons, not_or] at h
      have hcall := after_eq_grown_of_ne hb (Ne.symm h.1)
      exact ih (by rw [hcall, frozen_grown, hb]) h.2

/-! ## The four lists -/

theorem declarations_cons_of (role : Role) (h : call.declares = some role) :
    declarations role (call :: calls) = call :: declarations role calls :=
  List.filter_cons_of_pos (by simpa using h)

theorem declarations_cons_of_ne (role : Role) (h : call.declares ≠ some role) :
    declarations role (call :: calls) = declarations role calls :=
  List.filter_cons_of_neg (by simpa using h)

theorem declarations_cons_of_none (role : Role) (h : call.declares = none) :
    declarations role (call :: calls) = declarations role calls :=
  declarations_cons_of_ne role (by simp [h])

theorem statements_cons_of (h : call.constrains = true) :
    statements (call :: calls) = call :: statements calls :=
  List.filter_cons_of_pos h

theorem statements_cons_of_not (h : call.constrains = false) :
    statements (call :: calls) = statements calls :=
  List.filter_cons_of_neg (by simp [h])

theorem count_grown_of (role : Role) (h : call.declares = some role) :
    (b.grown call).count role = b.count role + 1 := by
  cases call with
  | allocate other =>
      obtain rfl : other = role := Option.some.inj h
      cases other <;> simp [grown, allocated, count]
  | constrain x y z => cases h
  | assertEqual x y => cases h
  | mul x y =>
      obtain rfl : Role.internal = role := Option.some.inj h
      simp [grown, multiplied, count]
  | finalize => cases h

theorem count_grown_of_ne (role : Role) (h : call.declares ≠ some role) :
    (b.grown call).count role = b.count role := by
  cases call with
  | allocate other =>
      cases other <;> cases role <;> first | rfl | exact absurd rfl h
  | constrain x y z => cases role <;> rfl
  | assertEqual x y => cases role <;> rfl
  | mul x y => cases role <;> first | rfl | exact absurd rfl h
  | finalize => rfl

theorem count_grownAll (role : Role) :
    (b.grownAll calls).count role = b.count role + (declarations role calls).length := by
  induction calls generalizing b with
  | nil => rfl
  | cons call calls ih =>
      by_cases h : call.declares = some role
      · rw [grownAll_cons, ih, count_grown_of role h, declarations_cons_of role h,
          List.length_cons, Nat.add_assoc, Nat.add_comm 1]
      · rw [grownAll_cons, ih, count_grown_of_ne role h, declarations_cons_of_ne role h]

theorem internals_grownAll :
    (b.grownAll calls).internals.toList =
      b.internals.toList ++ (declarations .internal calls).map Call.rule := by
  induction calls generalizing b with
  | nil => simp [grownAll, declarations]
  | cons call calls ih =>
      rw [grownAll_cons, ih]
      cases call with
      | allocate role =>
          cases role with
          | internal =>
              rw [declarations_cons_of .internal rfl]
              simp [grown, allocated, Call.rule]
          | statement => rw [declarations_cons_of_ne .internal (by decide)]; rfl
          | secret => rw [declarations_cons_of_ne .internal (by decide)]; rfl
      | constrain x y z => rw [declarations_cons_of_none .internal rfl]; rfl
      | assertEqual x y => rw [declarations_cons_of_none .internal rfl]; rfl
      | mul x y =>
          rw [declarations_cons_of .internal rfl]
          simp [grown, multiplied, Call.rule]
      | finalize => rw [declarations_cons_of_none .internal rfl]; rfl

/-- The numbers of the products among calls for internal variables, the first of
which gets the number `first`. -/
def productNumbers (first : Nat) : List Call → List Nat
  | [] => []
  | call :: calls =>
      if call.rule.isSome then first :: productNumbers (first + 1) calls
      else productNumbers (first + 1) calls

/-- The constraints that calls state, the variables of products having the given
numbers. -/
def recorded : List Nat → List Call → List Constraint
  | numbers, .constrain x y z :: calls => ⟨x, y, z⟩ :: recorded numbers calls
  | numbers, .assertEqual x y :: calls =>
      ⟨x - y, .ofVariable .one, 0⟩ :: recorded numbers calls
  | n :: numbers, .mul x y :: calls => productRow n ⟨x, y⟩ :: recorded numbers calls
  | _, _ => []

theorem constraints_grownAll :
    (b.grownAll calls).constraints.toList = b.constraints.toList ++
      recorded (productNumbers b.internals.size (declarations .internal calls))
        (statements calls) := by
  induction calls generalizing b with
  | nil => simp [grownAll, recorded, statements]
  | cons call calls ih =>
      rw [grownAll_cons, ih]
      cases call with
      | allocate role =>
          rw [statements_cons_of_not rfl]
          cases role with
          | internal =>
              rw [declarations_cons_of .internal rfl]
              simp [grown, allocated, productNumbers, Call.rule]
          | statement => rw [declarations_cons_of_ne .internal (by decide)]; rfl
          | secret => rw [declarations_cons_of_ne .internal (by decide)]; rfl
      | constrain x y z =>
          rw [statements_cons_of rfl, declarations_cons_of_none .internal rfl]
          simp [grown, constrained, recorded]
      | assertEqual x y =>
          rw [statements_cons_of rfl, declarations_cons_of_none .internal rfl]
          simp [grown, constrained, recorded]
      | mul x y =>
          rw [statements_cons_of rfl, declarations_cons_of .internal rfl]
          simp [grown, multiplied, productNumbers, recorded, Call.rule]
      | finalize =>
          rw [statements_cons_of_not rfl, declarations_cons_of_none .internal rfl]
          rfl

/-! ## Histories that differ in the order only -/

theorem grownAll_eq_of_sameOrders (h : SameOrders calls calls') :
    b.grownAll calls = b.grownAll calls' := by
  have hcount : ∀ role, (b.grownAll calls).count role = (b.grownAll calls').count role :=
    fun role => by rw [count_grownAll, count_grownAll, h.declarations role]
  have hinternals : (b.grownAll calls).internals = (b.grownAll calls').internals := by
    rw [← Array.toList_inj, internals_grownAll, internals_grownAll, h.declarations]
  have hconstraints : (b.grownAll calls).constraints = (b.grownAll calls').constraints := by
    rw [← Array.toList_inj, constraints_grownAll, constraints_grownAll, h.declarations,
      h.statements]
  have hfrozen : (b.grownAll calls).frozen = (b.grownAll calls').frozen := by
    rw [frozen_grownAll, frozen_grownAll]
  exact Builder.mk.injEq .. ▸
    ⟨hcount .statement, hcount .secret, hinternals, hconstraints, hfrozen⟩

/-- The same calls in another order leave the same builder, as long as the order
within each role and that of the constraints are kept. -/
theorem afterAll_eq_of_sameOrders (h : SameOrders calls calls')
    (hopen : (b.afterAll calls).frozen = false) (hopen' : (b.afterAll calls').frozen = false) :
    b.afterAll calls' = b.afterAll calls := by
  rw [afterAll_eq_grownAll hopen, afterAll_eq_grownAll hopen', grownAll_eq_of_sameOrders h]

end Builder

end PreimageProof
