import Mathlib
import PreimageProof.Proofs.Circuit.Lowering

/-!
# Solving a circuit

The internal values are pushed one after the other, each the product of two
rows over what is already there. So the solved assignment obeys every rule,
and an assignment with the same inputs that obeys every rule is the solved
one: its entries are forced in the same order. The constraint that `mul` made
for a variable says that its rule is obeyed, which is why an assignment that
satisfies all rows has no freedom left.

Rows treat a place without a value as zero. No rule comes to that: `solve?`
gives up at such a place, and it agrees with `solve`.
-/

namespace PreimageProof

/-! ## Rows on part of an assignment -/

theorem Row.value_of_start {row : Row} {z w : List Fr} (hstart : z <+: w)
    (hrow : ∀ entry ∈ row, entry.2 < z.length) :
    row.value w.toArray = row.value z.toArray := by
  obtain ⟨rest, rfl⟩ := hstart
  refine congrArg List.sum (List.map_congr_left fun entry hentry => ?_)
  rw [getD_toArray, getD_toArray, List.getD_append _ _ _ _ (hrow entry hentry)]

/-- The value of a row, if there is a value at every place it reads. -/
def Row.value? (row : Row) (z : Array Fr) : Option Fr :=
  List.sum <$> row.mapM fun entry => (entry.1 * ·) <$> z[entry.2]?

theorem Row.value?_eq {row : Row} {z : Array Fr} (hrow : ∀ entry ∈ row, entry.2 < z.size) :
    row.value? z = some (row.value z) := by
  have hmap : row.mapM (fun entry => (entry.1 * ·) <$> z[entry.2]?) =
      some (row.map fun entry => entry.1 * z.getD entry.2 0) := by
    induction row with
    | nil => rfl
    | cons entry row ih =>
        have hentry : z[entry.2]? = some (z.getD entry.2 0) := by
          have hlt := hrow entry List.mem_cons_self
          simp [Array.getD_eq_getD_getElem?, hlt]
        rw [List.mapM_cons, hentry, ih fun e he => hrow e (List.mem_cons_of_mem _ he)]
        rfl
  rw [value?, hmap]
  rfl

/-! ## Rules in order -/

/-- Rule `i` reads only places before `first + i`. -/
def Earlier (first : Nat) (rules : List (Row × Row)) : Prop :=
  ∀ (i : Nat) (rule : Row × Row), rules[i]? = some rule →
    ∀ entry ∈ rule.1 ++ rule.2, entry.2 < first + i

/-- The value at place `first + i` is the product that rule `i` says. -/
def Obeys (first : Nat) (rules : List (Row × Row)) (z : List Fr) : Prop :=
  ∀ (i : Nat) (rule : Row × Row), rules[i]? = some rule →
    z.getD (first + i) 0 = rule.1.value z.toArray * rule.2.value z.toArray

/-- Push the value of each rule in turn. -/
def extend (rules : List (Row × Row)) (z : List Fr) : List Fr :=
  (rules.foldl (fun z d => z.push (d.1.value z * d.2.value z)) z.toArray).toList

theorem solve_eq_extend (system : ConstraintSystem) (inputs : List Fr) :
    system.solve inputs = extend system.derivations inputs := rfl

theorem extend_cons (rule : Row × Row) (rules : List (Row × Row)) (z : List Fr) :
    extend (rule :: rules) z =
      extend rules (z ++ [rule.1.value z.toArray * rule.2.value z.toArray]) := by
  rw [extend, List.foldl_cons, List.push_toArray]
  rfl

section

variable {first : Nat} {rule : Row × Row} {rules : List (Row × Row)} {z w : List Fr}

theorem Earlier.head (h : Earlier first (rule :: rules)) :
    (∀ entry ∈ rule.1, entry.2 < first) ∧ ∀ entry ∈ rule.2, entry.2 < first := by
  have hrule := h 0 rule rfl
  exact ⟨fun e he => hrule e (List.mem_append_left _ he),
    fun e he => hrule e (List.mem_append_right _ he)⟩

theorem Earlier.next (h : Earlier z.length (rule :: rules)) (x : Fr) :
    Earlier (z ++ [x]).length rules := by
  intro i rule' hi entry hentry
  have hlt := h (i + 1) rule' hi entry hentry
  rw [List.length_append, List.length_singleton]
  omega

theorem Obeys.next (h : Obeys z.length (rule :: rules) w) (x : Fr) :
    Obeys (z ++ [x]).length rules w := by
  intro i rule' hi
  rw [List.length_append, List.length_singleton, Nat.add_right_comm]
  exact h (i + 1) rule' hi

theorem prefix_extend (rules : List (Row × Row)) (z : List Fr) : z <+: extend rules z := by
  induction rules generalizing z with
  | nil => exact List.prefix_rfl
  | cons rule rules ih =>
      rw [extend_cons]
      exact (List.prefix_append _ _).trans (ih _)

theorem length_extend (rules : List (Row × Row)) (z : List Fr) :
    (extend rules z).length = z.length + rules.length := by
  induction rules generalizing z with
  | nil => rfl
  | cons rule rules ih =>
      rw [extend_cons, ih, List.length_append, List.length_singleton, List.length_cons]
      omega

/-- What is pushed obeys its rule, and nothing that comes later changes that. -/
theorem obeys_extend (h : Earlier z.length rules) : Obeys z.length rules (extend rules z) := by
  -- The values so far vary with the rules that are left; `out` is what they all end up in.
  induction rules generalizing z with
  | nil =>
      intro i rule hi
      cases hi
  | cons rule rules ih =>
      rw [extend_cons]
      have hrest := ih (z := z ++ [rule.1.value z.toArray * rule.2.value z.toArray])
        (h.next _)
      have hstart := prefix_extend rules (z ++ [rule.1.value z.toArray * rule.2.value z.toArray])
      generalize extend rules (z ++ [rule.1.value z.toArray * rule.2.value z.toArray]) = out
        at hrest hstart
      intro i rule' hi
      cases i with
      | zero =>
          cases hi
          have hz : z <+: out := (List.prefix_append _ _).trans hstart
          rw [Row.value_of_start hz h.head.1, Row.value_of_start hz h.head.2]
          obtain ⟨rest, rfl⟩ := hstart
          simp
      | succ i =>
          have hnext := hrest i rule' hi
          rw [List.length_append, List.length_singleton] at hnext
          rw [← hnext]
          congr 1
          omega

/-- Nothing else obeys the rules. -/
theorem eq_extend (h : Earlier z.length rules) (hstart : z <+: w)
    (hlen : w.length = z.length + rules.length) (hobeys : Obeys z.length rules w) :
    w = extend rules z := by
  -- The first rule forces the entry of `w` behind `z`, and the rest starts from there.
  induction rules generalizing z with
  | nil => exact (hstart.eq_of_length hlen.symm).symm
  | cons rule rules ih =>
      have hvalue := hobeys 0 rule rfl
      rw [Nat.add_zero, Row.value_of_start hstart h.head.1,
        Row.value_of_start hstart h.head.2] at hvalue
      have hlt : z.length < w.length := by
        rw [hlen, List.length_cons]
        omega
      rw [extend_cons, ← hvalue]
      have hnext : z ++ [w.getD z.length 0] <+: w := by
        obtain ⟨rest, rfl⟩ := hstart
        cases rest with
        | nil => simp at hlt
        | cons x rest => exact ⟨rest, by simp⟩
      refine ih (h.next _) hnext ?_ (hobeys.next _)
      rw [hlen, List.length_append, List.length_singleton, List.length_cons]
      omega

/-- As `extend`, without an answer where a place without a value is read. -/
def extend? (rules : List (Row × Row)) (z : List Fr) : Option (List Fr) :=
  Array.toList <$> rules.foldlM
    (fun z d => return z.push ((← d.1.value? z) * (← d.2.value? z))) z.toArray

theorem extend?_eq (h : Earlier z.length rules) : extend? rules z = some (extend rules z) := by
  induction rules generalizing z with
  | nil => rfl
  | cons rule rules ih =>
      rw [extend?, List.foldlM_cons, Row.value?_eq h.head.1, Row.value?_eq h.head.2, extend_cons,
        ← ih (h.next _)]
      show Array.toList <$> List.foldlM _ (z.toArray.push _) rules = _
      rw [List.push_toArray]
      rfl

end

/-- As `solve`, without an answer where a place without a value is read. -/
def ConstraintSystem.solve? (system : ConstraintSystem) (inputs : List Fr) : Option (List Fr) :=
  extend? system.derivations inputs

/-! ## Rows and rules of a completed circuit -/

namespace Lowered

variable {b : Builder} {system : ConstraintSystem} {z : List Fr}

theorem product_holds_iff (h : Lowered b system) {i : Nat} {d : Derivation}
    (hd : b.internals[i]? = some (some d)) :
    (Builder.productRow i d).Holds (b.shape.valuation z) ↔
      ∀ {rule : Row × Row}, system.derivations[i]? = some rule →
        z.getD (system.shape.offset .internal + i) 0 =
          rule.1.value z.toArray * rule.2.value z.toArray := by
  have hplace : b.shape.valuation z ⟨.internal, i⟩ =
      z.getD (system.shape.offset .internal + i) 0 := by
    rw [h.shape]
    rfl
  rw [Constraint.Holds, Builder.productRow, LinearCombination.value_ofVariable, hplace]
  constructor
  · intro hholds rule hrule
    obtain ⟨d', hd', rfl⟩ := h.rule hrule
    rw [hd] at hd'
    cases hd'
    rw [LinearCombination.value_row, LinearCombination.value_row, hholds]
  · intro hobeys
    have hi : i < system.derivations.length := by
      rw [h.rules, h.shape]
      exact (Array.getElem?_eq_some_iff.1 hd).1
    obtain ⟨d', hd', hrule⟩ := h.rule (List.getElem?_eq_getElem hi)
    rw [hd] at hd'
    cases hd'
    have hvalue := hobeys (List.getElem?_eq_getElem hi)
    rw [hrule, LinearCombination.value_row, LinearCombination.value_row] at hvalue
    exact hvalue.symm

/-- Whoever satisfies the rows obeys the rules. -/
theorem obeys (h : Lowered b system) (hb : b.Consistent) (hz : system.matrices.Satisfied z) :
    Obeys (system.shape.offset .internal) system.derivations z := by
  intro i rule hrule
  obtain ⟨d, hd, -⟩ := h.rule hrule
  obtain ⟨k, hk⟩ := hb.product_row hd
  exact (h.product_holds_iff hd).1 (h.satisfied_iff.1 hz hk) hrule

/-- The constraints that `mul` made hold for whoever obeys the rules. -/
theorem productRow_holds (h : Lowered b system)
    (hz : Obeys (system.shape.offset .internal) system.derivations z) {k : Nat}
    (hk : b.IsProductRow k) {c : Constraint} (hc : b.constraints[k]? = some c) :
    c.Holds (b.shape.valuation z) := by
  obtain ⟨i, d, hd, hproduct⟩ := hk
  rw [hc] at hproduct
  cases hproduct
  exact (h.product_holds_iff hd).2 fun hrule => hz i _ hrule

variable {inputs : List Fr}

theorem length_solve (h : Lowered b system)
    (hinputs : inputs.length = system.shape.offset .internal) :
    (system.solve inputs).length = system.shape.width := by
  rw [solve_eq_extend, length_extend, hinputs, h.rules]
  rfl

theorem obeys_solve (h : Lowered b system)
    (hinputs : inputs.length = system.shape.offset .internal) :
    Obeys (system.shape.offset .internal) system.derivations (system.solve inputs) := by
  rw [solve_eq_extend, ← hinputs]
  exact obeys_extend fun _ _ hi => hinputs ▸ h.earlier hi

theorem eq_solve (h : Lowered b system) (hb : b.Consistent)
    (hinputs : inputs.length = system.shape.offset .internal) (hstart : inputs <+: z)
    (hlen : z.length = system.shape.width) (hz : system.matrices.Satisfied z) :
    z = system.solve inputs := by
  rw [solve_eq_extend]
  refine eq_extend (fun _ _ hi => hinputs ▸ h.earlier hi) hstart ?_ (hinputs ▸ h.obeys hb hz)
  rw [hlen, hinputs, h.rules]
  rfl

/-- The rows that `mul` appended hold for the solved assignment. -/
theorem solve_productRow (h : Lowered b system)
    (hinputs : inputs.length = system.shape.offset .internal) {k : Nat} (hk : b.IsProductRow k) :
    ∃ row, system.matrices.rows[k]? = some row ∧
      row.1.value (system.solve inputs).toArray * row.2.1.value (system.solve inputs).toArray =
        row.2.2.value (system.solve inputs).toArray := by
  obtain ⟨i, rule, -, hc⟩ := id hk
  refine ⟨_, h.row hc, ?_⟩
  exact (Constraint.rows_hold_iff _ _ _).2 (h.productRow_holds (h.obeys_solve hinputs) hk hc)

theorem solve?_eq (h : Lowered b system)
    (hinputs : inputs.length = system.shape.offset .internal) :
    system.solve? inputs = some (system.solve inputs) :=
  extend?_eq (fun _ _ hi => hinputs ▸ h.earlier hi)

end Lowered

end PreimageProof
