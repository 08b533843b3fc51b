import Mathlib
import PreimageProof.Proofs.Circuit.Layout

/-!
# Linear combinations are a canonical form

The terms of a linear combination are increasing in their variables and have
coefficients other than zero, so they can be read off its coefficients, and
its coefficients off its values. Hence neither the terms nor the row they
become depend on how a combination was written, only on what it is worth.

That the terms have this form costs nothing at runtime. No operation other
than adding a term looks for zeros: negation and scaling work on the stored
coefficients in place, which is right because the scalars have no zero
divisors.
-/

namespace PreimageProof

/-- A list whose keys increase strictly is determined by its members. -/
theorem eq_of_increasing {α β : Type} [LT β] (irrefl : ∀ k : β, ¬ k < k)
    (trans : ∀ {k l m : β}, k < l → l < m → k < m) (key : α → β) {xs ys : List α}
    (hx : xs.Pairwise fun x y => key x < key y) (hy : ys.Pairwise fun x y => key x < key y)
    (h : ∀ a, a ∈ xs ↔ a ∈ ys) : xs = ys := by
  have : Std.Irrefl fun x y => key x < key y := ⟨fun x => irrefl (key x)⟩
  have : Std.Antisymm fun x y => key x < key y :=
    ⟨fun x _ hxy hyx => absurd (trans hxy hyx) (irrefl (key x))⟩
  exact hx.eq_of_mem_iff hy h

/-! ## Terms and coefficients -/

theorem Ordered.nodup {terms : List Term} (h : Ordered terms) : (terms.map Prod.fst).Nodup :=
  List.pairwise_map.2 (h.imp fun {s t} hlt (heq : s.1 = t.1) =>
    Variable.lt_irrefl t.1 (heq ▸ hlt))

namespace LinearCombination

variable {a b : LinearCombination} {v : Variable} {c : Fr}

theorem eq_of_terms_eq (h : a.terms = b.terms) : a = b := by
  cases a
  cases b
  cases h
  rfl

theorem coefficient_of_mem (h : (v, c) ∈ a.terms) : a.coefficient v = c := by
  rw [coefficient]
  cases hfind : a.terms.find? fun t => t.1 = v with
  | none => exact absurd (List.find?_eq_none.1 hfind _ h) (by simp)
  | some t =>
      have hv : t.1 = v := by simpa using List.find?_some hfind
      have ht := List.inj_on_of_nodup_map a.ordered.nodup (List.mem_of_find?_eq_some hfind) h hv
      rw [ht]
      rfl

theorem mem_terms_iff : (v, c) ∈ a.terms ↔ c ≠ 0 ∧ a.coefficient v = c := by
  constructor
  · intro h
    exact ⟨a.nonzero _ h, coefficient_of_mem h⟩
  · rintro ⟨hc, rfl⟩
    obtain ⟨t, ht, rfl⟩ := coefficient_ne_zero_iff.1 hc
    rwa [coefficient_of_mem ht]

theorem eq_iff_coefficient : a = b ↔ ∀ v, a.coefficient v = b.coefficient v := by
  constructor
  · rintro rfl v
    rfl
  · intro h
    refine eq_of_terms_eq (eq_of_increasing Variable.lt_irrefl Variable.lt_trans Prod.fst
      a.ordered b.ordered fun t => ?_)
    rw [mem_terms_iff, mem_terms_iff, h]

/-- A variable's coefficient is the value when it is 1 and all others are 0. -/
theorem value_single (a : LinearCombination) (v : Variable) :
    a.value (Pi.single v 1) = a.coefficient v := by
  have hmap : (a.terms.map fun t => t.2 * (Pi.single v 1 : Variable → Fr) t.1).sum =
      ((a.terms.find? fun t => t.1 = v).map Prod.snd).getD 0 := by
    have hnodup := a.ordered.nodup
    generalize a.terms = terms at hnodup
    induction terms with
    | nil => rfl
    | cons t rest ih =>
        rw [List.map_cons, List.nodup_cons] at hnodup
        rw [List.map_cons, List.sum_cons, ih hnodup.2]
        by_cases hv : t.1 = v
        · have hrest : rest.find? (fun s => s.1 = v) = none := by
            refine List.find?_eq_none.2 fun s hs hsv => hnodup.1 ?_
            have hsv : s.1 = v := by simpa using hsv
            exact hv ▸ hsv ▸ List.mem_map_of_mem hs
          simp [hv, hrest]
        · simp [hv]
  exact hmap

theorem eq_iff_value : a = b ↔ ∀ assign, a.value assign = b.value assign := by
  constructor
  · rintro rfl assign
    rfl
  · intro h
    refine eq_iff_coefficient.2 fun v => ?_
    rw [← value_single, ← value_single, h]

theorem length_terms (a : LinearCombination) :
    a.terms.length = {v | a.coefficient v ≠ 0}.ncard := by
  have hset : {v | a.coefficient v ≠ 0} = ((a.terms.map Prod.fst).toFinset : Set Variable) := by
    ext v
    simp [coefficient_ne_zero_iff]
  rw [hset, Set.ncard_coe_finset, List.toFinset_card_of_nodup a.ordered.nodup, List.length_map]

theorem terms_eq_nil_iff : a.terms = [] ↔ ∀ v, a.coefficient v = 0 := by
  rw [List.eq_nil_iff_forall_not_mem]
  constructor
  · intro h v
    by_contra hv
    obtain ⟨t, ht, -⟩ := coefficient_ne_zero_iff.1 hv
    exact h t ht
  · intro h t ht
    exact coefficient_ne_zero_iff.2 ⟨t, ht, rfl⟩ (h t.1)

/-! ## Scaling in place -/

theorem terms_scale (a : LinearCombination) (c : Fr) :
    (a.scale c).terms = if c = 0 then [] else a.terms.map fun t => (t.1, t.2 * c) := by
  rw [scale]
  split
  · next hc =>
      refine List.filter_eq_nil_iff.2 (List.forall_mem_map.2 fun t _ => ?_)
      simp [hc]
  · next hc =>
      refine List.filter_eq_self.2 (List.forall_mem_map.2 fun t ht => ?_)
      exact decide_eq_true (mul_ne_zero (a.nonzero t ht) hc)

@[simp] theorem value_scale (assign : Variable → Fr) (a : LinearCombination) (c : Fr) :
    (a.scale c).value assign = a.value assign * c := by
  rw [value, terms_scale]
  split
  · next hc => simp [hc]
  · rw [List.map_map, value, ← List.sum_map_mul_right]
    exact congrArg List.sum (List.map_congr_left fun t _ => mul_right_comm t.2 c (assign t.1))

/-! ## The row -/

/-- The row in terms of the coefficients alone. -/
theorem mem_row_iff {shape : Shape} {column : Nat} :
    (c, column) ∈ a.row shape ↔ c ≠ 0 ∧ ∃ v, shape.place v = column ∧ a.coefficient v = c := by
  rw [row, List.mem_map]
  constructor
  · rintro ⟨⟨v, c'⟩, ht, heq⟩
    obtain ⟨rfl, rfl⟩ := Prod.mk.inj heq
    exact ⟨(mem_terms_iff.1 ht).1, v, rfl, (mem_terms_iff.1 ht).2⟩
  · rintro ⟨hc, v, rfl, hv⟩
    exact ⟨(v, c), mem_terms_iff.2 ⟨hc, hv⟩, rfl⟩

end LinearCombination

theorem Row.Tidy.eq_of_mem_iff {row row' : Row} {width width' : Nat} (h : row.Tidy width)
    (h' : row'.Tidy width') (hmem : ∀ entry, entry ∈ row ↔ entry ∈ row') : row = row' :=
  eq_of_increasing Nat.lt_irrefl Nat.lt_trans Prod.snd h.increasing h'.increasing hmem

/-- Lowering succeeds when all coefficients are on variables of the builder,
and these coefficients leave no choice for the row. -/
theorem Builder.lower_eq_ok_iff_coefficient {b : Builder} {lc : LinearCombination} {row : Row} :
    b.lower lc = .ok row ↔ (∀ v, lc.coefficient v ≠ 0 → b.HandedOut v) ∧
      row.Tidy b.shape.width ∧ ∀ c column, (c, column) ∈ row ↔
        c ≠ 0 ∧ ∃ v, b.shape.place v = column ∧ lc.coefficient v = c := by
  rw [Builder.lower_eq_ok_iff, ← LinearCombination.over_iff]
  refine and_congr_right fun hover => ?_
  constructor
  · rintro rfl
    exact ⟨tidy_row hover, fun _ _ => LinearCombination.mem_row_iff⟩
  · rintro ⟨htidy, hmem⟩
    refine htidy.eq_of_mem_iff (tidy_row hover) fun entry => ?_
    rw [hmem, LinearCombination.mem_row_iff]

/-! ## Combinations as they are written -/

/-- The ways of writing a linear combination. -/
inductive LinearExpression where
  | zero
  | constant (c : Fr)
  | term (v : Variable) (c : Fr)
  | addTerm (e : LinearExpression) (v : Variable) (c : Fr)
  | add (e f : LinearExpression)
  | addVariable (e : LinearExpression) (v : Variable)
  | sub (e f : LinearExpression)
  | neg (e : LinearExpression)
  | scale (e : LinearExpression) (c : Fr)

namespace LinearExpression

/-- The combination that the operations build. -/
def combination : LinearExpression → LinearCombination
  | zero => .zero
  | constant c => .constant c
  | term v c => .ofTerm v c
  | addTerm e v c => e.combination.addTerm v c
  | add e f => e.combination + f.combination
  | addVariable e v => e.combination.addTerm v 1
  | sub e f => e.combination - f.combination
  | neg e => -e.combination
  | scale e c => e.combination.scale c

/-- What is stored when the operations work on bare lists, and only those that
add a term look for zeros. -/
def stored : LinearExpression → List Term
  | zero => []
  | constant c => LinearCombination.insertTerm .one c []
  | term v c => LinearCombination.insertTerm v c []
  | addTerm e v c => LinearCombination.insertTerm v c e.stored
  | add e f => f.stored.foldl (fun sum t => LinearCombination.insertTerm t.1 t.2 sum) e.stored
  | addVariable e v => LinearCombination.insertTerm v 1 e.stored
  | sub e f =>
      (f.stored.map fun t => (t.1, -t.2)).foldl
        (fun sum t => LinearCombination.insertTerm t.1 t.2 sum) e.stored
  | neg e => e.stored.map fun t => (t.1, -t.2)
  | scale e c => if c = 0 then [] else e.stored.map fun t => (t.1, t.2 * c)

/-- What is written, read in the field: every operation is that of the field. -/
def value (assign : Variable → Fr) : LinearExpression → Fr
  | zero => 0
  | constant c => c * assign .one
  | term v c => c * assign v
  | addTerm e v c => e.value assign + c * assign v
  | add e f => e.value assign + f.value assign
  | addVariable e v => e.value assign + assign v
  | sub e f => e.value assign - f.value assign
  | neg e => -e.value assign
  | scale e c => e.value assign * c

/-- What is written about a variable: the value when it is 1 and all others
are 0. -/
def coefficient (e : LinearExpression) (v : Variable) : Fr := e.value (Pi.single v 1)

variable {e f : LinearExpression}

theorem terms_foldl_addTerm (terms : List Term) (a : LinearCombination) :
    (terms.foldl (fun sum t => sum.addTerm t.1 t.2) a).terms =
      terms.foldl (fun sum t => LinearCombination.insertTerm t.1 t.2 sum) a.terms := by
  induction terms generalizing a with
  | nil => rfl
  | cons t rest ih => exact ih (a.addTerm t.1 t.2)

/-- The invariant is kept without ever being restored. -/
theorem terms_combination (e : LinearExpression) : e.combination.terms = e.stored := by
  induction e with
  | zero => rfl
  | constant c => rfl
  | term v c => rfl
  | addTerm e v c ih => rw [stored, ← ih]; rfl
  | add e f ihe ihf =>
      rw [stored, ← ihe, ← ihf]
      exact terms_foldl_addTerm f.combination.terms e.combination
  | addVariable e v ih => rw [stored, ← ih]; rfl
  | sub e f ihe ihf =>
      rw [stored, ← ihe, ← ihf]
      exact terms_foldl_addTerm (-f.combination).terms e.combination
  | neg e ih => rw [stored, ← ih]; rfl
  | scale e c ih => rw [stored, ← ih]; exact LinearCombination.terms_scale e.combination c

theorem value_combination (assign : Variable → Fr) (e : LinearExpression) :
    e.combination.value assign = e.value assign := by
  induction e with
  | zero => exact LinearCombination.value_zero assign
  | constant c => exact LinearCombination.value_constant assign c
  | term v c => exact LinearCombination.value_ofTerm assign v c
  | addTerm e v c ih => rw [combination, value, LinearCombination.value_addTerm, ih]
  | add e f ihe ihf => rw [combination, value, LinearCombination.value_add, ihe, ihf]
  | addVariable e v ih => rw [combination, value, LinearCombination.value_addTerm, ih, one_mul]
  | sub e f ihe ihf => rw [combination, value, LinearCombination.value_sub, ihe, ihf]
  | neg e ih => rw [combination, value, LinearCombination.value_neg, ih]
  | scale e c ih => rw [combination, value, LinearCombination.value_scale, ih]

theorem coefficient_combination (e : LinearExpression) (v : Variable) :
    e.combination.coefficient v = e.coefficient v := by
  rw [coefficient, ← value_combination, LinearCombination.value_single]

theorem stored_eq_iff : e.stored = f.stored ↔ e.combination = f.combination := by
  rw [← terms_combination, ← terms_combination]
  exact ⟨LinearCombination.eq_of_terms_eq, congrArg LinearCombination.terms⟩

end LinearExpression

open LinearExpression in
/-- Whatever is written has its terms in canonical form and is worth what was
written. What is stored, how long it is and the row it becomes are then
determined by the coefficients, in whatever order and grouping the operations
arrived at them. -/
theorem linear_combinations_canonical (e f : LinearExpression) :
    (e.combination.terms = e.stored ∧ Ordered e.stored ∧ (e.stored.map Prod.fst).Nodup ∧
      ∀ t ∈ e.stored, t.2 ≠ 0) ∧
    (∀ assign, e.combination.value assign = e.value assign) ∧
    (∀ v, e.combination.coefficient v = e.coefficient v) ∧
    (e.combination = f.combination ↔ ∀ v, e.coefficient v = f.coefficient v) ∧
    (e.stored = f.stored ↔ ∀ assign, e.value assign = f.value assign) ∧
    e.stored.length = {v | e.coefficient v ≠ 0}.ncard ∧
    (e.stored.isEmpty = true ↔ ∀ v, e.coefficient v = 0) ∧
    ∀ (b : Builder) (row : Row), b.lower e.combination = .ok row ↔
      (∀ v, e.coefficient v ≠ 0 → b.HandedOut v) ∧ row.Tidy b.shape.width ∧
        ∀ c column, (c, column) ∈ row ↔
          c ≠ 0 ∧ ∃ v, b.shape.place v = column ∧ e.coefficient v = c := by
  have hordered : Ordered e.stored := terms_combination e ▸ e.combination.ordered
  refine ⟨⟨terms_combination e, hordered, hordered.nodup, ?nonzero⟩,
    fun assign => value_combination assign e, coefficient_combination e,
    ?coefficients, ?values, ?length, ?empty, fun b row => ?row⟩
  case nonzero => exact terms_combination e ▸ e.combination.nonzero
  case coefficients =>
    simp only [LinearCombination.eq_iff_coefficient, coefficient_combination]
  case values =>
    simp only [stored_eq_iff, LinearCombination.eq_iff_value, value_combination]
  case length =>
    simp only [← terms_combination, LinearCombination.length_terms, coefficient_combination]
  case empty =>
    rw [List.isEmpty_iff, ← terms_combination, LinearCombination.terms_eq_nil_iff]
    simp only [coefficient_combination]
  case row =>
    simp only [Builder.lower_eq_ok_iff_coefficient, coefficient_combination]

/-- A variable that cancels leaves no trace in `(x + 2 * y) - x`, which is
stored as `y * 2` is. -/
theorem cancelled_sum_canonical :
    (LinearExpression.sub (.add (.term ⟨.secret, 0⟩ 1) (.term ⟨.secret, 1⟩ 2))
      (.term ⟨.secret, 0⟩ 1)).stored = (LinearExpression.scale (.term ⟨.secret, 1⟩ 1) 2).stored ∧
    (LinearExpression.scale (.term ⟨.secret, 1⟩ 1) 2).stored = [(⟨.secret, 1⟩, 2)] := by
  refine ⟨(linear_combinations_canonical _ _).2.2.2.2.1.2 fun assign => ?_, by decide⟩
  simp only [LinearExpression.value]
  ring

end PreimageProof
