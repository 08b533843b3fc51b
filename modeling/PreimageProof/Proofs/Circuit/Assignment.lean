import Mathlib
import PreimageProof.Proofs.Circuit.Solving

/-!
# The assignment of a circuit

For inputs of the right numbers `assign` decides whether the circuit has a
solution, and finds it when it has one: there is never a second. When it has
none, the row it reports is the first that the solved assignment violates. It
is a row the author of the circuit stated; a row that `mul` appended holds for
the solved assignment by construction.
-/

namespace PreimageProof

/-! ## Checking an assignment -/

namespace Matrices

variable {m : Matrices} {z : List Fr}

/-- The constraint of row `k` fails. -/
def Violates (m : Matrices) (z : List Fr) (k : Nat) : Prop :=
  ∃ row, m.rows[k]? = some row ∧
    row.1.value z.toArray * row.2.1.value z.toArray ≠ row.2.2.value z.toArray

theorem check_eq_ok_iff : m.check z = .ok () ↔ m.Satisfied z := by
  rw [check, Satisfied]
  cases h : m.rows.findIdx? (isViolated z.toArray) with
  | none =>
      refine iff_of_true rfl fun row hrow => ?_
      have hholds := List.findIdx?_eq_none_iff.1 h row hrow
      simpa [isViolated] using hholds
  | some k =>
      obtain ⟨hk, hviolated, -⟩ := List.findIdx?_eq_some_iff_getElem.1 h
      refine iff_of_false (by simp) fun hall => ?_
      have hholds := hall _ (List.getElem_mem hk)
      simp [isViolated, hholds] at hviolated

/-- An assignment that is refused is refused for the first row it violates. -/
theorem check_eq_error {e : Error} (h : m.check z = .error e) :
    ∃ k, e = .unsatisfied k ∧ IsLeast {k | m.Violates z k} k := by
  rw [check] at h
  cases hfind : m.rows.findIdx? (isViolated z.toArray) with
  | none =>
      rw [hfind] at h
      cases h
  | some k =>
      rw [hfind] at h
      cases h
      obtain ⟨hk, hviolated, hbefore⟩ := List.findIdx?_eq_some_iff_getElem.1 hfind
      refine ⟨k, rfl, ⟨_, List.getElem?_eq_getElem hk, by simpa [isViolated] using hviolated⟩, ?_⟩
      rintro j ⟨row, hj, hne⟩
      by_contra hlt
      obtain ⟨hj', rfl⟩ := List.getElem?_eq_some_iff.1 hj
      have hholds := hbefore j (Nat.lt_of_not_le hlt)
      simp [isViolated, hne] at hholds

theorem check_eq_error_iff {e : Error} :
    m.check z = .error e ↔ ∃ k, e = .unsatisfied k ∧ IsLeast {k | m.Violates z k} k := by
  refine ⟨check_eq_error, ?_⟩
  rintro ⟨k, rfl, hleast⟩
  cases hcheck : m.check z with
  | ok u =>
      obtain ⟨row, hrow, hviolated⟩ := hleast.1
      exact absurd (check_eq_ok_iff.1 hcheck row (List.mem_of_getElem? hrow)) hviolated
  | error e =>
      obtain ⟨j, rfl, hj⟩ := check_eq_error hcheck
      rw [hj.unique hleast]

end Matrices

/-! ## Solutions -/

namespace ConstraintSystem

/-- An assignment with the given inputs that satisfies every row. -/
structure Solution (system : ConstraintSystem) (secrets publics z : List Fr) : Prop where
  length_eq : z.length = system.shape.width
  inputs : 1 :: (publics ++ secrets) <+: z
  satisfied : system.matrices.Satisfied z

end ConstraintSystem

/-- What `assign` does with lists of the right lengths. -/
theorem assign_of_lengths {system : ConstraintSystem} {secrets publics : List Fr}
    (hpublics : publics.length = system.shape.publicInputs)
    (hsecrets : secrets.length = system.shape.secrets) :
    assign system secrets publics =
      (do
        system.check (system.solve (1 :: (publics ++ secrets)))
        return ⟨system.shape, system.solve (1 :: (publics ++ secrets))⟩) := by
  simp [assign, hpublics, hsecrets]

theorem assign_of_not_lengths {system : ConstraintSystem} {secrets publics : List Fr}
    (h : ¬ (publics.length = system.shape.publicInputs ∧
      secrets.length = system.shape.secrets)) :
    ∃ cause, assign system secrets publics = .error (.mismatch cause) := by
  rw [assign]
  by_cases hpublics : publics.length = system.shape.publicInputs
  · have hsecrets : secrets.length ≠ system.shape.secrets := fun hs => h ⟨hpublics, hs⟩
    exact ⟨.secretInputs system.shape.secrets secrets.length, by simp [hpublics, hsecrets]; rfl⟩
  · exact ⟨.publicInputs system.shape.publicInputs publics.length, by simp [hpublics]; rfl⟩

/-! ## Circuits of a history -/

namespace Builder

theorem afterAll_append (b : Builder) (before rest : List Call) :
    b.afterAll (before ++ rest) = (b.afterAll before).afterAll rest :=
  List.foldl_append

/-- The row that a call of `mul` appends is a product row of the circuit. -/
theorem isProductRow_of_mul {before rest : List Call} {x y : LinearCombination}
    (h : (empty.afterAll (before ++ .mul x y :: rest)).frozen = false) :
    (empty.afterAll (before ++ .mul x y :: rest)).IsProductRow
      (empty.afterAll before).constraints.size := by
  rw [afterAll_append] at h ⊢
  have hbefore := ((empty.afterAll before).extends_afterAll (.mul x y :: rest)).unfrozen h
  rw [afterAll, List.foldl_cons, after, mul_on hbefore]
  exact (isProductRow_multiplied _ _).extend (extends_afterAll _ rest)

end Builder

section

variable {b : Builder} {system : ConstraintSystem} {secrets publics : List Fr}

theorem Lowered.length_inputs (h : Lowered b system) (hb : b.Consistent)
    (hpublics : publics.length = system.shape.publicInputs)
    (hsecrets : secrets.length = system.shape.secrets) :
    (1 :: (publics ++ secrets)).length = system.shape.offset .internal := by
  have hpos : 0 < system.shape.publics := h.shape ▸ hb.publics_pos
  rw [List.length_cons, List.length_append, hpublics, hsecrets, Shape.publicInputs, Shape.offset]
  omega

/-- Solving leaves nothing to check but the rows. -/
theorem Lowered.check_solve (h : Lowered b system) (hb : b.Consistent)
    (hpublics : publics.length = system.shape.publicInputs)
    (hsecrets : secrets.length = system.shape.secrets) :
    system.check (system.solve (1 :: (publics ++ secrets))) =
      system.matrices.check (system.solve (1 :: (publics ++ secrets))) := by
  have hlen := h.length_solve (h.length_inputs hb hpublics hsecrets)
  obtain ⟨rest, hrest⟩ := prefix_extend system.derivations (1 :: (publics ++ secrets))
  have hhead : (system.solve (1 :: (publics ++ secrets))).head? = some 1 := by
    rw [solve_eq_extend, ← hrest]
    rfl
  simp [ConstraintSystem.check, hlen, hhead]

/-- A solution is what solving gives, if that satisfies the rows. -/
theorem Lowered.solution_iff (h : Lowered b system) (hb : b.Consistent)
    (hpublics : publics.length = system.shape.publicInputs)
    (hsecrets : secrets.length = system.shape.secrets) (z : List Fr) :
    system.Solution secrets publics z ↔
      z = system.solve (1 :: (publics ++ secrets)) ∧ system.matrices.Satisfied z := by
  have hinputs := h.length_inputs hb hpublics hsecrets
  constructor
  · intro hz
    exact ⟨h.eq_solve hb hinputs hz.inputs hz.length_eq hz.satisfied, hz.satisfied⟩
  · rintro ⟨rfl, hz⟩
    exact ⟨h.length_solve hinputs, prefix_extend _ _, hz⟩

theorem Lowered.assign_eq_ok_iff (h : Lowered b system) (hb : b.Consistent)
    (hpublics : publics.length = system.shape.publicInputs)
    (hsecrets : secrets.length = system.shape.secrets) (w : Witness) :
    assign system secrets publics = .ok w ↔
      w.shape = system.shape ∧ system.Solution secrets publics w.values := by
  rw [assign_of_lengths hpublics hsecrets, h.check_solve hb hpublics hsecrets,
    h.solution_iff hb hpublics hsecrets]
  cases hcheck : system.matrices.check (system.solve (1 :: (publics ++ secrets))) with
  | error e =>
      constructor
      · intro hok
        cases hok
      · rintro ⟨-, hvalues, hsat⟩
        rw [hvalues, ← Matrices.check_eq_ok_iff, hcheck] at hsat
        cases hsat
  | ok u =>
      have hsat := Matrices.check_eq_ok_iff.1 hcheck
      constructor
      · intro hok
        cases hok
        exact ⟨rfl, rfl, hsat⟩
      · rintro ⟨hshape, hvalues, -⟩
        obtain ⟨shape, values⟩ := w
        cases hshape
        cases hvalues
        rfl

/-- The inputs of an assignment that was found come first, after the constant. -/
theorem Lowered.values_of_assign (h : Lowered b system) (hb : b.Consistent) {w : Witness}
    (hw : assign system secrets publics = .ok w) :
    w.shape = system.shape ∧ publics.length = system.shape.publicInputs ∧
      ∃ rest, w.values = 1 :: (publics ++ (secrets ++ rest)) := by
  by_cases hlengths : publics.length = system.shape.publicInputs ∧
      secrets.length = system.shape.secrets
  · obtain ⟨hshape, hsolution⟩ := (h.assign_eq_ok_iff hb hlengths.1 hlengths.2 w).1 hw
    obtain ⟨rest, hrest⟩ := hsolution.inputs
    exact ⟨hshape, hlengths.1, rest, by rw [← hrest, List.cons_append, List.append_assoc]⟩
  · obtain ⟨cause, hcause⟩ := assign_of_not_lengths hlengths
    rw [hcause] at hw
    cases hw

theorem Lowered.publicProjection_of_assign (h : Lowered b system) (hb : b.Consistent) {w : Witness}
    (hw : assign system secrets publics = .ok w) : w.publicProjection = ⟨publics⟩ := by
  obtain ⟨hshape, hlength, rest, hvalues⟩ := h.values_of_assign hb hw
  obtain ⟨n, hn⟩ : ∃ n, system.shape.publics = n + 1 :=
    Nat.exists_eq_add_one_of_ne_zero (h.shape ▸ hb.publics_pos.ne')
  rw [Shape.publicInputs, hn, Nat.add_sub_cancel] at hlength
  rw [Witness.publicProjection, hshape, hn, hvalues, List.take_succ_cons, List.drop_one,
    List.tail_cons, ← hlength, List.take_left]

/-- What is refused is refused for the first row the solved assignment violates. -/
theorem Lowered.of_assign_eq_error (h : Lowered b system) (hb : b.Consistent)
    (hpublics : publics.length = system.shape.publicInputs)
    (hsecrets : secrets.length = system.shape.secrets) {e : Error}
    (herror : assign system secrets publics = .error e) :
    ∃ k, e = .unsatisfied k ∧
      IsLeast {k | system.matrices.Violates (system.solve (1 :: (publics ++ secrets))) k} k := by
  rw [assign_of_lengths hpublics hsecrets, h.check_solve hb hpublics hsecrets] at herror
  cases hcheck : system.matrices.check (system.solve (1 :: (publics ++ secrets))) with
  | ok u =>
      rw [hcheck] at herror
      cases herror
  | error e' =>
      rw [hcheck] at herror
      cases herror
      exact Matrices.check_eq_error hcheck

end

/-- Assigning finds the only solution of a circuit or reports the first row
that stands in the way of one. -/
theorem assign_finds_only_solution {calls : List Call} {system : ConstraintSystem}
    (hsystem : (Builder.empty.afterAll calls).completion = .ok system)
    (secrets publics : List Fr) :
    ((∃ cause, assign system secrets publics = .error (.mismatch cause)) ↔
      ¬ (publics.length = system.shape.publics - 1 ∧
        secrets.length = system.shape.secrets)) ∧
    (publics.length = system.shape.publics - 1 → secrets.length = system.shape.secrets →
      system.solve? (1 :: (publics ++ secrets)) =
        some (system.solve (1 :: (publics ++ secrets))) ∧
      ((∃ w, assign system secrets publics = .ok w) ↔
        ∃ z, system.Solution secrets publics z) ∧
      (∀ w, assign system secrets publics = .ok w →
        w.shape = system.shape ∧ ∀ z, system.Solution secrets publics z ↔ z = w.values) ∧
      ((¬ ∃ z, system.Solution secrets publics z) →
        ∃ k, assign system secrets publics = .error (.unsatisfied k) ∧
          IsLeast {k | system.matrices.Violates (system.solve (1 :: (publics ++ secrets))) k} k ∧
          ∀ before x y rest, calls = before ++ .mul x y :: rest →
            k ≠ (Builder.empty.afterAll before).constraints.size)) := by
  obtain ⟨hfrozen, hlowered⟩ := Builder.completion_eq_ok hsystem
  have h := Builder.lowered hlowered
  have hb := Builder.consistent_empty.afterAll calls
  refine ⟨⟨?_, fun hne => assign_of_not_lengths hne⟩, fun hpublics hsecrets => ?_⟩
  · rintro ⟨cause, hcause⟩ ⟨hpublics, hsecrets⟩
    obtain ⟨k, hk, -⟩ := h.of_assign_eq_error hb hpublics hsecrets hcause
    cases hk
  · have hok := h.assign_eq_ok_iff hb hpublics hsecrets
    have hsolution := h.solution_iff hb hpublics hsecrets
    have hinputs := h.length_inputs hb hpublics hsecrets
    refine ⟨h.solve?_eq hinputs, ⟨?_, ?_⟩, fun w hw => ?_, fun hnone => ?_⟩
    · rintro ⟨w, hw⟩
      exact ⟨w.values, ((hok w).1 hw).2⟩
    · rintro ⟨z, hz⟩
      exact ⟨⟨system.shape, z⟩, (hok _).2 ⟨rfl, hz⟩⟩
    · obtain ⟨hshape, hvalues⟩ := (hok w).1 hw
      refine ⟨hshape, fun z => ⟨fun hz => ?_, fun hz => hz ▸ hvalues⟩⟩
      rw [((hsolution z).1 hz).1, ((hsolution w.values).1 hvalues).1]
    · cases hassign : assign system secrets publics with
      | ok w => exact absurd ⟨w.values, ((hok w).1 hassign).2⟩ hnone
      | error e =>
          obtain ⟨k, rfl, hleast⟩ := h.of_assign_eq_error hb hpublics hsecrets hassign
          refine ⟨k, rfl, hleast, ?_⟩
          -- The row of a call of `mul` holds for the solved assignment, so it is not this one.
          rintro before x y rest rfl rfl
          obtain ⟨row, hrow, hviolated⟩ := hleast.1
          obtain ⟨row', hrow', hholds⟩ :=
            h.solve_productRow hinputs (Builder.isProductRow_of_mul hfrozen)
          rw [hrow] at hrow'
          cases hrow'
          exact hviolated hholds

/-- A secret `x`, a public `y` and the constraint that `y` is the square of `x`. -/
def squareCalls : List Call :=
  [.allocate .secret,
    .mul (.ofVariable ⟨.secret, 0⟩) (.ofVariable ⟨.secret, 0⟩),
    .allocate .statement,
    .assertEqual (.ofVariable ⟨.statement, 1⟩) (.ofVariable ⟨.internal, 0⟩)]

def squareSystem : ConstraintSystem where
  shape := ⟨2, 2, 1, 1⟩
  matrices :=
    { a := [[(1, 2)], [(1, 1), (-1, 3)]]
      b := [[(1, 2)], [(1, 0)]]
      c := [[(1, 3)], []] }
  derivations := [([(1, 2)], [(1, 2)])]

theorem squareSystem_built : squareSystem.Built := ⟨squareCalls, by rfl⟩

theorem squareSystem_only_solution :
    (Builder.empty.afterAll squareCalls).completion = .ok squareSystem ∧
      (∃ z, squareSystem.Solution [3] [9] z) ∧ ¬ ∃ z, squareSystem.Solution [3] [8] z := by
  have hbuilt : (Builder.empty.afterAll squareCalls).completion = .ok squareSystem := by rfl
  refine ⟨hbuilt, ?_, fun hz => ?_⟩
  · obtain ⟨-, hright⟩ := assign_finds_only_solution hbuilt [3] [9]
    exact (hright rfl rfl).2.1.1 ⟨⟨squareSystem.shape, [1, 9, 3, 9]⟩, by rfl⟩
  · obtain ⟨-, hright⟩ := assign_finds_only_solution hbuilt [3] [8]
    obtain ⟨w, hw⟩ := (hright rfl rfl).2.1.2 hz
    have herror : assign squareSystem [3] [8] = .error (.unsatisfied 1) := by rfl
    rw [herror] at hw
    cases hw

end PreimageProof
