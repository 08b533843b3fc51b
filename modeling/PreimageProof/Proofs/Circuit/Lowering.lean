import Mathlib
import PreimageProof.Proofs.Circuit.History
import PreimageProof.Proofs.Outcome
import PreimageProof.Proofs.Polynomial.Divisibility

/-!
# What completing a circuit gives

A completed circuit is its builder with every variable replaced by its place.
Evaluating a row is therefore evaluating the linear combination it came from,
where a variable has the value at its place, and row `k` of the matrices holds
exactly when constraint `k` does. The rules become rows that read nothing at
or behind the place they are for.
-/

namespace PreimageProof

/-! ## Places -/

namespace Shape

/-- The place where the variables of a role begin. -/
def offset (shape : Shape) : Role → Nat
  | .statement => 0
  | .secret => shape.publics
  | .internal => shape.publics + shape.secrets

/-- The place of a variable in an assignment. -/
def place (shape : Shape) (v : Variable) : Nat := shape.offset v.role + v.index

/-- The values that an assignment gives to the variables. -/
def valuation (shape : Shape) (z : List Fr) (v : Variable) : Fr := z.getD (shape.place v) 0

end Shape

theorem Builder.offset_eq (b : Builder) (role : Role) : b.offset role = b.shape.offset role := by
  cases role <;> rfl

namespace LinearCombination

/-- The row of a linear combination. -/
def row (lc : LinearCombination) (shape : Shape) : Row :=
  lc.terms.map fun t => (t.2, shape.place t.1)

theorem value_row (lc : LinearCombination) (shape : Shape) (z : List Fr) :
    (lc.row shape).value z.toArray = lc.value (shape.valuation z) := by
  rw [Row.value, row, List.map_map, value]
  refine congrArg List.sum (List.map_congr_left fun t _ => ?_)
  show t.2 * z.toArray.getD (shape.place t.1) 0 = t.2 * z.getD (shape.place t.1) 0
  rw [getD_toArray]

end LinearCombination

namespace Constraint

/-- The three rows of a constraint. -/
def rows (c : Constraint) (shape : Shape) : Row × Row × Row :=
  (c.a.row shape, c.b.row shape, c.c.row shape)

/-- The constraint holds when the variables have the given values. -/
def Holds (c : Constraint) (assign : Variable → Fr) : Prop :=
  c.a.value assign * c.b.value assign = c.c.value assign

theorem rows_hold_iff (c : Constraint) (shape : Shape) (z : List Fr) :
    (c.rows shape).1.value z.toArray * (c.rows shape).2.1.value z.toArray =
      (c.rows shape).2.2.value z.toArray ↔ c.Holds (shape.valuation z) := by
  simp only [rows, Holds, LinearCombination.value_row]

end Constraint

/-! ## The completed circuit -/

namespace Builder

variable {b : Builder}

theorem lower_eq {lc : LinearCombination} {row : Row} (h : b.lower lc = .ok row) :
    row = lc.row b.shape := by
  refine eq_map_of_mapM_eq_ok (fun {t entry} ht => ?_) h
  rw [globalIndex] at ht
  split at ht
  · cases ht
    rw [offset_eq]
    rfl
  · cases ht

/-- A rule that is accepted becomes the rows of its two factors, and they read
only places before its variable. -/
theorem lowerDerivation_eq {i : Nat} {rule : Option Derivation} {rows : Row × Row}
    (h : b.lowerDerivation i rule = .ok rows) :
    ∃ d, rule = some d ∧ rows = (d.a.row b.shape, d.b.row b.shape) ∧
      ∀ entry ∈ rows.1 ++ rows.2, entry.2 < b.publics + b.secrets + i := by
  cases rule with
  | none => cases h
  | some d =>
      rw [lowerDerivation] at h
      obtain ⟨left, ha, h⟩ := of_bind_eq_ok h
      obtain ⟨right, hb, h⟩ := of_bind_eq_ok h
      split at h
      · cases h
      · next hearlier =>
          cases h
          refine ⟨d, rfl, by rw [lower_eq ha, lower_eq hb], fun entry hentry => ?_⟩
          -- A place that is not before the variable would have been reported.
          by_contra hge
          exact hearlier (List.any_eq_true.2
            ⟨entry, hentry, decide_eq_true (Nat.le_of_not_lt hge)⟩)

theorem lowerConstraint_eq {c : Constraint} {rows : Row × Row × Row}
    (h : b.lowerConstraint c = .ok rows) : rows = c.rows b.shape := by
  rw [lowerConstraint] at h
  obtain ⟨left, ha, h⟩ := of_bind_eq_ok h
  obtain ⟨right, hb, h⟩ := of_bind_eq_ok h
  obtain ⟨out, hc, h⟩ := of_bind_eq_ok h
  cases h
  rw [lower_eq ha, lower_eq hb, lower_eq hc]
  rfl

end Builder

/-- The builder and the system it was completed to. -/
structure Lowered (b : Builder) (system : ConstraintSystem) : Prop where
  shape : system.shape = b.shape
  matrices : system.matrices.rows = b.constraints.toList.map fun c => c.rows b.shape
  aligned : system.matrices.Aligned system.shape.constraints
  rules : system.derivations.length = system.shape.internals
  rule : ∀ {i : Nat} {rows : Row × Row}, system.derivations[i]? = some rows →
    ∃ d, b.internals[i]? = some (some d) ∧ rows = (d.a.row b.shape, d.b.row b.shape)
  earlier : ∀ {i : Nat} {rows : Row × Row}, system.derivations[i]? = some rows →
    ∀ entry ∈ rows.1 ++ rows.2, entry.2 < system.shape.offset .internal + i

theorem Matrices.rows_unzip (rows : List (Row × Row × Row)) :
    Matrices.rows ⟨rows.map (·.1), rows.map (·.2.1), rows.map (·.2.2)⟩ = rows := by
  simp [Matrices.rows, List.zip_map']

/-- Nothing of a matrix is lost when all have as many rows. -/
theorem Matrices.Aligned.map_rows {m : Matrices} {n : Nat} (h : m.Aligned n) :
    m.rows.map (·.1) = m.a ∧ m.rows.map (·.2.1) = m.b ∧ m.rows.map (·.2.2) = m.c := by
  obtain ⟨ha, hb, hc⟩ := h
  have hsnd : m.rows.map (·.2) = m.b.zip m.c := List.map_snd_zip (by simp [ha, hb, hc])
  have hmid : (m.b.zip m.c).map (·.1) = m.b := List.map_fst_zip (by simp [hb, hc])
  have hlast : (m.b.zip m.c).map (·.2) = m.c := List.map_snd_zip (by simp [hb, hc])
  rw [← hsnd, List.map_map] at hmid hlast
  exact ⟨List.map_fst_zip (by simp [ha, hb, hc]), hmid, hlast⟩

theorem Matrices.Aligned.forall_mem {m : Matrices} {n : Nat} (h : m.Aligned n) {P : Row → Prop}
    (hrows : ∀ row ∈ m.rows, P row.1 ∧ P row.2.1 ∧ P row.2.2) :
    ∀ row ∈ m.a ++ m.b ++ m.c, P row := by
  obtain ⟨ha, hb, hc⟩ := h.map_rows
  rw [List.forall_mem_append, List.forall_mem_append, ← ha, ← hb, ← hc,
    List.forall_mem_map, List.forall_mem_map, List.forall_mem_map]
  exact ⟨⟨fun row hrow => (hrows row hrow).1, fun row hrow => (hrows row hrow).2.1⟩,
    fun row hrow => (hrows row hrow).2.2⟩

theorem Builder.lowered {b : Builder} {system : ConstraintSystem} (h : b.system = .ok system) :
    Lowered b system := by
  rw [Builder.system] at h
  obtain ⟨derivations, hds, h⟩ := of_bind_eq_ok h
  obtain ⟨rows, hrows, h⟩ := of_bind_eq_ok h
  cases h
  obtain ⟨hlen, hentries⟩ := of_mapM_eq_ok hds
  have hrule : ∀ {i : Nat} {rows : Row × Row}, derivations[i]? = some rows →
      ∃ d, b.internals[i]? = some (some d) ∧ rows = (d.a.row b.shape, d.b.row b.shape) ∧
        ∀ entry ∈ rows.1 ++ rows.2, entry.2 < b.publics + b.secrets + i := by
    intro i rows hi
    obtain ⟨x, hx, hok⟩ := hentries hi
    obtain ⟨d, hd, hrest⟩ := lowerDerivation_eq hok
    rw [List.getElem?_zipIdx, Option.map_eq_some_iff] at hx
    obtain ⟨rule, hget, rfl⟩ := hx
    refine ⟨d, ?_, by simpa using hrest⟩
    rw [← Array.getElem?_toList, hget, ← hd]
  have hcount : rows.length = b.constraints.size := (of_mapM_eq_ok hrows).1.trans (by simp)
  exact {
    shape := rfl
    matrices := by
      rw [Matrices.rows_unzip]
      exact eq_map_of_mapM_eq_ok lowerConstraint_eq hrows
    aligned := by
      refine ⟨?_, ?_, ?_⟩ <;> exact (List.length_map _).trans hcount
    rules := hlen.trans (by simp [shape])
    rule := fun hi => by
      obtain ⟨d, hd, hrows, -⟩ := hrule hi
      exact ⟨d, hd, hrows⟩
    earlier := fun hi => by
      obtain ⟨_, _, _, hlt⟩ := hrule hi
      exact hlt }

/-! ## Rows and constraints -/

namespace Lowered

variable {b : Builder} {system : ConstraintSystem} {z : List Fr}

theorem row (h : Lowered b system) {k : Nat} {c : Constraint}
    (hk : b.constraints[k]? = some c) : system.matrices.rows[k]? = some (c.rows b.shape) := by
  rw [h.matrices, List.getElem?_map, Array.getElem?_toList, hk]
  rfl

/-- An assignment satisfies the rows exactly when every constraint holds. -/
theorem satisfied_iff (h : Lowered b system) :
    system.matrices.Satisfied z ↔
      ∀ {k : Nat} {c : Constraint}, b.constraints[k]? = some c → c.Holds (b.shape.valuation z) := by
  rw [Matrices.Satisfied, h.matrices]
  constructor
  · intro hz k c hk
    have hmem : c ∈ b.constraints.toList :=
      List.mem_of_getElem? (by rwa [Array.getElem?_toList])
    exact (c.rows_hold_iff b.shape z).1 (hz _ (List.mem_map_of_mem hmem))
  · intro hz row hrow
    obtain ⟨c, hc, rfl⟩ := List.mem_map.1 hrow
    obtain ⟨k, hk⟩ := List.mem_iff_getElem?.1 hc
    rw [Array.getElem?_toList] at hk
    exact (c.rows_hold_iff b.shape z).2 (hz hk)

end Lowered

end PreimageProof
