import Mathlib
import PreimageProof.Proofs.Groth16.Completeness
import PreimageProof.Proofs.Groth16.Verdict
import PreimageProof.Proofs.Polynomial.Columns

/-!
# The reference string

A setup adds up rows, each weighted by the Lagrange basis at its place, and
scales, splits and renumbers what comes out. Nothing of that is in the
description of the keys: they are the values, at the secret point, of the
polynomials through the columns of the matrices. Column `j` of the first
matrix has one entry more for a public variable, a 1 in the row behind the
constraints that belongs to it.

The setup fails when there is nothing to prove, when no domain is large
enough, when it would have to divide by zero, or when the secret point lies in
the domain.
-/

namespace PreimageProof

open Polynomial
open SourceOps (generate)
open QuadraticProgram (columnPolynomial interpolates_columnPolynomial)

/-! ## The domain of a circuit -/

namespace Domain

theorem ceilLog2_eq_clog (n : Nat) : ceilLog2 n = Nat.clog 2 n :=
  eq_of_forall_ge_iff fun k => (ceilLog2_le_iff n k).trans (Nat.clog_le_iff_le_pow one_lt_two).symm

theorem ofRows?_of_lt {rows : Nat} (h : 2 ^ 28 < rows) : ofRows? rows = none :=
  dif_neg fun hle => h.not_ge ((ceilLog2_le_iff rows 28).1 hle)

theorem ofRows?_of_le {rows : Nat} (h : rows ≤ 2 ^ 28) :
    ∃ d, ofRows? rows = some d ∧ d.size = 2 ^ Nat.clog 2 rows := by
  have hle : ceilLog2 rows ≤ Fr.twoAdicity := (ceilLog2_le_iff rows 28).2 h
  exact ⟨⟨ceilLog2 rows, hle⟩, dif_pos hle, by rw [size_eq, ← ceilLog2_eq_clog]⟩

variable {shape : Shape}

theorem ofShape_of_lt (h : 2 ^ 28 < shape.constraints + shape.publics) :
    ofShape shape = .error (.noDomain (shape.constraints + shape.publics)) := by
  rw [ofShape, ofRows?_of_lt h]

/-- The domain of a shape is the smallest with room for its rows. -/
theorem ofShape_of_le (h : shape.constraints + shape.publics ≤ 2 ^ 28) :
    ∃ d, ofShape shape = .ok d ∧
      d.size = 2 ^ Nat.clog 2 (shape.constraints + shape.publics) := by
  obtain ⟨d, hd, hsize⟩ := ofRows?_of_le h
  exact ⟨d, by rw [ofShape, hd], hsize⟩

end Domain

/-- The size of the smallest domain with room for the rows of a shape. -/
def Shape.domainSize (shape : Shape) : Nat := 2 ^ Nat.clog 2 (shape.constraints + shape.publics)

/-! ## When a setup fails -/

/-- There is nothing to prove or no domain for it, or the secrets are of no use. -/
def SetupFails (shape : Shape) (t : Trapdoor) : Prop :=
  shape.constraints = 0 ∨ 2 ^ 28 < shape.constraints + shape.publics ∨
    t.gamma = 0 ∨ t.delta = 0 ∨ t.tau ^ shape.domainSize = 1

section

variable {G₁ G₂ : Type} [SourceOps G₁] [SourceOps G₂] {system : ConstraintSystem} {d : Domain}
  {t : Trapdoor}

theorem usable_iff (hsize : d.size = system.shape.domainSize) :
    t.Usable d ↔ t.gamma ≠ 0 ∧ t.delta ≠ 0 ∧ t.tau ^ system.shape.domainSize ≠ 1 := by
  rw [← hsize, ← d.vanishing_ne_zero_iff]
  exact ⟨fun h => ⟨h.1, h.2, h.3⟩, fun h => ⟨h.1, h.2.1, h.2.2⟩⟩

/-- A setup fails with an error of its own, or it gives the keys of its secrets. -/
theorem setup_cases (G₁ G₂ : Type) [SourceOps G₁] [SourceOps G₂] (system : ConstraintSystem)
    (t : Trapdoor) :
    (SetupFails system.shape t ∧
      ∃ cause, (setup system t : Except Error (Keys G₁ G₂)) = .error (.setup cause)) ∨
    (¬ SetupFails system.shape t ∧
      ∃ d, Domain.ofShape system.shape = .ok d ∧ d.size = system.shape.domainSize ∧
        t.Usable d ∧ setup system t = .ok (keysOf system d G₁ G₂ t)) := by
  by_cases hrows : system.shape.constraints = 0
  · exact .inl ⟨.inl hrows, _, if_pos hrows⟩
  by_cases hlarge : 2 ^ 28 < system.shape.constraints + system.shape.publics
  · exact .inl ⟨.inr (.inl hlarge), _, by rw [setup, if_neg hrows, Domain.ofShape_of_lt hlarge]⟩
  obtain ⟨d, hd, hsize⟩ := Domain.ofShape_of_le (not_lt.1 hlarge)
  by_cases husable : t.Usable d
  · refine .inr ⟨?_, d, hd, hsize, husable, (setup_eq_ok_iff hrows hd).2 ⟨husable, rfl⟩⟩
    simp only [SetupFails, not_or]
    exact ⟨hrows, hlarge, (usable_iff hsize).1 husable⟩
  · refine .inl ⟨.inr (.inr ?_), ?_⟩
    · rw [usable_iff hsize] at husable
      tauto
    · rw [setup_of_domain hrows hd]
      cases hkeys : (deriveKeys system d t : Except SetupError (Keys G₁ G₂)) with
      | ok keys => exact absurd (usable_of_deriveKeys hkeys) husable
      | error cause => exact ⟨cause, rfl⟩

end

/-! ## The polynomials of the columns -/

section

variable {d : Domain}

theorem columnValues_eq (rows : List Row) (width : Nat) {tau : Fr} (htau : d.vanishing tau ≠ 0) :
    QuadraticProgram.columnValues width rows (d.lagrange tau) =
      (List.range width).map fun j => (columnPolynomial d rows j).eval tau := by
  have hlength := QuadraticProgram.length_columnValues width rows (d.lagrange tau)
  refine List.ext_getElem (by simp [hlength]) fun j hj _ => ?_
  rw [← List.getD_eq_getElem _ 0 hj, QuadraticProgram.getD_columnValues rows (hlength ▸ hj) htau,
    List.getElem_map, List.getElem_range]

theorem mixedColumns_eq {system : ConstraintSystem} {t : Trapdoor} (htau : d.vanishing t.tau ≠ 0) :
    mixedColumns system d t = (List.range system.shape.width).map (mixtureAt system d t) := by
  have hlength := length_mixedColumns system d t
  refine List.ext_getElem (by simp [hlength]) fun j hj _ => ?_
  rw [← List.getD_eq_getElem _ 0 hj, getD_mixedColumns htau (hlength ▸ hj), List.getElem_map,
    List.getElem_range]

end

namespace ConstraintSystem

/-- The entry of column `j` of the first matrix in row `i`, where each public
variable has a row of its own behind the constraints. -/
def entryA (system : ConstraintSystem) (j i : Nat) : Fr :=
  if i < system.shape.constraints then (system.matrices.a.getD i []).entry j
  else if j < system.shape.publics ∧ i = system.shape.constraints + j then 1 else 0

def entryB (system : ConstraintSystem) (j i : Nat) : Fr := (system.matrices.b.getD i []).entry j

def entryC (system : ConstraintSystem) (j i : Nat) : Fr := (system.matrices.c.getD i []).entry j

theorem entry_extendedA {system : ConstraintSystem}
    (haligned : system.matrices.Aligned system.shape.constraints) (i j : Nat) :
    ((system.matrices.extendedA system.shape.publics).getD i []).entry j = system.entryA j i := by
  rw [Matrices.extendedA, entryA, ← haligned.1]
  split
  · next h => rw [List.getD_append _ _ _ _ h]
  · next h =>
      rw [List.getD_append_right _ _ _ _ (not_lt.1 h)]
      rcases Nat.lt_or_ge (i - system.matrices.a.length) system.shape.publics with hlt | hge
      · have hiff : i - system.matrices.a.length = j ↔
            j < system.shape.publics ∧ i = system.matrices.a.length + j := by omega
        simp [hlt, Row.entry_cons, hiff]
      · rw [List.getD_eq_default _ _ (by simpa using hge), Row.entry_nil, if_neg (by omega)]

end ConstraintSystem

/-! ## The keys -/

/-- The keys of the secrets `t` for a circuit whose columns have the polynomials
`A`, `B` and `C`. -/
structure Keys.ReferenceString {G₁ G₂ : Type} [SourceOps G₁] [SourceOps G₂]
    (keys : Keys G₁ G₂) (system : ConstraintSystem) (t : Trapdoor) (A B C : Nat → Fr[X]) :
    Prop where
  shape : keys.verifying.shape = system.shape
  alpha : keys.verifying.alpha = generate t.alpha
  beta : keys.verifying.beta = generate t.beta
  gamma : keys.verifying.gamma = generate t.gamma
  delta : keys.verifying.delta = generate t.delta
  gammaAbc : keys.verifying.gammaAbc = (List.range system.shape.publics).map fun i =>
    generate ((t.beta * (A i).eval t.tau + t.alpha * (B i).eval t.tau + (C i).eval t.tau) /
      t.gamma)
  verifying : keys.proving.vk = keys.verifying
  beta₁ : keys.proving.beta = generate t.beta
  delta₁ : keys.proving.delta = generate t.delta
  aQuery : keys.proving.aQuery = (List.range system.shape.width).map fun i =>
    generate ((A i).eval t.tau)
  b1Query : keys.proving.b1Query = (List.range system.shape.width).map fun i =>
    generate ((B i).eval t.tau)
  b2Query : keys.proving.b2Query = (List.range system.shape.width).map fun i =>
    generate ((B i).eval t.tau)
  hQuery : keys.proving.hQuery = (List.range (system.shape.domainSize - 1)).map fun k =>
    generate (t.tau ^ k * (t.tau ^ system.shape.domainSize - 1) / t.delta)
  lQuery : keys.proving.lQuery =
    (List.range (system.shape.secrets + system.shape.internals)).map fun k =>
      let i := system.shape.publics + k
      generate ((t.beta * (A i).eval t.tau + t.alpha * (B i).eval t.tau + (C i).eval t.tau) /
        t.delta)
  matrices : keys.proving.matrices = system.matrices
  layout : keys.proving.layoutFault = none

theorem drop_range (n k : Nat) : (List.range n).drop k = (List.range (n - k)).map (k + ·) := by
  rw [List.range_eq_range', List.drop_range', List.range'_eq_map_range]
  simp

theorem referenceString_keysOf {G₁ G₂ : Type} [SourceOps G₁] [SourceOps G₂]
    {system : ConstraintSystem} {d : Domain} {t : Trapdoor}
    (haligned : system.matrices.Aligned system.shape.constraints)
    (hd : Domain.ofShape system.shape = .ok d) (hsize : d.size = system.shape.domainSize)
    (houtside : d.vanishing t.tau ≠ 0) {A B C : Nat → Fr[X]}
    (hA : ∀ j, Interpolates d (system.entryA j) (A j))
    (hB : ∀ j, Interpolates d (system.entryB j) (B j))
    (hC : ∀ j, Interpolates d (system.entryC j) (C j)) :
    (keysOf system d G₁ G₂ t).ReferenceString system t A B C := by
  obtain rfl : A = columnPolynomial d (system.matrices.extendedA system.shape.publics) := by
    refine funext fun j => (hA j).unique ?_
    have h := interpolates_columnPolynomial d
      (system.matrices.extendedA system.shape.publics) j
    simpa only [ConstraintSystem.entry_extendedA haligned] using h
  obtain rfl : B = columnPolynomial d system.matrices.b :=
    funext fun j => (hB j).unique (interpolates_columnPolynomial d _ j)
  obtain rfl : C = columnPolynomial d system.matrices.c :=
    funext fun j => (hC j).unique (interpolates_columnPolynomial d _ j)
  have hcolumns := fun rows => columnValues_eq rows system.shape.width houtside
  have hmixed : mixedColumns system d t = _ := mixedColumns_eq houtside
  have hpublics : system.shape.publics ≤ system.shape.width := by
    rw [Shape.width]
    omega
  have hprivate : system.shape.width - system.shape.publics =
      system.shape.secrets + system.shape.internals := by
    rw [Shape.width]
    omega
  exact {
    shape := rfl
    alpha := rfl
    beta := rfl
    gamma := rfl
    delta := rfl
    gammaAbc := by
      simp only [keysOf, hmixed, ← List.map_take, List.take_range, Nat.min_eq_left hpublics,
        List.map_map, div_eq_mul_inv]
      rfl
    verifying := rfl
    beta₁ := rfl
    delta₁ := rfl
    aQuery := by simp only [keysOf, columnsA, hcolumns, List.map_map]; rfl
    b1Query := by simp only [keysOf, columnsB, hcolumns, List.map_map]; rfl
    b2Query := by simp only [keysOf, columnsB, hcolumns, List.map_map]; rfl
    hQuery := by
      simp only [keysOf, powersFrom_eq_map, hsize, Domain.vanishing_eq, List.map_map]
      refine List.map_congr_left fun k _ => congrArg generate ?_
      ring
    lQuery := by
      simp only [keysOf, hmixed, ← List.map_drop, drop_range, hprivate, List.map_map,
        div_eq_mul_inv]
      rfl
    matrices := rfl
    layout := layoutFault_keysOf hd haligned }

/-- A setup publishes the reference string of the circuit, or fails for one of
five reasons. -/
theorem setup_publishes_reference_string {G₁ G₂ : Type} [SourceOps G₁] [SourceOps G₂]
    {system : ConstraintSystem} (hbuilt : system.Built) (t : Trapdoor) :
    ((∃ cause, (setup system t : Except Error (Keys G₁ G₂)) = .error (.setup cause)) ↔
      SetupFails system.shape t) ∧
    (¬ SetupFails system.shape t →
      ∃ (keys : Keys G₁ G₂) (d : Domain), setup system t = .ok keys ∧
        d.size = system.shape.domainSize ∧ IsPrimitiveRoot d.root d.size ∧
        (∀ values, ∃! p, Interpolates d values p) ∧
        ∀ A B C : Nat → Fr[X], (∀ j, Interpolates d (system.entryA j) (A j)) →
          (∀ j, Interpolates d (system.entryB j) (B j)) →
          (∀ j, Interpolates d (system.entryC j) (C j)) →
            keys.ReferenceString system t A B C) := by
  rcases setup_cases G₁ G₂ system t with
    ⟨hfails, hsetup⟩ | ⟨hfits, d, hd, hsize, husable, hsetup⟩
  · exact ⟨iff_of_true hsetup hfails, fun hfits => absurd hfails hfits⟩
  · refine ⟨iff_of_false ?_ hfits, fun _ => ⟨_, d, hsetup, hsize, d.isPrimitiveRoot_root,
      existsUnique_interpolates d, fun A B C => referenceString_keysOf hbuilt.aligned hd hsize
        husable.outside⟩⟩
    rintro ⟨cause, hcause⟩
    rw [hsetup] at hcause
    cases hcause

theorem squareSystem_reference_string :
    (∃ keys : Keys Exponent Exponent, setup squareSystem ⟨2, 3, 5, 7, 11⟩ = .ok keys ∧
      keys.proving.hQuery = (List.range 3).map fun k =>
        generate ((11 : Fr) ^ k * ((11 : Fr) ^ 4 - 1) / 7)) ∧
    ∃ cause, (setup squareSystem ⟨2, 3, 5, 7, 1⟩ : Except Error (Keys Exponent Exponent)) =
      .error (.setup cause) := by
  have hsize : squareSystem.shape.domainSize = 4 := by
    rw [Shape.domainSize, ← Domain.ceilLog2_eq_clog]
    rfl
  have houtside : (11 : Fr) ^ 4 ≠ 1 := by
    rw [pow_succ, pow_succ, pow_succ, pow_one]
    decide
  have hfits : ¬ SetupFails squareSystem.shape ⟨2, 3, 5, 7, 11⟩ := by
    simp only [SetupFails, not_or, hsize]
    exact ⟨by decide, by decide, by decide, by decide, houtside⟩
  obtain ⟨-, hkeys⟩ := @setup_publishes_reference_string Exponent Exponent _ _ _
    squareSystem_built ⟨2, 3, 5, 7, 11⟩
  obtain ⟨keys, d, hsetup, -, -, hunique, hlaw⟩ := hkeys hfits
  obtain ⟨hfailure, -⟩ := @setup_publishes_reference_string Exponent Exponent _ _ _
    squareSystem_built ⟨2, 3, 5, 7, 1⟩
  choose A hA using fun j => (hunique (squareSystem.entryA j)).exists
  choose B hB using fun j => (hunique (squareSystem.entryB j)).exists
  choose C hC using fun j => (hunique (squareSystem.entryC j)).exists
  have hstring := hlaw A B C hA hB hC
  refine ⟨⟨keys, hsetup, ?_⟩, hfailure.2 (.inr (.inr (.inr (.inr ?_))))⟩
  · rw [hstring.hQuery, hsize]
  · exact one_pow _

end PreimageProof
