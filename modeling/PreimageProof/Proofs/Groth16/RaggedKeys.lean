import Mathlib
import PreimageProof.Curve.Groups
import PreimageProof.Proofs.Codec.Faithful
import PreimageProof.Proofs.Groth16.Completeness

/-!
# Keys with missing rows

Two validators look at a proving key. The reader of keys asks for as many rows
in each of the three matrices and for the lengths that the shape implies; the
prover asks for the lengths only, and among these is the number of rows of the
first matrix. The rows themselves are checked as far as all three matrices
reach. So a key that lost rows of the second or the third matrix, or has more
of them, is one that cannot be read, and the prover goes on with it and leaves
out the rows that are not there three times.
-/

namespace PreimageProof

/-! ## Rows within reach -/

/-- One list is the beginning of the other. -/
def Comparable {α : Type} (xs ys : List α) : Prop := xs <+: ys ∨ ys <+: xs

theorem Comparable.getElem?_eq {α : Type} {xs ys : List α} (h : Comparable xs ys) {k : Nat}
    (hx : k < xs.length) (hy : k < ys.length) : xs[k]? = ys[k]? := by
  rcases h with ⟨rest, rfl⟩ | ⟨rest, rfl⟩
  · exact (List.getElem?_append_left hx).symm
  · exact List.getElem?_append_left hy

namespace Matrices

variable {m : Matrices} {z : List Fr}

/-- Row `k` holds, a row that is not there being zero. -/
def HoldsAt (m : Matrices) (z : List Fr) (k : Nat) : Prop :=
  (valuesAt m.a z).getD k 0 * (valuesAt m.b z).getD k 0 = (valuesAt m.c z).getD k 0

/-- The number of rows that all three matrices have. -/
def reach (m : Matrices) : Nat := min m.a.length (min m.b.length m.c.length)

theorem length_rows : m.rows.length = m.reach := by
  rw [rows, List.length_zip, List.length_zip, reach]

theorem holdsAt_iff {k : Nat} (hk : k < m.rows.length) :
    m.HoldsAt z k ↔ m.rows[k].1.value z.toArray * m.rows[k].2.1.value z.toArray =
      m.rows[k].2.2.value z.toArray := by
  obtain ⟨ha, hb, hc⟩ : k < m.a.length ∧ k < m.b.length ∧ k < m.c.length := by
    simpa only [length_rows, reach, Nat.lt_min] using hk
  simp [HoldsAt, rows, valuesAt, ha, hb, hc]

theorem satisfied_iff_holdsAt : m.Satisfied z ↔ ∀ k < m.reach, m.HoldsAt z k := by
  rw [Satisfied, List.forall_mem_iff_getElem, ← length_rows]
  exact forall₂_congr fun k hk => (holdsAt_iff hk).symm

/-- Nothing but the rows within reach counts. -/
theorem Satisfied.of_comparable {m' : Matrices} (h : m.Satisfied z) {n : Nat}
    (haligned : m.Aligned n) (ha : m'.a = m.a) (hb : Comparable m'.b m.b)
    (hc : Comparable m'.c m.c) : m'.Satisfied z := by
  obtain ⟨hna, hnb, hnc⟩ := haligned
  rw [satisfied_iff_holdsAt] at h ⊢
  intro k hk
  obtain ⟨hka, hkb, hkc⟩ : k < m'.a.length ∧ k < m'.b.length ∧ k < m'.c.length := by
    simpa only [reach, Nat.lt_min] using hk
  rw [ha, hna] at hka
  have hholds := h k (by simp [reach, hna, hnb, hnc, hka])
  have hrow : ∀ {xs ys : List Row}, Comparable xs ys → k < xs.length → k < ys.length →
      (valuesAt xs z).getD k 0 = (valuesAt ys z).getD k 0 := by
    intro xs ys hxy hx hy
    rw [List.getD_eq_getElem?_getD, List.getD_eq_getElem?_getD, valuesAt, valuesAt,
      List.getElem?_map, List.getElem?_map, hxy.getElem?_eq hx hy]
  rwa [HoldsAt, ha, hrow hb hkb (hnb ▸ hka), hrow hc hkc (hnc ▸ hka)]

end Matrices

/-! ## The two validators -/

namespace ProvingKey

variable {G₁ G₂ : Type} {pk : ProvingKey G₁ G₂}

/-- What the reader of keys asks of a key that it has put together. -/
def Consistent (pk : ProvingKey G₁ G₂) : Prop :=
  pk.layoutFault = none ∧ pk.matrices.Aligned pk.shape.constraints

theorem length_a (h : pk.layoutFault = none) : pk.matrices.a.length = pk.shape.constraints := by
  obtain ⟨d, -, hlengths⟩ := layoutFault_eq_none_iff.1 h
  exact hlengths ("constraints", _, _) (by simp [lengths])

theorem ensureConsistent_eq_ok_iff (input : Input) :
    pk.ensureConsistent.run input = .ok ((), input) ↔ pk.Consistent := by
  constructor
  · intro h
    obtain ⟨hb, hc, hlayout⟩ := returns_ensureConsistent pk input _ h
    have ha := length_a hlayout
    exact ⟨hlayout, ha, hb.trans ha, hc.trans ha⟩
  · rintro ⟨hlayout, ha, hb, hc⟩
    rw [input.eq_ofBytes]
    exact reads_ensureConsistent (hb.trans ha.symm) (hc.trans ha.symm) hlayout input.bytes

end ProvingKey

section

variable {G₁ G₂ : Type} [SourceOps G₁] [SourceOps G₂] {pk : ProvingKey G₁ G₂} {w : Witness}
  {blind : Blinding}

theorem exists_prove_eq_ok_iff :
    (∃ proof, prove pk w blind = .ok proof) ↔
      w.shape = pk.shape ∧ pk.layoutFault = none ∧ w.values.head? = some 1 ∧
        pk.matrices.Satisfied w.values := by
  constructor
  · rintro ⟨proof, hproof⟩
    obtain ⟨d, hd⟩ := exists_domain_of_prove hproof
    obtain ⟨hshape, hlayout, hone, hsatisfied, -⟩ := (prove_eq_ok_iff hd).1 hproof
    exact ⟨hshape, hlayout, hone, hsatisfied⟩
  · rintro ⟨hshape, hlayout, hone, hsatisfied⟩
    obtain ⟨d, hd, -⟩ := ProvingKey.layoutFault_eq_none_iff.1 hlayout
    exact ⟨_, (prove_eq_ok_iff hd).2 ⟨hshape, hlayout, hone, hsatisfied, rfl⟩⟩

/-- The prover and the rows of its key, whatever key and witness: it asks for the
lengths the shape implies and for the rows within reach. A key it accepts is
one that could be read exactly when the second and the third matrix have all
their rows. Then every row holds; and nothing changes for the prover when
these two matrices lose or gain rows at their ends. -/
theorem prove_reads_rows_within_reach (pk : ProvingKey G₁ G₂) (w : Witness) (blind : Blinding) :
    ((∃ proof, prove pk w blind = .ok proof) ↔
      w.shape = pk.shape ∧ pk.layoutFault = none ∧ w.values.head? = some 1 ∧
        ∀ k < pk.matrices.reach, pk.matrices.HoldsAt w.values k) ∧
    ∀ proof, prove pk w blind = .ok proof →
      (∃ d, Domain.ofShape pk.shape = .ok d ∧ ∀ part ∈ pk.lengths d, part.2.1 = part.2.2) ∧
      (∀ input, pk.ensureConsistent.run input = .ok ((), input) ↔
        pk.matrices.b.length = pk.shape.constraints ∧
          pk.matrices.c.length = pk.shape.constraints) ∧
      (pk.matrices.b.length = pk.shape.constraints →
        pk.matrices.c.length = pk.shape.constraints →
        (∀ k < pk.shape.constraints, pk.matrices.HoldsAt w.values k) ∧
        ∀ b c, Comparable b pk.matrices.b → Comparable c pk.matrices.c →
          ∃ proof', prove { pk with matrices := ⟨pk.matrices.a, b, c⟩ } w blind = .ok proof') := by
  have hiff : (∃ proof, prove pk w blind = .ok proof) ↔ _ := exists_prove_eq_ok_iff
  refine ⟨hiff.trans (by rw [Matrices.satisfied_iff_holdsAt]), fun proof hproof => ?_⟩
  obtain ⟨hshape, hlayout, hone, hsatisfied⟩ := hiff.1 ⟨proof, hproof⟩
  have ha := ProvingKey.length_a hlayout
  refine ⟨ProvingKey.layoutFault_eq_none_iff.1 hlayout, fun input => ?_, fun hb hc => ⟨?_, ?_⟩⟩
  · rw [ProvingKey.ensureConsistent_eq_ok_iff]
    exact ⟨fun h => h.2.2, fun h => ⟨hlayout, ha, h⟩⟩
  · have hrows := Matrices.satisfied_iff_holdsAt.1 hsatisfied
    rwa [Matrices.reach, ha, hb, hc, min_self, min_self] at hrows
  · intro b c hcomp_b hcomp_c
    exact exists_prove_eq_ok_iff.2 ⟨hshape, hlayout, hone,
      hsatisfied.of_comparable ⟨ha, hb, hc⟩ rfl hcomp_b hcomp_c⟩

end

/-! ## The keys of a square -/

def squareKeys : Keys G1 G2 :=
  keysOf squareSystem squareDomain G1 G2
    ⟨(2 : Nat), (3 : Nat), (5 : Nat), (7 : Nat), (11 : Nat)⟩

/-- The proving key without the second row of the second matrix. -/
def raggedSquareKey : ProvingKey G1 G2 :=
  { squareKeys.proving with
    matrices := ⟨squareSystem.matrices.a, [[(1, 2)]], squareSystem.matrices.c⟩ }

theorem layoutFault_squareKeys : squareKeys.proving.layoutFault = none :=
  layoutFault_keysOf (by rfl) ⟨rfl, rfl, rfl⟩

theorem squareKey_still_proves :
    (∃ proof, prove squareKeys.proving ⟨squareSystem.shape, [1, 9, 3, 9]⟩ ⟨13, 17⟩ = .ok proof) ∧
      ∃ proof, prove raggedSquareKey ⟨squareSystem.shape, [1, 9, 3, 9]⟩ ⟨13, 17⟩ = .ok proof := by
  have hproof : ∃ proof, prove squareKeys.proving ⟨squareSystem.shape, [1, 9, 3, 9]⟩ ⟨13, 17⟩ =
      .ok proof :=
    exists_prove_eq_ok_iff.2 ⟨rfl, layoutFault_squareKeys, rfl,
      Matrices.check_eq_ok_iff.1 (by rfl)⟩
  obtain ⟨proof, h⟩ := hproof
  obtain ⟨-, hright⟩ :=
    prove_reads_rows_within_reach squareKeys.proving ⟨squareSystem.shape, [1, 9, 3, 9]⟩ ⟨13, 17⟩
  exact ⟨⟨proof, h⟩, (hright proof h).2.2 rfl rfl |>.2 _ _
    (.inl ⟨[[(1, 0)]], rfl⟩) (.inl (List.prefix_refl _))⟩

/-- With the row goes the constraint that the public value is the square, and the
prover accepts 8 as that of 3. It refuses that with the whole key; the other is
no key that could have been read. -/
theorem prove_raggedSquareKey :
    (∀ row ∈ raggedSquareKey.matrices.a ++ raggedSquareKey.matrices.b ++
      raggedSquareKey.matrices.c, ∀ entry ∈ row, entry.2 < raggedSquareKey.shape.width) ∧
    (∃ proof, prove raggedSquareKey ⟨squareSystem.shape, [1, 8, 3, 9]⟩ ⟨13, 17⟩ = .ok proof) ∧
    raggedSquareKey.matrices.b.length ≠ raggedSquareKey.shape.constraints ∧
    (∀ input, raggedSquareKey.ensureConsistent.run input ≠ .ok ((), input)) ∧
    prove squareKeys.proving ⟨squareSystem.shape, [1, 8, 3, 9]⟩ ⟨13, 17⟩ =
      .error (.unsatisfied 1) := by
  refine ⟨by decide, exists_prove_eq_ok_iff.2 ⟨rfl, layoutFault_squareKeys, rfl,
    Matrices.check_eq_ok_iff.1 (by rfl)⟩, by decide, fun input h => ?_, ?_⟩
  · obtain ⟨-, -, hb, -⟩ := (ProvingKey.ensureConsistent_eq_ok_iff input).1 h
    cases hb
  · have hd : Domain.ofShape squareKeys.proving.shape = .ok squareDomain := by rfl
    have hcheck : squareKeys.proving.matrices.check [1, 8, 3, 9] = .error (.unsatisfied 1) := by rfl
    rw [prove_of_fits hd rfl layoutFault_squareKeys rfl, hcheck]
    rfl

end PreimageProof
