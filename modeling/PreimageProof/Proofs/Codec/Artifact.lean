import Mathlib
import PreimageProof.Proofs.Codec.Element
import PreimageProof.Proofs.Polynomial.Interpolation

/-!
# Valid artifacts

What an artifact has to satisfy is stated here without its reader: points that
belong to their groups, lengths and columns that agree with the shape, a first
value that is 1. The readers let exactly that through. What is valid is read
back from its bytes, field by field in the order it was written, and whatever
is read is valid.

Lists are preceded by a count of eight bytes. Where no other length limits a
list, that it is not longer than such a count can say is asked for apart.
-/

namespace PreimageProof

open Codec (writeCount writeElements writeShape writeRow writeMatrix readEntry readMatrix
  readShape shapeFault)
open SourceOps (isValid)

/-! ## Validity -/

/-- A shape that a circuit can have, its sums within 64 bits. -/
structure Shape.Valid (shape : Shape) : Prop where
  publics_pos : 1 ≤ shape.publics
  width_le : shape.width ≤ 2 ^ 64 - 1
  rows_le : shape.constraints + shape.publics ≤ 2 ^ 64 - 1

structure Witness.Valid (w : Witness) : Prop where
  shape : w.shape.Valid
  length_values : w.values.length = w.shape.width
  one : w.values.head? = some 1

/-- The number of inputs can be written. -/
def PublicWitness.Counted (p : PublicWitness) : Prop := p.inputs.length ≤ Read.maxCount

/-- The lengths of the rows can be written. -/
def Matrices.Counted (m : Matrices) : Prop :=
  ∀ row ∈ m.a ++ m.b ++ m.c, row.length ≤ Read.maxCount

section

variable {G₁ G₂ : Type} [SourceOps G₁] [SourceOps G₂]

structure Proof.Valid (proof : Proof G₁ G₂) : Prop where
  a : isValid proof.a = true
  b : isValid proof.b = true
  c : isValid proof.c = true

/-- The elements of a verifying key belong to their groups. -/
structure VerifyingKey.PointsValid (vk : VerifyingKey G₁ G₂) : Prop where
  alpha : isValid vk.alpha = true
  beta : isValid vk.beta = true
  gamma : isValid vk.gamma = true
  delta : isValid vk.delta = true
  gammaAbc : ∀ p ∈ vk.gammaAbc, isValid p = true

structure VerifyingKey.Valid (vk : VerifyingKey G₁ G₂) : Prop where
  shape : vk.shape.Valid
  points : vk.PointsValid
  length_gammaAbc : vk.gammaAbc.length = vk.shape.publics

/-- The elements of a proving key other than those of its verifying key belong
to their groups. -/
structure ProvingKey.PointsValid (pk : ProvingKey G₁ G₂) : Prop where
  beta : isValid pk.beta = true
  delta : isValid pk.delta = true
  aQuery : ∀ p ∈ pk.aQuery, isValid p = true
  b1Query : ∀ p ∈ pk.b1Query, isValid p = true
  b2Query : ∀ p ∈ pk.b2Query, isValid p = true
  hQuery : ∀ p ∈ pk.hQuery, isValid p = true
  lQuery : ∀ p ∈ pk.lQuery, isValid p = true

structure ProvingKey.Valid (pk : ProvingKey G₁ G₂) : Prop where
  vk : pk.vk.Valid
  points : pk.PointsValid
  rows_b : pk.matrices.b.length = pk.matrices.a.length
  rows_c : pk.matrices.c.length = pk.matrices.a.length
  columns : ∀ row ∈ pk.matrices.a ++ pk.matrices.b ++ pk.matrices.c, ∀ entry ∈ row,
    entry.2 < pk.shape.width
  layout : pk.layoutFault = none

end

/-! ## Any artifact -/

namespace Artifact

variable {α : Type} [Artifact α]

theorem reads_tagged (htag : (tag α).length = 4) {x : α}
    (h : Reads (read : Read α) (write x) x) : Reads readTagged (encode x) x := by
  refine (Reads.take htag).bind (Reads.guard (by simp) ?_)
  exact (Reads.take (List.length_singleton)).bind (Reads.guard (by simp) h)

/-- What the reader reads back, decoding does. -/
theorem decode_encode (htag : (tag α).length = 4) {x : α}
    (h : Reads (read : Read α) (write x) x) : decode (encode x) = .ok x := by
  have htagged := reads_tagged htag h []
  rw [List.append_nil] at htagged
  rw [decode, Read.onBytes, StateT.run_bind, htagged]
  rfl

theorem of_decode {P : α → Prop} (h : Returns read P) {bytes : Bytes} {x : α}
    (hx : decode bytes = .ok x) : P x := by
  obtain ⟨before, after, hread⟩ := read_of_decode hx
  exact h before (x, after) hread

end Artifact

/-! ## Shapes -/

theorem shapeFault_eq_none_iff {shape : Shape} : shapeFault shape = none ↔ shape.Valid := by
  have hmax : Read.maxCount = 2 ^ 64 - 1 := by decide
  constructor
  · intro h
    simp only [shapeFault, hmax] at h
    split at h
    · cases h
    split at h
    · cases h
    split at h
    · cases h
    exact ⟨by omega, by omega, by omega⟩
  · rintro ⟨hpublics, hwidth, hrows⟩
    rw [shapeFault, hmax, if_neg (by omega), if_neg (by omega), if_neg (by omega)]

theorem Shape.Valid.width_le_maxCount {shape : Shape} (h : shape.Valid) :
    shape.width ≤ Read.maxCount := h.width_le.trans_eq (by decide)

theorem reads_shape {shape : Shape} (h : shape.Valid) :
    Reads readShape (writeShape shape) shape := by
  have hmax : Read.maxCount = 2 ^ 64 - 1 := by decide
  have hwidth := h.width_le
  have hrows := h.rows_le
  rw [Shape.width] at hwidth
  rw [writeShape, List.append_assoc, List.append_assoc]
  refine (Reads.count (by omega)).bind ?_
  refine (Reads.count (by omega)).bind ?_
  refine (Reads.count (by omega)).bind ?_
  refine (Reads.count (by omega)).map ?_
  simp only [shapeFault_eq_none_iff.2 h]
  exact Reads.pure shape

theorem returns_shape : Returns readShape Shape.Valid := by
  -- Any four counts are read; only the shape they make is looked at.
  refine (Returns.trivial _).bind fun constraints _ => ?_
  refine (Returns.trivial _).bind fun publics _ => ?_
  refine (Returns.trivial _).bind fun secrets _ => ?_
  refine (Returns.trivial _).bind fun internals _ => ?_
  cases hfault : shapeFault ⟨constraints, publics, secrets, internals⟩ with
  | some cause =>
      simp only [hfault]
      exact Returns.throw_bind _
  | none =>
      simp only [hfault]
      exact Returns.pure (shapeFault_eq_none_iff.1 hfault)

/-! ## Matrices -/

section

variable {width : Nat}

theorem reads_entry (hwidth : width ≤ Read.maxCount) {entry : Fr × Nat} (h : entry.2 < width) :
    Reads (readEntry width) (entry.1.toBytes ++ writeCount entry.2) entry := by
  refine (Reads.element Fr.lawful _ trivial).bind ((Reads.count (h.le.trans hwidth)).map ?_)
  exact Reads.guard (not_le.2 h) (Reads.pure entry)

theorem reads_matrix (hwidth : width ≤ Read.maxCount) {rows : List Row}
    (hrows : rows.length ≤ Read.maxCount) (hlengths : ∀ row ∈ rows, row.length ≤ Read.maxCount)
    (hcolumns : ∀ row ∈ rows, ∀ entry ∈ row, entry.2 < width) :
    Reads (readMatrix width) (writeMatrix rows) rows := by
  refine Reads.counted hrows (fun row _ => ?_) fun row hrow => ?_
  · rw [writeRow, List.length_append, writeCount, Bytes.length_littleEndian]
    exact Nat.le_add_right 8 _
  · refine Reads.counted (hlengths row hrow) (fun entry _ => ?_) fun entry hentry =>
      reads_entry hwidth (hcolumns row hrow entry hentry)
    rw [List.length_append, Residue.length_toBytes, writeCount, Bytes.length_littleEndian]

theorem returns_matrix : Returns (readMatrix width) fun rows =>
    ∀ row ∈ rows, row.length ≤ Read.maxCount ∧ ∀ entry ∈ row, entry.2 < width := by
  have hentry : Returns (readEntry width) fun entry => entry.2 < width :=
    (Returns.trivial _).bind fun _ _ => (Returns.trivial _).bind fun _ _ =>
      Returns.guard fun hcolumn => Returns.pure (not_le.1 hcolumn)
  exact (Returns.counted (hentry.counted 40) 8).mono fun _ h => h.2

end

/-! ## The layout of a proving key -/

namespace ProvingKey

variable {G₁ G₂ : Type} {pk : ProvingKey G₁ G₂}

theorem layoutFault_eq_none_iff :
    pk.layoutFault = none ↔ ∃ d, Domain.ofShape pk.shape = .ok d ∧
      ∀ part ∈ pk.lengths d, part.2.1 = part.2.2 := by
  rw [layoutFault]
  cases hd : Domain.ofShape pk.shape with
  | error cause => simp
  | ok d =>
      simp only [Option.map_eq_none_iff, List.find?_eq_none, decide_not, Bool.not_eq_true',
        decide_eq_false_iff_not, not_not]
      constructor
      · exact fun h => ⟨d, rfl, h⟩
      · rintro ⟨d', hd', h⟩
        cases hd'
        exact h

/-- Every length that a valid shape implies can be written. -/
theorem implied_le (hshape : pk.shape.Valid) (d : Domain) :
    ∀ part ∈ pk.lengths d, part.2.2 ≤ Read.maxCount := by
  have hmax : Read.maxCount = 2 ^ 64 - 1 := by decide
  have hwidth := hshape.width_le
  have hrows := hshape.rows_le
  have hsize := d.size_le
  rw [Shape.width] at hwidth
  simp only [lengths, List.forall_mem_cons, Shape.width, hmax]
  refine ⟨?_, ?_, ?_, ?_, ?_, ?_, ?_, fun _ h => absurd h List.not_mem_nil⟩ <;> omega

theorem length_le (hshape : pk.shape.Valid) (hlayout : pk.layoutFault = none) :
    ∃ d, ∀ part ∈ pk.lengths d, part.2.1 ≤ Read.maxCount := by
  obtain ⟨d, -, hlengths⟩ := layoutFault_eq_none_iff.1 hlayout
  exact ⟨d, fun part hpart => (hlengths part hpart).trans_le (implied_le hshape d part hpart)⟩

end ProvingKey

/-! ## The artifacts -/

theorem reads_witness {w : Witness} (h : w.Valid) :
    Reads (Artifact.read : Read Witness) (Artifact.write w) w := by
  have hlen : w.values.length ≤ Read.maxCount :=
    h.length_values.trans_le h.shape.width_le_maxCount
  refine (reads_shape h.shape).bind ?_
  refine (Reads.elements Fr.lawful _ hlen fun _ _ => trivial).map ?_
  exact Reads.guard (not_not.2 h.length_values) (Reads.guard (not_not.2 h.one) (Reads.pure w))

theorem returns_witness : Returns (Artifact.read : Read Witness) Witness.Valid := by
  refine returns_shape.bind fun shape hshape => ?_
  refine (Returns.trivial _).bind fun values _ => ?_
  exact Returns.guard fun hlen => Returns.guard fun hone =>
    Returns.pure ⟨hshape, not_not.1 hlen, not_not.1 hone⟩

theorem reads_publicWitness {p : PublicWitness} (h : p.Counted) :
    Reads (Artifact.read : Read PublicWitness) (Artifact.write p) p :=
  (Reads.elements Fr.lawful _ h fun _ _ => trivial).map (Reads.pure p)

theorem returns_publicWitness :
    Returns (Artifact.read : Read PublicWitness) PublicWitness.Counted :=
  (Returns.elements Fr.lawful _).bind fun _ hinputs => Returns.pure hinputs.1

section

variable {G₁ G₂ : Type} [SourceOps G₁] [SourceOps G₂] [ElementCodec G₁] [ElementCodec G₂]
  (h₁ : ElementCodec.Lawful G₁ (isValid · = true)) (h₂ : ElementCodec.Lawful G₂ (isValid · = true))

include h₁ h₂

theorem reads_proof {proof : Proof G₁ G₂} (h : proof.Valid) :
    Reads (Artifact.read : Read (Proof G₁ G₂)) (Artifact.write proof) proof := by
  show Reads _ (_ ++ _ ++ _) proof
  rw [List.append_assoc]
  refine (Reads.element h₁ _ h.a).bind ?_
  refine (Reads.element h₂ _ h.b).bind ?_
  exact (Reads.element h₁ _ h.c).map (Reads.pure proof)

theorem returns_proof : Returns (Artifact.read : Read (Proof G₁ G₂)) Proof.Valid := by
  refine (Returns.element h₁ _).bind fun a ha => ?_
  refine (Returns.element h₂ _).bind fun b hb => ?_
  exact (Returns.element h₁ _).bind fun c hc => Returns.pure ⟨ha, hb, hc⟩

theorem reads_verifyingKey {vk : VerifyingKey G₁ G₂} (h : vk.Valid) :
    Reads VerifyingKey.read vk.write vk := by
  have hlen : vk.gammaAbc.length ≤ Read.maxCount := by
    have hwidth := h.shape.width_le_maxCount
    rw [Shape.width] at hwidth
    rw [h.length_gammaAbc]
    omega
  simp only [VerifyingKey.write, List.append_assoc]
  refine (reads_shape h.shape).bind ?_
  refine (Reads.element h₁ _ h.points.alpha).bind ?_
  refine (Reads.element h₂ _ h.points.beta).bind ?_
  refine (Reads.element h₂ _ h.points.gamma).bind ?_
  refine (Reads.element h₂ _ h.points.delta).bind ?_
  refine (Reads.elements h₁ _ hlen h.points.gammaAbc).map ?_
  exact Reads.guard (not_not.2 h.length_gammaAbc) (Reads.pure vk)

theorem returns_verifyingKey :
    Returns (VerifyingKey.read : Read (VerifyingKey G₁ G₂)) VerifyingKey.Valid := by
  refine returns_shape.bind fun shape hshape => ?_
  refine (Returns.element h₁ _).bind fun alpha halpha => ?_
  refine (Returns.element h₂ _).bind fun beta hbeta => ?_
  refine (Returns.element h₂ _).bind fun gamma hgamma => ?_
  refine (Returns.element h₂ _).bind fun delta hdelta => ?_
  refine (Returns.elements h₁ _).bind fun gammaAbc habc => ?_
  exact Returns.guard fun hlen =>
    Returns.pure ⟨hshape, ⟨halpha, hbeta, hgamma, hdelta, habc.2⟩, not_not.1 hlen⟩

omit h₁ h₂ [SourceOps G₁] [SourceOps G₂] [ElementCodec G₁] [ElementCodec G₂] in
theorem reads_ensureConsistent {pk : ProvingKey G₁ G₂}
    (hb : pk.matrices.b.length = pk.matrices.a.length)
    (hc : pk.matrices.c.length = pk.matrices.a.length) (hlayout : pk.layoutFault = none) :
    Reads pk.ensureConsistent [] () := by
  rw [ProvingKey.ensureConsistent, hlayout]
  refine Reads.guard ?_ (Reads.pure ())
  rw [not_or, not_not, not_not]
  exact ⟨hb, hc⟩

omit h₁ h₂ [SourceOps G₁] [SourceOps G₂] [ElementCodec G₁] [ElementCodec G₂] in
theorem returns_ensureConsistent (pk : ProvingKey G₁ G₂) :
    Returns pk.ensureConsistent fun _ => pk.matrices.b.length = pk.matrices.a.length ∧
      pk.matrices.c.length = pk.matrices.a.length ∧ pk.layoutFault = none := by
  rw [ProvingKey.ensureConsistent]
  refine Returns.guard fun hrows => ?_
  rw [not_or, not_not, not_not] at hrows
  cases hlayout : pk.layoutFault with
  | some fault => exact Returns.throw _
  | none => exact Returns.pure ⟨hrows.1, hrows.2, rfl⟩

theorem reads_provingKey {pk : ProvingKey G₁ G₂} (h : pk.Valid) (hrows : pk.matrices.Counted) :
    Reads (Artifact.read : Read (ProvingKey G₁ G₂)) (Artifact.write pk) pk := by
  obtain ⟨d, hlengths⟩ := ProvingKey.length_le h.vk.shape h.layout
  simp only [ProvingKey.lengths, List.forall_mem_cons] at hlengths
  obtain ⟨ha, hb1, hb2, hh, hl, -, hconstraints, -⟩ := hlengths
  have hwidth := h.vk.shape.width_le_maxCount
  -- The first matrix has as many rows as the shape says, and the others as many as the first.
  have hmatrix : ∀ rows : List Row, rows ⊆ pk.matrices.a ++ pk.matrices.b ++ pk.matrices.c →
      rows.length = pk.matrices.a.length →
        Reads (readMatrix pk.vk.shape.width) (writeMatrix rows) rows := fun rows hsub hlen =>
    reads_matrix hwidth (hlen.trans_le hconstraints) (fun row hrow => hrows row (hsub hrow))
      fun row hrow => h.columns row (hsub hrow)
  show Reads _ (_ ++ _) pk
  simp only [List.append_assoc]
  refine (reads_verifyingKey h₁ h₂ h.vk).bind ?_
  refine (Reads.element h₁ _ h.points.beta).bind ?_
  refine (Reads.element h₁ _ h.points.delta).bind ?_
  refine (Reads.elements h₁ _ ha h.points.aQuery).bind ?_
  refine (Reads.elements h₁ _ hb1 h.points.b1Query).bind ?_
  refine (Reads.elements h₂ _ hb2 h.points.b2Query).bind ?_
  refine (Reads.elements h₁ _ hh h.points.hQuery).bind ?_
  refine (Reads.elements h₁ _ hl h.points.lQuery).bind ?_
  refine (hmatrix _ (by simp) rfl).bind ?_
  refine (hmatrix _ (by simp) h.rows_b).bind ?_
  refine (hmatrix _ (by simp) h.rows_c).map ?_
  exact (reads_ensureConsistent h.rows_b h.rows_c h.layout).bind (Reads.pure pk)

theorem returns_provingKey : Returns (Artifact.read : Read (ProvingKey G₁ G₂)) fun pk =>
    pk.Valid ∧ pk.matrices.Counted := by
  refine (returns_verifyingKey h₁ h₂).bind fun vk hvk => ?_
  refine (Returns.element h₁ _).bind fun beta hbeta => ?_
  refine (Returns.element h₁ _).bind fun delta hdelta => ?_
  refine (Returns.elements h₁ _).bind fun aQuery ha => ?_
  refine (Returns.elements h₁ _).bind fun b1Query hb1 => ?_
  refine (Returns.elements h₂ _).bind fun b2Query hb2 => ?_
  refine (Returns.elements h₁ _).bind fun hQuery hh => ?_
  refine (Returns.elements h₁ _).bind fun lQuery hl => ?_
  refine returns_matrix.bind fun a hA => ?_
  refine returns_matrix.bind fun b hB => ?_
  refine returns_matrix.bind fun c hC => ?_
  refine (returns_ensureConsistent _).bind fun _ hconsistent => Returns.pure ?_
  obtain ⟨hrows_b, hrows_c, hlayout⟩ := hconsistent
  have hentries : ∀ row ∈ a ++ b ++ c, row.length ≤ Read.maxCount ∧
      ∀ entry ∈ row, entry.2 < vk.shape.width := by
    rw [List.forall_mem_append, List.forall_mem_append]
    exact ⟨⟨hA, hB⟩, hC⟩
  exact ⟨⟨hvk, ⟨hbeta, hdelta, ha.2, hb1.2, hb2.2, hh.2, hl.2⟩, hrows_b, hrows_c,
    fun row hrow => (hentries row hrow).2, hlayout⟩, fun row hrow => (hentries row hrow).1⟩

end

end PreimageProof
