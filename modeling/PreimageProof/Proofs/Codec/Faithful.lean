import Mathlib
import PreimageProof.Proofs.Circuit.Completion
import PreimageProof.Proofs.Codec.Artifact
import PreimageProof.Proofs.Groth16.ZeroKnowledge

/-!
# Artifacts on their way

Artifacts are made by a setup, an assignment, a proof or a projection, and
pass through bytes from one program to the next. Nothing is lost on the way:
what is made is valid, what is valid comes back from its bytes, and what
comes back from any bytes is valid.

The groups matter in two places only. Their encodings have to be lawful, and
their operations must not lead out of the valid elements. The sizes of what
is made are bounded by memory, where no list takes `2 ^ 63` bytes.
-/

namespace PreimageProof

open Artifact (encode decode)
open SourceOps (generate combine isValid)

/-! ## Operations on valid elements -/

/-- The operations of a group stay within its valid elements. -/
class ClosedSource (G : Type) [SourceOps G] : Prop where
  isValid_generate : ∀ x : Fr, isValid (generate x : G) = true
  isValid_add : ∀ {p q : G}, isValid p = true → isValid q = true → isValid (p + q) = true
  isValid_neg : ∀ {p : G}, isValid p = true → isValid (-p) = true
  isValid_combine : ∀ {terms : List (Fr × G)}, (∀ t ∈ terms, isValid t.2 = true) →
    isValid (combine terms) = true

namespace ClosedSource

instance (G : Type) [SourceOps G] [PrimeOrder G] : ClosedSource G where
  isValid_generate := LawfulSource.isValid_generate
  isValid_add hp hq := by
    obtain ⟨x, rfl⟩ := PrimeOrder.exists_generate _ hp
    obtain ⟨y, rfl⟩ := PrimeOrder.exists_generate _ hq
    rw [← LawfulSource.generate_add]
    exact LawfulSource.isValid_generate _
  isValid_neg hp := by
    obtain ⟨x, rfl⟩ := PrimeOrder.exists_generate _ hp
    rw [← LawfulSource.generate_neg]
    exact LawfulSource.isValid_generate _
  isValid_combine {terms} h := by
    have hlogs : ∃ logs : List (Fr × Fr),
        terms = logs.map fun t => (t.1, (generate t.2 : G)) := by
      induction terms with
      | nil => exact ⟨[], rfl⟩
      | cons t terms ih =>
          rw [List.forall_mem_cons] at h
          obtain ⟨x, hx⟩ := PrimeOrder.exists_generate _ h.1
          obtain ⟨logs, rfl⟩ := ih h.2
          exact ⟨(t.1, x) :: logs, by rw [List.map_cons, ← hx]⟩
    obtain ⟨logs, rfl⟩ := hlogs
    rw [LawfulSource.combine_generate]
    exact LawfulSource.isValid_generate _

variable {G : Type} [SourceOps G] [ClosedSource G]

theorem isValid_scale (k : Fr) {p : G} (hp : isValid p = true) :
    isValid (SourceOps.scale k p) = true :=
  isValid_combine (by simpa using hp)

theorem isValid_combine_zip (ks : List Fr) {query : List G}
    (h : ∀ p ∈ query, isValid p = true) : isValid (combine (ks.zip query)) = true :=
  isValid_combine fun _ ht => h _ (List.of_mem_zip ht).2

theorem isValid_of_mem_generate (xs : List Fr) :
    ∀ p ∈ xs.map (generate : Fr → G), isValid p = true := by
  rw [List.forall_mem_map]
  exact fun x _ => isValid_generate x

end ClosedSource

/-! ## What is made -/

/-- Rows, entries and assignments of a circuit are lists in memory, with 24 bytes
for a row, 40 for an entry and 32 for a value. -/
structure ConstraintSystem.InMemory (system : ConstraintSystem) : Prop where
  assignment : system.shape.width * 32 < 2 ^ 63
  rows : system.shape.constraints * 24 < 2 ^ 63
  entries : ∀ row ∈ system.matrices.a ++ system.matrices.b ++ system.matrices.c,
    row.length * 40 < 2 ^ 63

section

variable {system : ConstraintSystem}

theorem ConstraintSystem.Built.column_lt (h : system.Built) :
    ∀ row ∈ system.matrices.a ++ system.matrices.b ++ system.matrices.c, ∀ entry ∈ row,
      entry.2 < system.shape.width := by
  have haligned := h.aligned
  obtain ⟨calls, hcalls⟩ := h
  have hsystem := (Builder.completion_eq_ok hcalls).2
  have hcomplete := Builder.system_eq_ok_iff.1 ⟨system, hsystem⟩
  refine haligned.forall_mem fun row hrow => ?_
  have hcolumns := (Builder.lowered hsystem).column_lt hcomplete hrow
  rwa [List.forall_mem_append, List.forall_mem_append, and_assoc] at hcolumns

theorem ConstraintSystem.InMemory.counted (h : system.InMemory) : system.matrices.Counted := by
  have hmax : Read.maxCount = 2 ^ 64 - 1 := by decide
  intro row hrow
  have hlen := h.entries row hrow
  omega

theorem ConstraintSystem.Built.valid_shape (hbuilt : system.Built) (h : system.InMemory) :
    system.shape.Valid := by
  have hpublics := hbuilt.publics_pos
  have hwidth := h.assignment
  have hrows := h.rows
  rw [Shape.width] at hwidth
  exact ⟨hpublics, by rw [Shape.width]; omega, by omega⟩

theorem valid_of_assign (hbuilt : system.Built) (hmemory : system.InMemory)
    {secrets publics : List Fr} {w : Witness} (h : assign system secrets publics = .ok w) :
    w.Valid := by
  obtain ⟨hshape, hcheck⟩ := of_assign_eq_ok h
  obtain ⟨hlength, hone, -⟩ := ConstraintSystem.check_eq_ok_iff.1 hcheck
  exact ⟨hshape ▸ hbuilt.valid_shape hmemory, hshape ▸ hlength, hone⟩

theorem counted_publicProjection {w : Witness} (h : w.Valid) : w.publicProjection.Counted := by
  have hwidth := h.shape.width_le_maxCount
  rw [← h.length_values] at hwidth
  rw [PublicWitness.Counted, Witness.publicProjection, List.length_drop, List.length_take]
  omega

end

section

variable {G₁ G₂ : Type} [SourceOps G₁] [SourceOps G₂] [ClosedSource G₁] [ClosedSource G₂]
  {system : ConstraintSystem} {d : Domain} {t : Trapdoor}

open ClosedSource

theorem valid_verifying_keysOf (hshape : system.shape.Valid) :
    (keysOf system d G₁ G₂ t).verifying.Valid where
  shape := hshape
  points := ⟨isValid_generate _, isValid_generate _, isValid_generate _, isValid_generate _,
    isValid_of_mem_generate _⟩
  length_gammaAbc := length_gammaAbc_keysOf

theorem valid_proving_keysOf (hshape : system.shape.Valid)
    (haligned : system.matrices.Aligned system.shape.constraints)
    (hcolumns : ∀ row ∈ system.matrices.a ++ system.matrices.b ++ system.matrices.c,
      ∀ entry ∈ row, entry.2 < system.shape.width)
    (hd : Domain.ofShape system.shape = .ok d) :
    (keysOf system d G₁ G₂ t).proving.Valid where
  vk := valid_verifying_keysOf hshape
  points := ⟨isValid_generate _, isValid_generate _, isValid_of_mem_generate _,
    isValid_of_mem_generate _, isValid_of_mem_generate _, isValid_of_mem_generate _,
    isValid_of_mem_generate _⟩
  rows_b := haligned.2.1.trans haligned.1.symm
  rows_c := haligned.2.2.trans haligned.1.symm
  columns := hcolumns
  layout := layoutFault_keysOf hd haligned

theorem valid_of_setup (hbuilt : system.Built) (hmemory : system.InMemory) {keys : Keys G₁ G₂}
    (h : setup system t = .ok keys) :
    keys.verifying.Valid ∧ keys.proving.Valid ∧ keys.proving.matrices.Counted := by
  obtain ⟨hrows, d, hd⟩ := of_setup_eq_ok h
  obtain ⟨-, rfl⟩ := (setup_eq_ok_iff hrows hd).1 h
  have hshape := hbuilt.valid_shape hmemory
  exact ⟨valid_verifying_keysOf hshape,
    valid_proving_keysOf hshape hbuilt.aligned hbuilt.column_lt hd, hmemory.counted⟩

theorem valid_combineProof {pk : ProvingKey G₁ G₂} (hvk : pk.vk.PointsValid)
    (hpk : pk.PointsValid) (z h : List Fr) (blind : Blinding) :
    (combineProof pk z h blind).Valid := by
  have ha : isValid (pk.vk.alpha + combine (z.zip pk.aQuery) +
      SourceOps.scale blind.r pk.delta) = true :=
    isValid_add (isValid_add hvk.alpha (isValid_combine_zip z hpk.aQuery))
      (isValid_scale _ hpk.delta)
  have hb1 : isValid (pk.beta + combine (z.zip pk.b1Query) +
      SourceOps.scale blind.s pk.delta) = true :=
    isValid_add (isValid_add hpk.beta (isValid_combine_zip z hpk.b1Query))
      (isValid_scale _ hpk.delta)
  refine ⟨ha, ?_, ?_⟩
  · exact isValid_add (isValid_add hvk.beta (isValid_combine_zip z hpk.b2Query))
      (isValid_scale _ hvk.delta)
  · have hsum := isValid_add (isValid_combine_zip h hpk.hQuery)
      (isValid_combine_zip (z.drop pk.shape.publics) hpk.lQuery)
    exact isValid_add (isValid_add (isValid_add hsum (isValid_scale _ ha)) (isValid_scale _ hb1))
      (isValid_neg (isValid_scale _ hpk.delta))

omit [ClosedSource G₁] [ClosedSource G₂] in
theorem exists_domain_of_prove {pk : ProvingKey G₁ G₂} {w : Witness} {blind : Blinding}
    {proof : Proof G₁ G₂} (h : prove pk w blind = .ok proof) :
    ∃ d, Domain.ofShape pk.shape = .ok d := by
  cases hd : Domain.ofShape pk.shape with
  | ok d => exact ⟨d, rfl⟩
  | error cause =>
      have hfault : pk.layoutFault = some (.setup cause) := by
        rw [ProvingKey.layoutFault, hd]
      rw [prove] at h
      by_cases hshape : w.shape = pk.shape
      · simp only [hshape, hfault, ne_eq, not_true_eq_false, if_false] at h
        cases h
      · rw [if_pos hshape] at h
        cases h

/-- The prover leaves the elements of its key unchecked: where they are valid,
those of the proof are. -/
theorem valid_of_prove {pk : ProvingKey G₁ G₂} (hvk : pk.vk.PointsValid) (hpk : pk.PointsValid)
    {w : Witness} {blind : Blinding} {proof : Proof G₁ G₂} (h : prove pk w blind = .ok proof) :
    proof.Valid := by
  obtain ⟨d, hd⟩ := exists_domain_of_prove h
  obtain ⟨-, -, -, -, rfl⟩ := (prove_eq_ok_iff hd).1 h
  exact valid_combineProof hvk hpk _ _ _

end

/-! ## Artifacts and their bytes -/

/-- What is valid comes back from its bytes, as long as its lengths can be
written, and whatever comes back from bytes is valid. -/
structure Artifact.Faithful (α : Type) [Artifact α] (valid counted : α → Prop) : Prop where
  decode_encode : ∀ x : α, valid x → counted x → decode (encode x) = .ok x
  of_decode : ∀ (bytes : Bytes) (x : α), decode bytes = .ok x → valid x ∧ counted x

theorem Artifact.faithful {α : Type} [Artifact α] {valid counted : α → Prop}
    (htag : (tag α).length = 4)
    (hreads : ∀ x : α, valid x → counted x → Reads (read : Read α) (write x) x)
    (hreturns : Returns (read : Read α) fun x => valid x ∧ counted x) :
    Faithful α valid counted where
  decode_encode x hvalid hcounted := Artifact.decode_encode htag (hreads x hvalid hcounted)
  of_decode _ _ hx := Artifact.of_decode hreturns hx

theorem faithful_witness : Artifact.Faithful Witness Witness.Valid fun _ => True :=
  Artifact.faithful (show (Bytes.ofString "HPWT").length = 4 by decide +kernel)
    (fun _ hw _ => reads_witness hw) (returns_witness.mono fun _ hw => ⟨hw, trivial⟩)

theorem faithful_publicWitness :
    Artifact.Faithful PublicWitness (fun _ => True) PublicWitness.Counted :=
  Artifact.faithful (show (Bytes.ofString "HPPW").length = 4 by decide +kernel)
    (fun _ _ hp => reads_publicWitness hp) (returns_publicWitness.mono fun _ hp => ⟨trivial, hp⟩)

section

variable {G₁ G₂ : Type} [SourceOps G₁] [SourceOps G₂] [ElementCodec G₁] [ElementCodec G₂]
  (h₁ : ElementCodec.Lawful G₁ (isValid · = true)) (h₂ : ElementCodec.Lawful G₂ (isValid · = true))

include h₁ h₂

theorem faithful_proof : Artifact.Faithful (Proof G₁ G₂) Proof.Valid fun _ => True :=
  Artifact.faithful (show (Bytes.ofString "HPPF").length = 4 by decide +kernel)
    (fun _ hproof _ => reads_proof h₁ h₂ hproof)
    ((returns_proof h₁ h₂).mono fun _ hproof => ⟨hproof, trivial⟩)

theorem faithful_verifyingKey :
    Artifact.Faithful (VerifyingKey G₁ G₂) VerifyingKey.Valid fun _ => True :=
  Artifact.faithful (show (Bytes.ofString "HPVK").length = 4 by decide +kernel)
    (fun _ hvk _ => reads_verifyingKey h₁ h₂ hvk)
    ((returns_verifyingKey h₁ h₂).mono fun _ hvk => ⟨hvk, trivial⟩)

theorem faithful_provingKey :
    Artifact.Faithful (ProvingKey G₁ G₂) ProvingKey.Valid (·.matrices.Counted) :=
  Artifact.faithful (show (Bytes.ofString "HPPK").length = 4 by decide +kernel)
    (fun _ hpk hrows => reads_provingKey h₁ h₂ hpk hrows) (returns_provingKey h₁ h₂)

end

/-- Every artifact comes back from its bytes, every artifact that comes back
from bytes is valid, and so is every artifact that is made. -/
theorem artifacts_survive_encoding {G₁ G₂ : Type} [SourceOps G₁] [SourceOps G₂] [ElementCodec G₁]
    [ElementCodec G₂] (h₁ : ElementCodec.Lawful G₁ (isValid · = true))
    (h₂ : ElementCodec.Lawful G₂ (isValid · = true)) :
    Artifact.Faithful (Proof G₁ G₂) Proof.Valid (fun _ => True) ∧
    Artifact.Faithful (VerifyingKey G₁ G₂) VerifyingKey.Valid (fun _ => True) ∧
    Artifact.Faithful (ProvingKey G₁ G₂) ProvingKey.Valid (·.matrices.Counted) ∧
    Artifact.Faithful Witness Witness.Valid (fun _ => True) ∧
    Artifact.Faithful PublicWitness (fun _ => True) PublicWitness.Counted ∧
    (∀ system secrets publics w, system.Built → system.InMemory →
      assign system secrets publics = .ok w → w.Valid) ∧
    (∀ w : Witness, w.Valid → w.publicProjection.Counted) ∧
    (ClosedSource G₁ → ClosedSource G₂ →
      (∀ system t, ∀ keys : Keys G₁ G₂, system.Built → system.InMemory →
        setup system t = .ok keys →
          keys.verifying.Valid ∧ keys.proving.Valid ∧ keys.proving.matrices.Counted) ∧
      ∀ pk : ProvingKey G₁ G₂, pk.vk.PointsValid → pk.PointsValid → ∀ w blind proof,
        prove pk w blind = .ok proof → proof.Valid) := by
  refine ⟨faithful_proof h₁ h₂, faithful_verifyingKey h₁ h₂, faithful_provingKey h₁ h₂,
    faithful_witness, faithful_publicWitness, ?_, fun _ => counted_publicProjection,
    fun _ _ => ⟨?_, ?_⟩⟩
  · intro system secrets publics w hbuilt hmemory hassign
    exact valid_of_assign hbuilt hmemory hassign
  · intro system t keys hbuilt hmemory hsetup
    exact valid_of_setup hbuilt hmemory hsetup
  · intro pk hvk hpk w blind proof hprove
    exact valid_of_prove hvk hpk hprove

/-! The points of the curve, and a whole run over the exponents, which are written
like field elements. -/

namespace Exponent

instance : ElementCodec Exponent where
  width := 32
  encode p := p.log.toBytes
  decode bytes := (Residue.ofBytes bytes).map .mk

theorem lawful : ElementCodec.Lawful Exponent (isValid · = true) where
  length_encode p := p.log.length_toBytes
  decode_encode p _ := by
    have hlog : Residue.ofBytes p.log.toBytes = .ok p.log := Fr.lawful.decode_encode p.log trivial
    show Except.map Exponent.mk (Residue.ofBytes p.log.toBytes) = _
    rw [hlog]
    rfl
  valid_of_decode _ _ _ := rfl

end Exponent

theorem squareSystem_artifacts_survive :
    decode (encode (⟨G1.generator, G2.generator, .infinity⟩ : Proof G1 G2)) =
      .ok (⟨G1.generator, G2.generator, .infinity⟩ : Proof G1 G2) ∧
    ∃ keys : Keys Exponent Exponent, setup squareSystem ⟨2, 3, 5, 7, 11⟩ = .ok keys ∧
      decode (encode keys.verifying) = .ok keys.verifying ∧
      decode (encode keys.proving) = .ok keys.proving ∧
      ∃ w proof, assign squareSystem [3] [9] = .ok w ∧ prove keys.proving w ⟨13, 17⟩ = .ok proof ∧
        decode (encode w) = .ok w ∧ decode (encode proof) = .ok proof ∧
        decode (encode w.publicProjection) = .ok w.publicProjection := by
  obtain ⟨hcurve, -⟩ := artifacts_survive_encoding G1.lawful G2.lawful
  obtain ⟨hproof, hvk, hpk, hw, hp, hassigned, hprojected, hmade⟩ :=
    artifacts_survive_encoding Exponent.lawful Exponent.lawful
  have hmemory : squareSystem.InMemory := ⟨by decide, by decide, by decide⟩
  have hdomain : Domain.ofShape squareSystem.shape = .ok squareDomain := by rfl
  have hassign : assign squareSystem [3] [9] = .ok ⟨squareSystem.shape, [1, 9, 3, 9]⟩ := by rfl
  obtain ⟨husable, -⟩ := (setup_eq_ok_iff (by decide) hdomain).1 squareSystem_setup
  obtain ⟨c, hprove, -⟩ := prove_eq_exponents Exponent Exponent husable hdomain
    squareSystem_built.aligned (provable_of_assign hassign) ⟨13, 17⟩
  obtain ⟨hsetups, hproofs⟩ := hmade inferInstance inferInstance
  obtain ⟨hvalid_vk, hvalid_pk, hrows⟩ := hsetups _ _ _ squareSystem_built hmemory squareSystem_setup
  have hvalid_w := hassigned _ _ _ _ squareSystem_built hmemory hassign
  have hvalid_proof := hproofs _ hvalid_pk.vk.points hvalid_pk.points _ _ _ hprove
  refine ⟨hcurve.decode_encode _ ⟨by decide, by decide +kernel, rfl⟩ trivial, _,
    squareSystem_setup, ?_⟩
  refine ⟨hvk.decode_encode _ hvalid_vk trivial, hpk.decode_encode _ hvalid_pk hrows, _, _,
    hassign, hprove, ?_⟩
  exact ⟨hw.decode_encode _ hvalid_w trivial, hproof.decode_encode _ hvalid_proof trivial,
    hp.decode_encode _ trivial (hprojected _ hvalid_w)⟩

/-! A key that never went through bytes can hold a point that decoding would
refuse. The prover adds it up with the rest. -/

/-- A point of the twisted curve that is outside the subgroup. -/
def strayPoint : G2 :=
  .affine ⟨(0 : Nat), (1 : Nat)⟩
    ⟨(5857410223677516958241855868975604786906559121396168184066542210254491971240 : Nat),
      (3499505209057624827709920819629410982529044040404494099368353913743455207650 : Nat)⟩

/-- A key of the smallest circuit with that point put in. -/
def strayKey : ProvingKey G1 G2 where
  vk := ⟨⟨1, 1, 0, 0⟩, .infinity, strayPoint, .infinity, .infinity, [.infinity]⟩
  beta := .infinity
  delta := .infinity
  aQuery := [.infinity]
  b1Query := [.infinity]
  b2Query := [.infinity]
  hQuery := [.infinity]
  lQuery := []
  matrices := ⟨[[]], [[]], [[]]⟩

theorem prove_strayKey_not_valid :
    prove strayKey ⟨⟨1, 1, 0, 0⟩, [1]⟩ ⟨0, 0⟩ = .ok ⟨.infinity, strayPoint, .infinity⟩ ∧
      ¬ (⟨.infinity, strayPoint, .infinity⟩ : Proof G1 G2).Valid := by
  have hd : Domain.ofShape strayKey.shape = .ok ⟨1, by decide⟩ := by rfl
  refine ⟨(prove_eq_ok_iff hd).2 ⟨rfl, by rfl, rfl, ?_, by decide +kernel⟩, fun h => ?_⟩
  · exact Matrices.check_eq_ok_iff.1 (by rfl)
  · exact absurd h.b (by decide +kernel)

end PreimageProof
