import Mathlib
import PreimageProof.Preimage
import PreimageProof.Proofs.Codec.Faithful
import PreimageProof.Proofs.Mimc.KeyBinding

/-!
# Keys of the standard circuit

Whatever secrets a setup of the standard circuit used, its keys can be written
and read back, they prove exactly the pairs of a preimage and its hash, and
they accept every proof they made. Nothing about memory has to be assumed
here: a row mentions no variable twice, so it is not longer than the circuit
is wide, and the standard circuit is small.
-/

namespace PreimageProof

open SourceOps (generate)

/-! ## The length of a row

Terms are in the order of their variables, and so are the places of variables
that were handed out. -/

namespace Builder

variable {b : Builder}

theorem length_row_le_width {lc : LinearCombination} (h : lc.Over b.HandedOut) :
    (lc.row b.shape).length ≤ b.shape.width := by
  have hplaces : (lc.terms.map fun t => b.shape.place t.1).Pairwise (· < ·) :=
    List.pairwise_map.2 (lc.ordered.imp_of_mem fun hs _ hlt => place_lt_place (h _ hs) hlt)
  have hwithin : (lc.terms.map fun t => b.shape.place t.1) ⊆ List.range b.shape.width := by
    intro n hn
    obtain ⟨t, ht, rfl⟩ := List.mem_map.1 hn
    exact List.mem_range.2 (place_lt_width (h t ht))
  have hle := (List.subperm_of_subset (hplaces.imp Nat.ne_of_lt) hwithin).length_le
  rw [List.length_map, List.length_range] at hle
  rw [LinearCombination.row, List.length_map]
  exact hle

end Builder

theorem Lowered.counted {b : Builder} {system : ConstraintSystem} (h : Lowered b system)
    (hb : b.Complete) (hwidth : system.shape.width ≤ Read.maxCount) :
    system.matrices.Counted := by
  refine h.aligned.forall_mem fun row hrow => ?_
  rw [h.matrices] at hrow
  obtain ⟨c, hc, rfl⟩ := List.mem_map.1 hrow
  obtain ⟨k, hk⟩ := List.mem_iff_getElem?.1 hc
  rw [Array.getElem?_toList] at hk
  obtain ⟨hleft, hright, hout⟩ := hb.constraint hk
  rw [h.shape] at hwidth
  exact ⟨(Builder.length_row_le_width hleft).trans hwidth,
    (Builder.length_row_le_width hright).trans hwidth,
    (Builder.length_row_le_width hout).trans hwidth⟩

/-! ## The standard circuit -/

namespace Preimage

def standardDomain : Domain := ⟨9, by decide⟩

/-- What is used of the standard circuit and the builder it comes from. -/
structure IsCircuit (compiled : CompiledCircuit) (b : Builder) (last : Constraint) : Prop where
  compiles : circuit = .ok compiled
  states : StatesHash Mimc.bn254 b last
  lowered : Lowered b compiled.system

theorem exists_isCircuit : ∃ compiled b last, IsCircuit compiled b last := by
  obtain ⟨compiled, b, last, hcompiled, h, hlowered⟩ := exists_compiled Mimc.bn254
  exact ⟨compiled, b, last, hcompiled, h, hlowered⟩

namespace IsCircuit

variable {compiled : CompiledCircuit} {b : Builder} {last : Constraint}

theorem shape_eq (h : IsCircuit compiled b last) : compiled.system.shape = ⟨331, 2, 1, 330⟩ := by
  rw [h.lowered.shape, h.states.shape, Mimc.rounds_bn254]

theorem valid_shape (h : IsCircuit compiled b last) : compiled.system.shape.Valid := by
  rw [h.shape_eq]
  exact ⟨by decide, by decide, by decide⟩

theorem domain_eq (h : IsCircuit compiled b last) :
    Domain.ofShape compiled.system.shape = .ok standardDomain := by
  rw [h.shape_eq]
  rfl

theorem column_lt (h : IsCircuit compiled b last) :
    ∀ row ∈ compiled.system.matrices.a ++ compiled.system.matrices.b ++ compiled.system.matrices.c,
      ∀ entry ∈ row, entry.2 < compiled.system.shape.width := by
  refine h.lowered.aligned.forall_mem fun row hrow => ?_
  have hcolumns := h.lowered.column_lt h.states.ready.complete hrow
  rwa [List.forall_mem_append, List.forall_mem_append, and_assoc] at hcolumns

theorem counted (h : IsCircuit compiled b last) : compiled.system.matrices.Counted := by
  refine h.lowered.counted h.states.ready.complete ?_
  rw [h.shape_eq]
  decide

end IsCircuit

/-! ## Its keys -/

section

variable {G₁ G₂ : Type} [SourceOps G₁] [SourceOps G₂]

/-- Keys that a setup of the standard circuit makes. -/
def Makes (keys : Keys G₁ G₂) : Prop := ∃ t compiled, setup t = .ok (compiled, keys)

theorem setup_ok_iff {compiled : CompiledCircuit} {b : Builder} {last : Constraint}
    (h : IsCircuit compiled b last) {t : Trapdoor} {compiled' : CompiledCircuit}
    {keys : Keys G₁ G₂} :
    setup t = .ok (compiled', keys) ↔
      compiled' = compiled ∧ t.Usable standardDomain ∧
        keys = keysOf compiled.system standardDomain G₁ G₂ t := by
  have hrows : compiled.system.shape.constraints ≠ 0 := by
    rw [h.shape_eq]
    decide
  rw [← setup_eq_ok_iff hrows h.domain_eq, setup, h.compiles]
  show (PreimageProof.setup compiled.system t >>= fun keys => pure (compiled, keys)) = _ ↔ _
  rw [bind_eq_ok_iff]
  constructor
  · rintro ⟨keys', hkeys, h⟩
    cases h
    exact ⟨rfl, hkeys⟩
  · rintro ⟨rfl, hkeys⟩
    exact ⟨keys, hkeys, rfl⟩

namespace Makes

variable {keys : Keys G₁ G₂} {x y : Fr}

theorem exists_keysOf (h : Makes keys) : ∃ compiled b last t, IsCircuit compiled b last ∧
    t.Usable standardDomain ∧ keys = keysOf compiled.system standardDomain G₁ G₂ t := by
  obtain ⟨t, compiled', hsetup⟩ := h
  obtain ⟨compiled, b, last, hcircuit⟩ := exists_isCircuit
  obtain ⟨-, husable, hkeys⟩ := (setup_ok_iff hcircuit).1 hsetup
  exact ⟨compiled, b, last, t, hcircuit, husable, hkeys⟩

theorem prove_of_ne (h : Makes keys) (hne : mimcHash x ≠ y) (blind : Blinding) :
    prove keys.proving x y blind = .error (.unsatisfied 330) := by
  obtain ⟨compiled, b, last, t, hcircuit, -, rfl⟩ := h.exists_keysOf
  exact prove_of_hash_ne _ hcircuit.compiles hcircuit.states hcircuit.lowered rfl blind hne

theorem valid_verifying [ClosedSource G₁] [ClosedSource G₂] (h : Makes keys) :
    keys.verifying.Valid := by
  obtain ⟨compiled, b, last, t, hcircuit, -, rfl⟩ := h.exists_keysOf
  exact valid_verifying_keysOf hcircuit.valid_shape

theorem valid_proving [ClosedSource G₁] [ClosedSource G₂] (h : Makes keys) :
    keys.proving.Valid ∧ keys.proving.matrices.Counted := by
  obtain ⟨compiled, b, last, t, hcircuit, -, rfl⟩ := h.exists_keysOf
  exact ⟨valid_proving_keysOf hcircuit.valid_shape hcircuit.lowered.aligned hcircuit.column_lt
    hcircuit.domain_eq, hcircuit.counted⟩

/-- Of a pair that matches there is a proof, and the keys accept it. -/
theorem prove_of_eq {GT : Type} [PairingOps G₁ G₂ GT] [DecidableEq GT] [LawfulSource G₁]
    [LawfulSource G₂] [BilinearPairing G₁ G₂] (h : Makes keys) (heq : mimcHash x = y)
    (blind : Blinding) :
    ∃ proof, prove keys.proving x y blind = .ok (proof, ⟨[y]⟩) ∧ proof.Valid ∧
      keys.verifying.verify ⟨[y]⟩ proof = .ok true := by
  obtain ⟨compiled, b, last, t, hcircuit, husable, rfl⟩ := h.exists_keysOf
  obtain ⟨w, hw⟩ := (hcircuit.states.assign_eq hcircuit.lowered x y).1 heq
  obtain ⟨-, rest, hvalues⟩ := hcircuit.states.values_of_assign hcircuit.lowered hw
  obtain ⟨c, hproof, hequation⟩ := prove_eq_exponents G₁ G₂ husable hcircuit.domain_eq
    hcircuit.lowered.aligned (provable_of_assign hw) blind
  -- Which exponents the proof has does not matter, only the equation between them.
  generalize exponentA compiled.system standardDomain t w.values blind.r = ea,
    exponentB compiled.system standardDomain t w.values blind.s = eb at hproof hequation
  have hpublics : compiled.system.shape.publics = 2 := by rw [hcircuit.shape_eq]
  refine ⟨⟨generate ea, generate eb, generate c⟩, ?_, ⟨LawfulSource.isValid_generate ea,
    LawfulSource.isValid_generate eb, LawfulSource.isValid_generate c⟩, ?_⟩
  · have hassign : compiled.assign [x] [y] = .ok w := hw
    rw [prove_of_sameShape _ hcircuit.compiles x y blind rfl, hassign,
      ← hcircuit.states.publicProjection_of_assign hcircuit.lowered hw]
    show (PreimageProof.prove _ w blind >>= fun proof => _) = _
    rw [hproof]
    rfl
  · have hstatement : w.values.take compiled.system.shape.publics = [1, y] := by
      rw [hpublics, hvalues]
      rfl
    rw [statementExponent, hstatement] at hequation
    refine (verify_keysOf (by rw [hpublics]; decide) husable.gamma_ne_zero
      (by rw [hpublics]; rfl) _ _ _).trans ?_
    rw [hequation, decide_eq_true rfl]

end Makes

end

end Preimage

end PreimageProof
