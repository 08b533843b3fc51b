import Mathlib
import PreimageProof.Preimage
import PreimageProof.Proofs.Groth16.Completeness
import PreimageProof.Proofs.Mimc.Permutation
import PreimageProof.Proofs.Mimc.Preimage

/-!
# Keys of other circuits

Before a preimage is proved, the key is compared with the circuit, but only
their shapes are. A key made for a circuit of another shape is refused as
such. A key made for another circuit of the same shape is not: the witness is
assigned under the standard circuit and then checked against the matrices of
the key, and if these state something else, a pair that matches is reported
as one that does not.

Such circuits are easily had. The shape of the circuit of a cipher depends on
the number of its rounds alone, so any cipher with as many rounds will do; and
adding 1 to the last round constant changes the hash of every block, because
the fifth power is injective.
-/

namespace PreimageProof

/-! ## The circuit and its witnesses -/

theorem Mimc.length_digestChain (rounds : Nat) (digest : Bytes) :
    (digestChain rounds digest).length = rounds := by
  induction rounds generalizing digest with
  | zero => rfl
  | succ rounds ih => exact congrArg (· + 1) (ih _)

theorem Mimc.rounds_bn254 : Mimc.bn254.rounds = 110 := length_digestChain _ _

theorem exists_compiled (m : Mimc) : ∃ compiled b last,
    compile (preimageCircuit m) = .ok compiled ∧ StatesHash m b last ∧
      Lowered b compiled.system := by
  obtain ⟨b, last, hrun, h⟩ := preimageCircuit_on m
  obtain ⟨system, hsystem⟩ := Builder.system_eq_ok_iff.2 h.ready.complete
  exact ⟨_, b, last, compile_eq_ok hrun h.ready.unfrozen hsystem, h, Builder.lowered hsystem⟩

namespace StatesHash

variable {m : Mimc} {b : Builder} {last : Constraint} {system : ConstraintSystem}

/-- A witness begins with the constant, the hash and the preimage. -/
theorem values_of_assign (h : StatesHash m b last) (hlowered : Lowered b system) {x y : Fr}
    {w : Witness} (hw : assign system [x] [y] = .ok w) :
    w.shape = system.shape ∧ ∃ rest, w.values = 1 :: y :: x :: rest := by
  obtain ⟨hshape, -, rest, hvalues⟩ := hlowered.values_of_assign h.consistent hw
  exact ⟨hshape, rest, hvalues⟩

theorem publicProjection_of_assign (h : StatesHash m b last) (hlowered : Lowered b system)
    {x y : Fr} {w : Witness} (hw : assign system [x] [y] = .ok w) :
    w.publicProjection = ⟨[y]⟩ :=
  hlowered.publicProjection_of_assign h.consistent hw

/-- The witness of a pair under one cipher, in a circuit that states the hash
of another. -/
theorem not_satisfied_of_hash_ne {m' : Mimc} {b' : Builder} {last' : Constraint}
    {system' : ConstraintSystem} (h' : StatesHash m' b' last') (hlowered' : Lowered b' system')
    (h : StatesHash m b last) (hlowered : Lowered b system) {x y : Fr} (hne : m'.hash [x] ≠ y)
    {w : Witness} (hw : assign system [x] [y] = .ok w) :
    ¬ system'.matrices.Satisfied w.values := by
  intro hsatisfied
  obtain ⟨-, rest, hvalues⟩ := h.values_of_assign hlowered hw
  have hstates := h'.of_satisfied hlowered' (by rw [hvalues]; rfl) hsatisfied
  rw [hvalues] at hstates
  exact hne hstates.symm

end StatesHash

/-! ## Proving with any key -/

namespace Preimage

section

variable {G₁ G₂ : Type} [SourceOps G₁] [SourceOps G₂] (pk : ProvingKey G₁ G₂)
  {compiled : CompiledCircuit} (hcompiled : circuit = .ok compiled) (x y : Fr) (blind : Blinding)

include hcompiled

theorem prove_of_otherShape (hshape : pk.shape ≠ compiled.system.shape) :
    prove pk x y blind =
      .error (.verification (.otherCircuit pk.shape compiled.system.shape)) := by
  have hcheck : pk.vk.checkCircuit compiled.system =
      .error (.otherCircuit pk.shape compiled.system.shape) := if_neg hshape
  rw [prove, hcompiled]
  show ((pk.vk.checkCircuit compiled.system).mapError Error.verification >>= fun _ => _) = _
  rw [hcheck]
  rfl

/-- A key of the right shape is taken for a key of the circuit. -/
theorem prove_of_sameShape (hshape : pk.shape = compiled.system.shape) :
    prove pk x y blind = (do
      let w ← compiled.assign [x] [y]
      let proof ← PreimageProof.prove pk w blind
      return (proof, w.publicProjection)) := by
  have hcheck : pk.vk.checkCircuit compiled.system = .ok () := if_pos hshape
  rw [prove, hcompiled]
  show ((pk.vk.checkCircuit compiled.system).mapError Error.verification >>= fun _ => _) = _
  rw [hcheck]
  rfl

end

section

variable {G₁ G₂ : Type} [SourceOps G₁] [SourceOps G₂] (pk : ProvingKey G₁ G₂)
  {compiled : CompiledCircuit} {b : Builder} {last : Constraint}
  (hcompiled : circuit = .ok compiled) (h : StatesHash Mimc.bn254 b last)
  (hlowered : Lowered b compiled.system) (hshape : pk.shape = compiled.system.shape)
  {x y : Fr} (blind : Blinding)

include hcompiled h hlowered hshape

theorem prove_of_hash_ne (hne : mimcHash x ≠ y) :
    prove pk x y blind = .error (.unsatisfied 330) := by
  have hassign : compiled.assign [x] [y] = .error (.unsatisfied (3 * Mimc.bn254.rounds)) :=
    (h.assign_eq hlowered x y).2 hne
  rw [Mimc.rounds_bn254] at hassign
  rw [prove_of_sameShape pk hcompiled x y blind hshape, hassign]
  rfl

/-- Of a pair that matches, the matrices of the key have the last word. -/
theorem prove_of_hash_eq (hlayout : pk.layoutFault = none) (heq : mimcHash x = y) :
    ∃ w, compiled.assign [x] [y] = .ok w ∧
      (pk.matrices.Satisfied w.values → ∃ proof, prove pk x y blind = .ok (proof, ⟨[y]⟩)) ∧
      (¬ pk.matrices.Satisfied w.values → ∃ k, prove pk x y blind = .error (.unsatisfied k) ∧
        IsLeast {k | pk.matrices.Violates w.values k} k) := by
  obtain ⟨d, hd, -⟩ := ProvingKey.layoutFault_eq_none_iff.1 hlayout
  obtain ⟨w, hw⟩ := (h.assign_eq hlowered x y).1 heq
  have hassign : compiled.assign [x] [y] = .ok w := hw
  obtain ⟨hwshape, rest, hvalues⟩ := h.values_of_assign hlowered hw
  have hone : w.values.head? = some 1 := by
    rw [hvalues]
    rfl
  refine ⟨w, hw, fun hsatisfied => ?_, fun hviolated => ?_⟩
  · obtain ⟨proof, hproof⟩ : ∃ proof, PreimageProof.prove pk w blind = .ok proof :=
      ⟨_, (prove_eq_ok_iff hd).2 ⟨hwshape.trans hshape.symm, hlayout, hone, hsatisfied, rfl⟩⟩
    refine ⟨proof, ?_⟩
    rw [prove_of_sameShape pk hcompiled x y blind hshape, hassign,
      ← h.publicProjection_of_assign hlowered hw]
    show (PreimageProof.prove pk w blind >>= fun proof => _) = _
    rw [hproof]
    rfl
  · obtain ⟨k, hprove, hleast⟩ :=
      prove_eq_unsatisfied hd (hwshape.trans hshape.symm) hlayout hone hviolated blind
    refine ⟨k, ?_, hleast⟩
    rw [prove_of_sameShape pk hcompiled x y blind hshape, hassign]
    show (PreimageProof.prove pk w blind >>= fun proof => _) = _
    rw [hprove]
    rfl

end

/-- How proving a preimage ends with the keys of any circuit. -/
theorem prove_verdict {G₁ G₂ : Type} [SourceOps G₁] [SourceOps G₂] {system : ConstraintSystem}
    (hbuilt : system.Built) {t : Trapdoor} {keys : Keys G₁ G₂}
    (hsetup : PreimageProof.setup system t = .ok keys) (x y : Fr) (blind : Blinding) :
    ∃ compiled, circuit = .ok compiled ∧ compiled.system.shape = ⟨331, 2, 1, 330⟩ ∧
      (system.shape ≠ compiled.system.shape → prove keys.proving x y blind =
        .error (.verification (.otherCircuit system.shape compiled.system.shape))) ∧
      (system.shape = compiled.system.shape → mimcHash x ≠ y → prove keys.proving x y blind =
        .error (.unsatisfied 330)) ∧
      (system.shape = compiled.system.shape → mimcHash x = y →
        ∃ w, compiled.assign [x] [y] = .ok w ∧
          (system.matrices.Satisfied w.values →
            ∃ proof, prove keys.proving x y blind = .ok (proof, ⟨[y]⟩)) ∧
          (¬ system.matrices.Satisfied w.values →
            ∃ k, prove keys.proving x y blind = .error (.unsatisfied k) ∧
              IsLeast {k | system.matrices.Violates w.values k} k)) ∧
      (system.shape = compiled.system.shape → system.matrices = compiled.system.matrices →
        mimcHash x = y → ∃ proof, prove keys.proving x y blind = .ok (proof, ⟨[y]⟩)) := by
  obtain ⟨hrows, d, hd⟩ := of_setup_eq_ok hsetup
  obtain ⟨-, hkeys⟩ := (setup_eq_ok_iff hrows hd).1 hsetup
  have hsystem : keys.proving.shape = system.shape ∧ keys.proving.matrices = system.matrices := by
    rw [hkeys]
    exact ⟨rfl, rfl⟩
  have hlayout : keys.proving.layoutFault = none := by
    rw [hkeys]
    exact layoutFault_keysOf hd hbuilt.aligned
  obtain ⟨compiled, b, last, hcompiled, h, hlowered⟩ := exists_compiled Mimc.bn254
  have hcompiled_shape := hlowered.shape.trans h.shape
  rw [Mimc.rounds_bn254] at hcompiled_shape
  rw [← hsystem.1, ← hsystem.2]
  refine ⟨compiled, hcompiled, hcompiled_shape,
    prove_of_otherShape _ hcompiled x y blind, ?_, ?_, ?_⟩
  · exact fun hshape hne => prove_of_hash_ne _ hcompiled h hlowered hshape blind hne
  · exact fun hshape heq => prove_of_hash_eq _ hcompiled h hlowered hshape blind hlayout heq
  · intro hshape hmatrices heq
    obtain ⟨w, hw, hproved, -⟩ :=
      prove_of_hash_eq _ hcompiled h hlowered hshape blind hlayout heq
    have hsatisfied := satisfied_of_assign hw
    rw [← hmatrices] at hsatisfied
    exact hproved hsatisfied

/-- With the keys of a single square the circuit is another. -/
theorem prove_with_square_keys :
    prove (keysOf squareSystem squareDomain Exponent Exponent ⟨2, 3, 5, 7, 11⟩).proving 3 9
        ⟨13, 17⟩ =
      .error (.verification (.otherCircuit squareSystem.shape ⟨331, 2, 1, 330⟩)) := by
  obtain ⟨compiled, -, hshape, hother, -⟩ :=
    prove_verdict squareSystem_built squareSystem_setup 3 9 ⟨13, 17⟩
  rw [hshape] at hother
  exact hother (by decide)

end Preimage

/-! ## Another cipher with as many rounds -/

namespace Mimc

/-- The cipher with 1 added to its last round constant. -/
def nudged (m : Mimc) : Mimc where
  constants := m.constants.dropLast ++ [m.constants.getLast m.nonempty + 1]
  nonempty := by simp

theorem rounds_nudged (m : Mimc) : m.nudged.rounds = m.rounds := by
  have hpos := List.length_pos_of_ne_nil m.nonempty
  simp only [rounds, nudged, List.length_append, List.length_dropLast, List.length_singleton]
  omega

theorem hash_nudged_ne (m : Mimc) (x : Fr) : m.nudged.hash [x] ≠ m.hash [x] := by
  intro h
  have hencrypt : m.nudged.encrypt x 0 = m.encrypt x 0 := by
    simpa [hash, absorb] using h
  rw [encrypt, encrypt, add_left_inj] at hencrypt
  rw [← List.dropLast_append_getLast m.nonempty] at hencrypt
  simp only [nudged, List.foldl_append, List.foldl_cons, List.foldl_nil, round_eq_pow]
    at hencrypt
  have hlast := Fr.pow_five_injective hencrypt
  simp at hlast

end Mimc

/-- A pair that matches is refused with the keys of a cipher under which it does
not, if that has as many rounds. -/
theorem Preimage.prove_with_keys_of_rounds {G₁ G₂ : Type} [SourceOps G₁] [SourceOps G₂]
    {m : Mimc} (hrounds : m.rounds = Mimc.bn254.rounds) {compiled : CompiledCircuit}
    (hcompiled : compile (preimageCircuit m) = .ok compiled) {t : Trapdoor} {keys : Keys G₁ G₂}
    (hsetup : PreimageProof.setup compiled.system t = .ok keys) {x y : Fr}
    (heq : mimcHash x = y) (hne : m.hash [x] ≠ y) (blind : Blinding) :
    ∃ k, prove keys.proving x y blind = .error (.unsatisfied k) := by
  obtain ⟨hrows, d, hd⟩ := of_setup_eq_ok hsetup
  obtain ⟨-, rfl⟩ := (setup_eq_ok_iff hrows hd).1 hsetup
  obtain ⟨compiled', b', last', hcompiled', h', hlowered'⟩ := exists_compiled m
  obtain rfl : compiled' = compiled := Except.ok.inj (hcompiled'.symm.trans hcompiled)
  obtain ⟨standard, b, last, hstandard, h, hlowered⟩ := exists_compiled Mimc.bn254
  have hshape : compiled'.system.shape = standard.system.shape := by
    rw [hlowered'.shape, h'.shape, hlowered.shape, h.shape, hrounds]
  obtain ⟨w, hw, -, hviolated⟩ := prove_of_hash_eq (keysOf _ d G₁ G₂ t).proving hstandard h
    hlowered hshape blind (layoutFault_keysOf hd hlowered'.aligned) heq
  obtain ⟨k, hprove, -⟩ := hviolated (h'.not_satisfied_of_hash_ne hlowered' h hlowered hne hw)
  exact ⟨k, hprove⟩

/-- A preimage of a hash, refused as none with the keys of another circuit. -/
theorem Preimage.prove_with_nudged_keys :
    ∃ standard nudged keys k, circuit = .ok standard ∧
      compile (preimageCircuit Mimc.bn254.nudged) = .ok nudged ∧
      nudged.system.matrices ≠ standard.system.matrices ∧
      (PreimageProof.setup nudged.system ⟨2, 3, 5, 7, Fr.generator⟩ :
        Except Error (Keys G1 G2)) = .ok keys ∧
      prove keys.proving 35 (mimcHash 35) ⟨13, 17⟩ = .error (.unsatisfied k) := by
  obtain ⟨standard, b, last, hstandard, h, hlowered⟩ := exists_compiled Mimc.bn254
  obtain ⟨nudged, b', last', hnudged, h', hlowered'⟩ := exists_compiled Mimc.bn254.nudged
  have hshape := hlowered'.shape.trans h'.shape
  rw [Mimc.rounds_nudged, Mimc.rounds_bn254] at hshape
  have hd : Domain.ofShape nudged.system.shape = .ok ⟨9, by decide⟩ := by
    rw [hshape]
    rfl
  have hne := Mimc.hash_nudged_ne Mimc.bn254 35
  have hsetup : (PreimageProof.setup nudged.system ⟨2, 3, 5, 7, Fr.generator⟩ :
      Except Error (Keys G1 G2)) =
        .ok (keysOf nudged.system ⟨9, by decide⟩ G1 G2 ⟨2, 3, 5, 7, Fr.generator⟩) := by
    refine (setup_eq_ok_iff ?_ hd).2 ⟨⟨by decide, by decide, ?_⟩, rfl⟩
    · rw [hshape]
      decide
    · exact Domain.vanishing_generator_ne_zero _
  obtain ⟨k, hprove⟩ := prove_with_keys_of_rounds Mimc.bn254.rounds_nudged hnudged hsetup rfl hne
    ⟨13, 17⟩
  refine ⟨standard, nudged, _, k, hstandard, hnudged, fun hmatrices => ?_, hsetup, hprove⟩
  -- The witness of the pair satisfies the one system and not the other.
  obtain ⟨w, hw⟩ := (h.assign_eq hlowered 35 (mimcHash 35)).1 rfl
  have hsatisfied := satisfied_of_assign hw
  rw [← hmatrices] at hsatisfied
  exact h'.not_satisfied_of_hash_ne hlowered' h hlowered hne hw hsatisfied

end PreimageProof
