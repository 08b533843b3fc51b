import Mathlib
import PreimageProof.Proofs.Circuit.Computes
import PreimageProof.Mimc.Gadget

/-!
# The gadget computes the cipher

The lemmas follow the definitions: a round, the rounds of a block, a block
absorbed into the state, the blocks of a hash. Whatever linear combinations go
in, the answer of the gadget has the value that the cipher computes from their
values, in every circuit that uses it and for every assignment that satisfies
the circuit.
-/

namespace PreimageProof

namespace Mimc

variable {b : Builder}

theorem computes_variable (b : Builder) (v : Variable) :
    Computes b (pure (LinearCombination.ofVariable v)) 0 fun assign => assign v :=
  (computes_pure b _).congr fun assign _ => LinearCombination.value_ofVariable assign v

/-- The second, the fourth and the fifth power, whatever is raised to them. -/
theorem computes_roundGadget (key state : LinearCombination) (c : Fr) (b : Builder)
    (hb : b.frozen = false) :
    Computes b (roundGadget key state c) 3
      fun assign => round (key.value assign) (state.value assign) c := by
  rw [roundGadget]
  generalize ht : state + key + LinearCombination.constant c = t
  -- Each product is followed by the rest of the program, so the last is the innermost.
  have hpowers : Computes b _ 3 fun assign =>
      t.value assign * t.value assign * (t.value assign * t.value assign) * t.value assign :=
    computes_mul_bind (g := fun assign t2 => t2 * t2 * t.value assign) hb t t fun t2 b₁ hb₁ => by
      have hrest := computes_mul_bind (g := fun assign t4 => t4 * t.value assign) hb₁
        (LinearCombination.ofVariable t2) (LinearCombination.ofVariable t2) fun t4 b₂ hb₂ => by
          have hlast := computes_mul_bind (g := fun _ t5 => t5) hb₂
            (LinearCombination.ofVariable t4) t fun t5 b₃ _ => computes_variable b₃ t5
          simpa only [LinearCombination.value_ofVariable] using hlast
      simpa only [LinearCombination.value_ofVariable] using hrest
  refine hpowers.congr fun assign hone => ?_
  have hvalue : t.value assign = state.value assign + key.value assign + c := by
    simp [← ht, hone]
  rw [hvalue, round]

theorem computes_encryptGadget (m : Mimc) (hb : b.frozen = false)
    (message key : LinearCombination) :
    Computes b (m.encryptGadget message key) (3 * m.rounds)
      fun assign => m.encrypt (message.value assign) (key.value assign) := by
  have hrounds := computes_foldlM (f := fun assign => round (key.value assign))
    (computes_roundGadget key) hb m.constants message
  refine hrounds.map fun out assign _ hout => ?_
  rw [LinearCombination.value_add, hout]
  rfl

theorem computes_absorbGadget (m : Mimc) (state block : LinearCombination) (b : Builder)
    (hb : b.frozen = false) :
    Computes b (m.absorbGadget state block) (3 * m.rounds)
      fun assign => m.absorb (state.value assign) (block.value assign) := by
  refine (computes_encryptGadget m hb block state).map fun out assign _ hout => ?_
  rw [LinearCombination.value_add, LinearCombination.value_add, hout, absorb]
  ring

theorem computes_hashGadget (m : Mimc) (hb : b.frozen = false) {blocks : List LinearCombination}
    (hblocks : blocks ≠ []) :
    Computes b (m.hashGadget blocks) (3 * m.rounds * blocks.length)
      fun assign => m.hash (blocks.map fun block => block.value assign) := by
  have hfold : Computes b (blocks.foldlM m.absorbGadget 0) (3 * m.rounds * blocks.length)
      fun assign => blocks.foldl (fun state block => m.absorb state (block.value assign))
        ((0 : LinearCombination).value assign) :=
    computes_foldlM
      (f := fun assign state (block : LinearCombination) => m.absorb state (block.value assign))
      (computes_absorbGadget m) hb blocks 0
  rw [hashGadget, if_neg (by simpa using hblocks)]
  refine hfold.congr fun assign _ => ?_
  rw [LinearCombination.value_zero, hash, List.foldl_map]

end Mimc

/-- The gadget and the native functions agree. -/
theorem mimc_gadget_realizes_cipher (m : Mimc) {b : Builder} (hb : b.frozen = false) :
    (∀ message key : LinearCombination,
      Realizes b (m.encryptGadget message key) (3 * m.rounds)
        fun assign => m.encrypt (message.value assign) (key.value assign)) ∧
    ∀ blocks : List LinearCombination, blocks ≠ [] →
      Realizes b (m.hashGadget blocks) (3 * m.rounds * blocks.length)
        fun assign => m.hash (blocks.map fun block => block.value assign) :=
  ⟨fun message key => (m.computes_encryptGadget hb message key).realizes,
    fun _ hblocks => (m.computes_hashGadget hb hblocks).realizes⟩

/-- The cipher with a single round, and the circuit that encrypts a secret
under itself. -/
def oneRound : Mimc := ⟨[1], List.cons_ne_nil _ _⟩

def oneRoundSystem : ConstraintSystem where
  shape := ⟨3, 1, 1, 3⟩
  matrices :=
    { a := [[(1, 0), (2, 1)], [(1, 2)], [(1, 3)]]
      b := [[(1, 0), (2, 1)], [(1, 2)], [(1, 0), (2, 1)]]
      c := [[(1, 2)], [(1, 3)], [(1, 4)]] }
  derivations :=
    [([(1, 0), (2, 1)], [(1, 0), (2, 1)]), ([(1, 2)], [(1, 2)]), ([(1, 3)], [(1, 0), (2, 1)])]

theorem oneRound_gadget_realizes_cipher :
    ∃ x : LinearCombination, ∃ b : Builder, b.frozen = false ∧
      (∃ out : LinearCombination,
        oneRoundSystem.matrices.Satisfied [1, 2, 25, 625, 3125] ∧
        out.value (oneRoundSystem.shape.valuation [1, 2, 25, 625, 3125]) =
          oneRound.encrypt 2 2) ∧
      Realizes b (oneRound.hashGadget [x, x]) 6
        fun assign => oneRound.hash [x.value assign, x.value assign] := by
  have hunfrozen : (Builder.empty.afterAll [.allocate .secret]).frozen = false := by rfl
  obtain ⟨hencrypt, hhash⟩ := mimc_gadget_realizes_cipher oneRound hunfrozen
  obtain ⟨out, rules, hrun, -, -, hcircuit⟩ :=
    hencrypt (.ofVariable ⟨.secret, 0⟩) (.ofVariable ⟨.secret, 0⟩)
  have hsystem : (((oneRound.encryptGadget (.ofVariable ⟨.secret, 0⟩)
      (.ofVariable ⟨.secret, 0⟩)).on (Builder.empty.afterAll [.allocate .secret])).2.afterAll
        []).completion = .ok oneRoundSystem := by rfl
  rw [hrun] at hsystem
  have hsatisfied : oneRoundSystem.matrices.Satisfied [1, 2, 25, 625, 3125] :=
    Matrices.check_eq_ok_iff.1 (by rfl)
  have hvalue := (hcircuit [] oneRoundSystem hsystem).1 _ (by rfl) hsatisfied
  refine ⟨.ofVariable ⟨.secret, 0⟩, _, hunfrozen, ⟨out, hsatisfied, ?_⟩,
    hhash _ (List.cons_ne_nil _ _)⟩
  rw [hvalue]
  rfl

end PreimageProof
