import Mathlib
import PreimageProof.Proofs.Circuit.Completion
import PreimageProof.Proofs.Mimc.Gadget

/-!
# The preimage circuit

The circuit is the products of one hash and, behind them, one equality. It can
be completed whatever the round constants, because the gadget only combines
variables it was given. The products hold for every solved assignment, so
assigning comes down to the equality: it holds exactly when the statement is
the hash of the secret, and it is the row that is reported when it does not.
-/

namespace PreimageProof

/-! ## Products and a last constraint -/

namespace Lowered

variable {b : Builder} {system : ConstraintSystem} {secrets publics : List Fr} {n : Nat}
  {last : Constraint}

/-- Behind `n` products, the last constraint decides. -/
theorem assign_of_products (h : Lowered b system) (hb : b.Consistent)
    (hpublics : publics.length = system.shape.publicInputs)
    (hsecrets : secrets.length = system.shape.secrets)
    (hsize : b.constraints.size = n + 1) (hproducts : ∀ k < n, b.IsProductRow k)
    (hlast : b.constraints[n]? = some last) :
    let z := system.solve (1 :: (publics ++ secrets))
    (last.Holds (b.shape.valuation z) →
      assign system secrets publics = .ok ⟨system.shape, z⟩) ∧
    (¬ last.Holds (b.shape.valuation z) →
      assign system secrets publics = .error (.unsatisfied n)) := by
  intro z
  have hinputs := h.length_inputs hb hpublics hsecrets
  have hobeys : Obeys (system.shape.offset .internal) system.derivations z :=
    h.obeys_solve hinputs
  constructor
  · intro hholds
    refine (h.assign_eq_ok_iff hb hpublics hsecrets ⟨system.shape, z⟩).2 ⟨rfl, ?_⟩
    refine (h.solution_iff hb hpublics hsecrets z).2 ⟨rfl, h.satisfied_iff.2 fun {k c} hk => ?_⟩
    have hlt := (Array.getElem?_eq_some_iff.1 hk).1
    rcases Nat.lt_or_ge k n with hkn | hkn
    · exact h.productRow_holds hobeys (hproducts k hkn) hk
    · have heq : k = n := by omega
      rw [heq, hlast] at hk
      cases hk
      exact hholds
  · intro hfails
    cases hassign : assign system secrets publics with
    | ok w =>
        obtain ⟨-, hw⟩ := (h.assign_eq_ok_iff hb hpublics hsecrets w).1 hassign
        obtain ⟨hvalues, hsatisfied⟩ := (h.solution_iff hb hpublics hsecrets w.values).1 hw
        rw [hvalues] at hsatisfied
        exact absurd (h.satisfied_iff.1 hsatisfied hlast) hfails
    | error e =>
        obtain ⟨k, rfl, ⟨row, hrow, hviolated⟩, hleast⟩ :=
          h.of_assign_eq_error hb hpublics hsecrets hassign
        -- The row reported is not a product, and it is not behind the last constraint.
        have hge : n ≤ k := by
          by_contra hlt
          obtain ⟨row', hrow', hholds⟩ :=
            h.solve_productRow hinputs (hproducts k (Nat.lt_of_not_le hlt))
          rw [hrow] at hrow'
          cases hrow'
          exact hviolated hholds
        have hle : k ≤ n := hleast ⟨_, h.row hlast, fun hholds =>
          hfails ((last.rows_hold_iff _ _).1 hholds)⟩
        rw [Nat.le_antisymm hle hge]

end Lowered

/-! ## The gadget uses what it was given -/

namespace Mimc

open LinearCombination

variable {b : Builder}

theorem staysReady_roundGadget (hb : b.Ready) {key state : LinearCombination}
    (hkey : key.Over b.HandedOut) (hstate : state.Over b.HandedOut) (c : Fr) :
    StaysReady b (roundGadget key state c) := by
  have ht : (state + key + constant c).Over b.HandedOut :=
    (hstate.add hkey).add (over_constant hb.one c)
  rw [roundGadget]
  refine staysReady_mul_bind hb ht ht fun t2 b₁ hext₁ hb₁ ht2 => ?_
  refine staysReady_mul_bind hb₁ (over_ofVariable ht2) (over_ofVariable ht2)
    fun t4 b₂ hext₂ hb₂ ht4 => ?_
  refine staysReady_mul_bind hb₂ (over_ofVariable ht4)
    (ht.mono fun _ hv => hv.extend (hext₁.trans hext₂)) fun t5 b₃ _ hb₃ ht5 => ?_
  exact staysReady_pure hb₃ (over_ofVariable ht5)

theorem staysReady_encryptGadget (m : Mimc) (hb : b.Ready) {message key : LinearCombination}
    (hmessage : message.Over b.HandedOut) (hkey : key.Over b.HandedOut) :
    StaysReady b (m.encryptGadget message key) := by
  have hrounds : StaysReady b (m.constants.foldlM (roundGadget key) message) :=
    staysReady_foldlM hb (fun state c later _ hext hready hstate =>
      staysReady_roundGadget hready (hkey.mono fun _ hv => hv.extend hext) hstate c) hmessage
  exact hrounds.bind fun out later hext hready hout =>
    staysReady_pure hready (hout.add (hkey.mono fun _ hv => hv.extend hext))

theorem staysReady_absorbGadget (m : Mimc) (hb : b.Ready) {state block : LinearCombination}
    (hstate : state.Over b.HandedOut) (hblock : block.Over b.HandedOut) :
    StaysReady b (m.absorbGadget state block) :=
  (m.staysReady_encryptGadget hb hblock hstate).bind fun _ _ hext hready hout =>
    staysReady_pure hready (((hstate.mono fun _ hv => hv.extend hext).add hout).add
      (hblock.mono fun _ hv => hv.extend hext))

theorem staysReady_hashGadget (m : Mimc) (hb : b.Ready) {blocks : List LinearCombination}
    (hne : blocks ≠ []) (hblocks : ∀ block ∈ blocks, block.Over b.HandedOut) :
    StaysReady b (m.hashGadget blocks) := by
  rw [hashGadget, if_neg (by simpa using hne)]
  refine staysReady_foldlM hb (fun state block later hmem hext hready hstate => ?_) over_zero
  exact m.staysReady_absorbGadget hready hstate
    ((hblocks block hmem).mono fun _ hv => hv.extend hext)

end Mimc

/-! ## The circuit -/

namespace Builder

/-- A builder with one secret and one public input. -/
def twoInputs : Builder := (empty.allocated .secret).allocated .statement

theorem ready_twoInputs : twoInputs.Ready :=
  (ready_empty.allocated (by decide)).allocated (by decide)

theorem shape_multipliedAll (b : Builder) (rules : List Derivation) :
    (b.multipliedAll rules).shape =
      ⟨b.constraints.size + rules.length, b.publics, b.secrets,
        b.internals.size + rules.length⟩ := by
  obtain ⟨hinternals, hconstraints⟩ := sizes_multipliedAll b rules
  have hinputs : (b.multipliedAll rules).publics = b.publics ∧
      (b.multipliedAll rules).secrets = b.secrets := by
    clear hinternals hconstraints
    induction rules generalizing b with
    | nil => exact ⟨rfl, rfl⟩
    | cons rule rules ih => exact ih (b.multiplied rule)
  rw [shape, hinternals, hconstraints, hinputs.1, hinputs.2]

theorem Consistent.multipliedAll {b : Builder} (h : b.Consistent) (rules : List Derivation) :
    (b.multipliedAll rules).Consistent := by
  induction rules generalizing b with
  | nil => exact h
  | cons rule rules ih => exact ih (h.multiplied rule)

end Builder

/-- The equality of the statement with the answer of the gadget. -/
def hashEquality (out : LinearCombination) : Constraint :=
  ⟨.ofVariable ⟨.statement, 1⟩ - out, .ofVariable Variable.one, 0⟩

theorem hashEquality_holds_iff (out : LinearCombination) {assign : Variable → Fr}
    (hone : assign Variable.one = 1) :
    (hashEquality out).Holds assign ↔ assign ⟨.statement, 1⟩ = out.value assign := by
  simp [hashEquality, Constraint.Holds, hone, sub_eq_zero]

/-- The constraints of the circuit are products and, behind them, one that says
of the values for which the products hold that the statement is the hash. -/
structure StatesHash (m : Mimc) (b : Builder) (last : Constraint) : Prop where
  ready : b.Ready
  consistent : b.Consistent
  shape : b.shape = ⟨3 * m.rounds + 1, 2, 1, 3 * m.rounds⟩
  product : ∀ k < 3 * m.rounds, b.IsProductRow k
  final : b.constraints[3 * m.rounds]? = some last
  equality : ∀ assign, assign Variable.one = 1 →
    (∀ {k : Nat} {c : Constraint}, k < 3 * m.rounds → b.constraints[k]? = some c →
      c.Holds assign) →
    (last.Holds assign ↔ assign ⟨.statement, 1⟩ = m.hash [assign ⟨.secret, 0⟩])

open Builder in
theorem preimageCircuit_on (m : Mimc) :
    ∃ b last, (preimageCircuit m).on empty = (.ok (), b) ∧ StatesHash m b last := by
  have hpreimage : (LinearCombination.ofVariable ⟨.secret, 0⟩).Over twoInputs.HandedOut :=
    LinearCombination.over_ofVariable
      ((handedOut_allocated empty .secret).extend (extends_allocated _ .statement))
  have hblocks := List.cons_ne_nil (LinearCombination.ofVariable ⟨.secret, 0⟩) []
  obtain ⟨out, rules, hrun, hlen, hvalue⟩ :=
    m.computes_hashGadget ready_twoInputs.unfrozen hblocks
  obtain ⟨out', later, hrun', hext, hready, hout⟩ :=
    m.staysReady_hashGadget ready_twoInputs hblocks (by simpa using hpreimage)
  rw [hrun] at hrun'
  cases hrun'
  have hhash : (twoInputs.multipliedAll rules).HandedOut ⟨.statement, 1⟩ :=
    (handedOut_allocated (empty.allocated .secret) .statement).extend hext
  have hshape : (twoInputs.multipliedAll rules).shape = ⟨3 * m.rounds, 2, 1, 3 * m.rounds⟩ := by
    rw [shape_multipliedAll, hlen]
    simp [twoInputs, allocated, empty]
  have hsize : (twoInputs.multipliedAll rules).constraints.size = 3 * m.rounds :=
    congrArg Shape.constraints hshape
  have hlast := extends_constrained (twoInputs.multipliedAll rules) (hashEquality out)
  refine ⟨(twoInputs.multipliedAll rules).constrained (hashEquality out), hashEquality out, ?_,
    ?ready, ?consistent, ?shape, fun k hk => ?product, ?final,
    fun assign hone hproducts => ?equality⟩
  · rw [preimageCircuit, Build.bind_on_of_ok (allocate_on rfl .secret),
      Build.bind_on_of_ok (allocate_on rfl .statement)]
    exact (Build.bind_on_of_ok hrun).trans (constrain_on hready.unfrozen _ _ _)
  case ready =>
    exact hready.constrained ((LinearCombination.over_ofVariable hhash).sub hout)
      (LinearCombination.over_ofVariable hready.one) LinearCombination.over_zero
  case consistent =>
    exact (((consistent_empty.allocated .secret).allocated .statement).multipliedAll
      rules).constrained _
  case shape =>
    simp only [shape, Shape.mk.injEq] at hshape ⊢
    simp [constrained, hshape]
  case product =>
    refine isProductRow_multipliedAll hlast (Nat.zero_le _) ?_
    simpa [twoInputs, allocated, empty, hlen] using hk
  case final =>
    rw [← hsize]
    exact Array.getElem?_push_size
  case equality =>
    have hfollows : twoInputs.Follows rules assign := by
      refine follows_of_holds (.refl _) fun {k c} hk => hproducts ?_ (hlast.constraint hk)
      exact hsize ▸ (Array.getElem?_eq_some_iff.1 hk).1
    rw [hashEquality_holds_iff out hone, hvalue assign hone hfollows]
    simp

theorem compile_eq_ok {circuit : Build Unit} {b : Builder} {system : ConstraintSystem}
    (hrun : circuit.on Builder.empty = (.ok (), b)) (hb : b.frozen = false)
    (hsystem : b.system = .ok system) :
    compile circuit = .ok ⟨system, (List.range system.shape.publicInputs).map (· + 1)⟩ := by
  have hfinalize := Builder.finalize_on_of_ok hb hsystem
  rw [Build.on] at hrun hfinalize
  rw [compile, hrun]
  show CompiledCircuit.ofBuilder b = _
  rw [CompiledCircuit.ofBuilder, hfinalize]

namespace StatesHash

variable {m : Mimc} {b : Builder} {last : Constraint} {system : ConstraintSystem}

/-- What satisfies all rows has the hash in its statement. -/
theorem of_satisfied (h : StatesHash m b last) (hlowered : Lowered b system) {z : List Fr}
    (hone : z.head? = some 1) (hz : system.matrices.Satisfied z) :
    z.getD 1 0 = m.hash [z.getD 2 0] := by
  have hholds : ∀ {k : Nat} {c : Constraint}, b.constraints[k]? = some c →
      c.Holds (b.shape.valuation z) := hlowered.satisfied_iff.1 hz
  have hequality := (h.equality _ (Shape.valuation_one hone) fun _ hk => hholds hk).1
    (hholds h.final)
  rw [h.shape] at hequality
  exact hequality

/-- Assigning comes down to the equality. -/
theorem assign_eq (h : StatesHash m b last) (hlowered : Lowered b system) (x y : Fr) :
    (m.hash [x] = y → ∃ w, assign system [x] [y] = .ok w) ∧
    (m.hash [x] ≠ y → assign system [x] [y] = .error (.unsatisfied (3 * m.rounds))) := by
  have hshape := hlowered.shape.trans h.shape
  have hpublics : [y].length = system.shape.publicInputs := by rw [hshape]; rfl
  have hsecrets : [x].length = system.shape.secrets := by rw [hshape]; rfl
  obtain ⟨hok, herror⟩ := hlowered.assign_of_products h.consistent hpublics hsecrets
    (congrArg Shape.constraints h.shape) h.product h.final
  have hinputs := hlowered.length_inputs h.consistent hpublics hsecrets
  have hobeys := hlowered.obeys_solve hinputs
  obtain ⟨rest, hrest⟩ := prefix_extend system.derivations (1 :: ([y] ++ [x]))
  rw [← solve_eq_extend] at hrest
  have hiff : last.Holds (b.shape.valuation (system.solve (1 :: ([y] ++ [x])))) ↔
      y = m.hash [x] := by
    rw [h.equality _ (Shape.valuation_one (by rw [← hrest]; rfl)) fun hk hc =>
      hlowered.productRow_holds hobeys (h.product _ hk) hc, h.shape, ← hrest]
    rfl
  exact ⟨fun heq => ⟨_, hok (hiff.2 heq.symm)⟩, fun hne => herror fun hholds =>
    hne (hiff.1 hholds).symm⟩

end StatesHash

/-- The circuit of a preimage states that its public input is the hash of its
secret one, no more and no less. -/
theorem preimageCircuit_states_hash (m : Mimc) :
    ∃ circuit, compile (preimageCircuit m) = .ok circuit ∧ circuit.layout = [1] ∧
      circuit.system.shape = ⟨3 * m.rounds + 1, 2, 1, 3 * m.rounds⟩ ∧
      (∀ x y, (∃ w, assign circuit.system [x] [y] = .ok w) ↔ m.hash [x] = y) ∧
      (∀ x y, m.hash [x] ≠ y →
        assign circuit.system [x] [y] = .error (.unsatisfied (3 * m.rounds))) ∧
      (∀ x y w, assign circuit.system [x] [y] = .ok w → w.publicProjection = ⟨[y]⟩) ∧
      ∀ z, z.head? = some 1 → circuit.system.matrices.Satisfied z →
        z.getD 1 0 = m.hash [z.getD 2 0] := by
  obtain ⟨b, last, hrun, h⟩ := preimageCircuit_on m
  obtain ⟨system, hsystem⟩ := Builder.system_eq_ok_iff.2 h.ready.complete
  have hlowered := Builder.lowered hsystem
  have hshape := hlowered.shape.trans h.shape
  refine ⟨_, compile_eq_ok hrun h.ready.unfrozen hsystem, ?layout, hshape,
    fun x y => ⟨?_, (h.assign_eq hlowered x y).1⟩, fun x y => (h.assign_eq hlowered x y).2,
    fun x y w hw => ?projection, fun z => h.of_satisfied hlowered⟩
  case layout =>
    simp only [hshape]
    rfl
  · rintro ⟨w, hw⟩
    by_contra hne
    rw [(h.assign_eq hlowered x y).2 hne] at hw
    cases hw
  case projection =>
    have hpublics : [y].length = system.shape.publicInputs := by rw [hshape]; rfl
    have hsecrets : [x].length = system.shape.secrets := by rw [hshape]; rfl
    obtain ⟨hwshape, hw⟩ :=
      (hlowered.assign_eq_ok_iff h.consistent hpublics hsecrets w).1 hw
    obtain ⟨rest, hvalues⟩ := hw.inputs
    rw [Witness.publicProjection, hwshape, hshape, ← hvalues]
    rfl

end PreimageProof
