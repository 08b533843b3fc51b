import Mathlib
import PreimageProof.Proofs.Circuit.Completion
import PreimageProof.Proofs.Mimc.Gadget

/-!
# The life of a builder

A builder takes calls and gadgets in any order, with linear combinations over
any variables: of other builders, not yet allocated, or cancelled out. On a
builder that is not frozen only two operations can fail, completing it and
hashing nothing, and both leave it as it was. `Effect` lists what the others
do to it; on a frozen builder every operation fails and nothing changes.
Everything below is read off these two facts, and a history adds to them only
that it is a list.

Whether a builder can be completed depends on two conditions of different
kind. That every variable mentioned was handed out can become true later, by
handing out more. That every internal variable has a rule over earlier ones
cannot: rules are never changed. So a builder that was refused can be repaired
exactly when the second condition holds.
-/

namespace PreimageProof

/-! ## Operations -/

/-- The program without what it returns. -/
def Build.silent {α : Type} (program : Build α) : Build Unit := do
  let _ ← program
  return ()

def Call.program : Call → Build Unit
  | .allocate role => (Build.allocate role).silent
  | .constrain a b c => Build.constrain a b c
  | .assertEqual x y => Build.assertEqual x y
  | .mul a b => (Build.mul a b).silent
  | .finalize => Build.finalize.silent

/-- What a circuit author does with a builder. -/
inductive Operation where
  | call (c : Call)
  | encrypt (m : Mimc) (message key : LinearCombination)
  | hash (m : Mimc) (blocks : List LinearCombination)

namespace Operation

def program : Operation → Build Unit
  | .call c => c.program
  | .encrypt m message key => (m.encryptGadget message key).silent
  | .hash m blocks => (m.hashGadget blocks).silent

/-- How a frozen builder refuses an operation. Whether there is anything to
hash is asked first. -/
def refusal : Operation → Error
  | .hash _ [] => .gadget .noInputs
  | _ => .frozen

end Operation

namespace Builder

/-- The answer of an operation, without what it returns. -/
def answer (b : Builder) (op : Operation) : Except Error Unit := (op.program.on b).1

def next (b : Builder) (op : Operation) : Builder := (op.program.on b).2

def run (b : Builder) (ops : List Operation) : Builder := ops.foldl next b

end Builder

namespace Build

variable {α β : Type} {b b' : Builder} {program : Build α}

theorem bind_on_of_error {next : α → Build β} {e : Error} (h : program.on b = (.error e, b')) :
    (program >>= next).on b = (.error e, b') := by
  rw [Build.on] at h
  rw [Build.on, ExceptT.run_bind, StateT.run_bind, h]
  rfl

theorem silent_on_of_ok {x : α} (h : program.on b = (.ok x, b')) :
    program.silent.on b = (.ok (), b') := bind_on_of_ok h

theorem silent_on_of_error {e : Error} (h : program.on b = (.error e, b')) :
    program.silent.on b = (.error e, b') := bind_on_of_error h

end Build

/-! ## On a frozen builder

The first product of a gadget is refused before anything else happens, and
there is one: a cipher has at least one round.
-/

section

variable {b : Builder}

theorem Mimc.roundGadget_on_of_frozen (h : b.frozen = true) (key state : LinearCombination)
    (c : Fr) : (roundGadget key state c).on b = (.error .frozen, b) := by
  obtain ⟨publics, secrets, internals, constraints, frozen⟩ := b
  cases h
  rfl

theorem Mimc.encryptGadget_on_of_frozen (m : Mimc) (h : b.frozen = true)
    (message key : LinearCombination) :
    (m.encryptGadget message key).on b = (.error .frozen, b) := by
  obtain ⟨c, rest, hconstants⟩ := List.exists_cons_of_ne_nil m.nonempty
  refine Build.bind_on_of_error ?_
  rw [hconstants, List.foldlM_cons]
  exact Build.bind_on_of_error (roundGadget_on_of_frozen h key message c)

theorem Mimc.hashGadget_on_of_frozen (m : Mimc) (h : b.frozen = true) (block : LinearCombination)
    (blocks : List LinearCombination) :
    (m.hashGadget (block :: blocks)).on b = (.error .frozen, b) := by
  show ((block :: blocks).foldlM m.absorbGadget 0).on b = _
  rw [List.foldlM_cons]
  exact Build.bind_on_of_error
    (Build.bind_on_of_error (m.encryptGadget_on_of_frozen h block 0))

theorem Operation.on_of_frozen (h : b.frozen = true) (op : Operation) :
    op.program.on b = (.error op.refusal, b) := by
  cases op with
  | call c =>
      obtain ⟨publics, secrets, internals, constraints, frozen⟩ := b
      cases h
      cases c <;> rfl
  | encrypt m message key =>
      exact Build.silent_on_of_error (m.encryptGadget_on_of_frozen h message key)
  | hash m blocks =>
      cases blocks with
      | nil => rfl
      | cons block blocks =>
          exact Build.silent_on_of_error (m.hashGadget_on_of_frozen h block blocks)

end

/-! ## On a builder that is not frozen -/

namespace Builder

variable {b : Builder}

/-- What an operation that succeeds does to a builder. -/
inductive Effect (b : Builder) : Operation → Builder → Prop where
  | allocate (role) : Effect b (.call (.allocate role)) (b.allocated role)
  | constrain (x y z) : Effect b (.call (.constrain x y z)) (b.constrained ⟨x, y, z⟩)
  | assertEqual (x y) : Effect b (.call (.assertEqual x y))
      (b.constrained ⟨x - y, LinearCombination.ofVariable Variable.one, 0⟩)
  | mul (x y) : Effect b (.call (.mul x y)) (b.multiplied ⟨x, y⟩)
  | finalize (h : b.Complete) : Effect b (.call .finalize) { b with frozen := true }
  | encrypt (m message key rules) : Effect b (.encrypt m message key) (b.multipliedAll rules)
  | hash (m blocks rules) : Effect b (.hash m blocks) (b.multipliedAll rules)

theorem finalize_on_of_complete (h : b.frozen = false) (hcomplete : b.Complete) :
    ∃ system, Build.finalize.on b = (.ok system, { b with frozen := true }) := by
  obtain ⟨system, hsystem⟩ := system_eq_ok_iff.2 hcomplete
  exact ⟨system, finalize_on_of_ok h hsystem⟩

theorem finalize_on_of_not_complete (h : b.frozen = false) (hcomplete : ¬ b.Complete) :
    ∃ e, Build.finalize.on b = (.error e, b) := by
  cases hsystem : b.system with
  | ok system => exact absurd (system_eq_ok_iff.1 ⟨system, hsystem⟩) hcomplete
  | error e => exact ⟨e, finalize_on_of_error h hsystem⟩

theorem completion_eq_ok_iff :
    (∃ system, b.completion = .ok system) ↔ b.frozen = false ∧ b.Complete := by
  constructor
  · rintro ⟨system, h⟩
    obtain ⟨hfrozen, hsystem⟩ := completion_eq_ok h
    exact ⟨hfrozen, system_eq_ok_iff.1 ⟨system, hsystem⟩⟩
  · rintro ⟨hfrozen, hcomplete⟩
    obtain ⟨system, h⟩ := finalize_on_of_complete hfrozen hcomplete
    exact ⟨system, congrArg Prod.fst h⟩

/-- An operation has its effect, or it fails and has none. -/
theorem on_of_not_frozen (h : b.frozen = false) (op : Operation) :
    (∃ later, op.program.on b = (.ok (), later) ∧ b.Effect op later) ∨
      ∃ e, op.program.on b = (.error e, b) := by
  cases op with
  | call c =>
      cases c with
      | allocate role => exact .inl ⟨_, Build.silent_on_of_ok (allocate_on h role), .allocate role⟩
      | constrain x y z => exact .inl ⟨_, constrain_on h x y z, .constrain x y z⟩
      | assertEqual x y => exact .inl ⟨_, constrain_on h _ _ _, .assertEqual x y⟩
      | mul x y => exact .inl ⟨_, Build.silent_on_of_ok (mul_on h x y), .mul x y⟩
      | finalize =>
          by_cases hcomplete : b.Complete
          · obtain ⟨system, hrun⟩ := finalize_on_of_complete h hcomplete
            exact .inl ⟨_, Build.silent_on_of_ok hrun, .finalize hcomplete⟩
          · obtain ⟨e, hrun⟩ := finalize_on_of_not_complete h hcomplete
            exact .inr ⟨e, Build.silent_on_of_error hrun⟩
  | encrypt m message key =>
      obtain ⟨out, rules, hrun, -⟩ := m.computes_encryptGadget h message key
      exact .inl ⟨_, Build.silent_on_of_ok hrun, .encrypt m message key rules⟩
  | hash m blocks =>
      rcases eq_or_ne blocks [] with rfl | hblocks
      · exact .inr ⟨_, rfl⟩
      · obtain ⟨out, rules, hrun, -⟩ := m.computes_hashGadget h hblocks
        exact .inl ⟨_, Build.silent_on_of_ok hrun, .hash m blocks rules⟩

theorem next_of_frozen (h : b.frozen = true) (op : Operation) : b.next op = b :=
  congrArg Prod.snd (op.on_of_frozen h)

theorem answer_of_frozen (h : b.frozen = true) (op : Operation) :
    b.answer op = .error op.refusal :=
  congrArg Prod.fst (op.on_of_frozen h)

theorem run_of_frozen (h : b.frozen = true) (ops : List Operation) : b.run ops = b := by
  induction ops with
  | nil => rfl
  | cons op ops ih =>
      show (b.next op).run ops = b
      rw [next_of_frozen h, ih]

/-- What fails leaves no trace. -/
theorem next_of_error {op : Operation} {e : Error} (h : b.answer op = .error e) :
    b.next op = b := by
  cases hfrozen : b.frozen with
  | true => exact next_of_frozen hfrozen op
  | false =>
      rcases on_of_not_frozen hfrozen op with ⟨later, hrun, -⟩ | ⟨e', hrun⟩
      · rw [answer, hrun] at h
        cases h
      · rw [next, hrun]

/-- Whatever is done, the builder stays or has one of the effects. -/
theorem next_eq_or_effect (b : Builder) (op : Operation) :
    b.next op = b ∨ b.frozen = false ∧ b.Effect op (b.next op) := by
  cases hfrozen : b.frozen with
  | true => exact .inl (next_of_frozen hfrozen op)
  | false =>
      rcases on_of_not_frozen hfrozen op with ⟨later, hrun, heffect⟩ | ⟨e, hrun⟩
      · rw [next, hrun]
        exact .inr ⟨rfl, heffect⟩
      · rw [next, hrun]
        exact .inl rfl

theorem run_append (b : Builder) (ops more : List Operation) :
    b.run (ops ++ more) = (b.run ops).run more := List.foldl_append

theorem next_finalize (h : b.frozen = false) (hcomplete : b.Complete) :
    b.next (.call .finalize) = { b with frozen := true } := by
  obtain ⟨system, hrun⟩ := finalize_on_of_complete h hcomplete
  exact congrArg Prod.snd (Build.silent_on_of_ok hrun)

/-! ## Growth -/

theorem Effect.extends {op : Operation} {later : Builder} (h : b.Effect op later)
    (hfrozen : b.frozen = false) : b.Extends later := by
  cases h with
  | allocate role => exact extends_allocated b role
  | constrain => exact extends_constrained b _
  | assertEqual => exact extends_constrained b _
  | mul => exact extends_multiplied b _
  | finalize => exact (Step.freeze hfrozen).extends
  | encrypt m message key rules => exact extends_multipliedAll b rules
  | hash m blocks rules => exact extends_multipliedAll b rules

theorem extends_next (b : Builder) (op : Operation) : b.Extends (b.next op) := by
  rcases b.next_eq_or_effect op with h | ⟨hfrozen, heffect⟩
  · rw [h]
    exact .refl b
  · exact heffect.extends hfrozen

theorem extends_run (b : Builder) (ops : List Operation) : b.Extends (b.run ops) := by
  induction ops generalizing b with
  | nil => exact .refl b
  | cons op ops ih => exact (extends_next b op).trans (ih (b.next op))

/-! ## Variables without a rule -/

theorem none_mem_multipliedAll (b : Builder) (rules : List Derivation) :
    none ∈ (b.multipliedAll rules).internals ↔ none ∈ b.internals := by
  induction rules generalizing b with
  | nil => rfl
  | cons rule rules ih =>
      refine (ih (b.multiplied rule)).trans ?_
      simp [multiplied]

/-- Only allocating an internal variable makes one without a rule. -/
theorem Effect.none_mem_iff {op : Operation} {later : Builder} (h : b.Effect op later) :
    none ∈ later.internals ↔ none ∈ b.internals ∨ op = .call (.allocate .internal) := by
  cases h with
  | allocate role => cases role <;> simp [allocated]
  | constrain => simp [constrained]
  | assertEqual => simp [constrained]
  | mul => simp [multiplied]
  | finalize => simp
  | encrypt m message key rules => simp [none_mem_multipliedAll]
  | hash m blocks rules => simp [none_mem_multipliedAll]

/-- A builder that is not frozen has refused nothing but what fails on every
builder, so its history tells which internal variables have no rule. -/
theorem none_mem_run_iff {ops : List Operation} (h : (b.run ops).frozen = false) :
    none ∈ (b.run ops).internals ↔
      none ∈ b.internals ∨ .call (.allocate .internal) ∈ ops := by
  induction ops generalizing b with
  | nil => simp [run]
  | cons op ops ih =>
      have hfrozen : b.frozen = false := (extends_run b (op :: ops)).unfrozen h
      have hstep : none ∈ (b.next op).internals ↔
          none ∈ b.internals ∨ op = .call (.allocate .internal) := by
        rcases on_of_not_frozen hfrozen op with ⟨later, hrun, heffect⟩ | ⟨e, hrun⟩
        · rw [next, hrun]
          exact heffect.none_mem_iff
        · -- Allocating does not fail here.
          have hne : op ≠ .call (.allocate .internal) := by
            rintro rfl
            have hok := Build.silent_on_of_ok (allocate_on hfrozen .internal)
            rw [Operation.program, Call.program, hok] at hrun
            cases hrun
          rw [next, hrun]
          simp [hne]
      show none ∈ ((b.next op).run ops).internals ↔ _
      rw [ih h, hstep, List.mem_cons, or_assoc, eq_comm (a := op)]

/-! ## What is mentioned -/

/-- The linear combinations in the constraints and in the rules. -/
def stored (b : Builder) : List LinearCombination :=
  (b.constraints.toList.flatMap fun c => [c.a, c.b, c.c]) ++
    b.internals.toList.flatMap fun entry => entry.elim [] fun rule => [rule.a, rule.b]

theorem forall_stored_iff {p : LinearCombination → Prop} :
    (∀ lc ∈ b.stored, p lc) ↔ (∀ c ∈ b.constraints, p c.a ∧ p c.b ∧ p c.c) ∧
      ∀ rule, some rule ∈ b.internals → p rule.a ∧ p rule.b := by
  rw [stored, List.forall_mem_append]
  refine and_congr ?_ ?_
  · simp only [List.mem_flatMap, Array.mem_toList_iff]
    constructor
    · intro h c hc
      exact ⟨h _ ⟨c, hc, by simp⟩, h _ ⟨c, hc, by simp⟩, h _ ⟨c, hc, by simp⟩⟩
    · rintro h lc ⟨c, hc, hlc⟩
      obtain ⟨ha, hb, hc⟩ := h c hc
      simp only [List.mem_cons, List.not_mem_nil, or_false] at hlc
      rcases hlc with rfl | rfl | rfl
      · exact ha
      · exact hb
      · exact hc
  · simp only [List.mem_flatMap, Array.mem_toList_iff]
    constructor
    · intro h rule hrule
      exact ⟨h _ ⟨some rule, hrule, by simp⟩, h _ ⟨some rule, hrule, by simp⟩⟩
    · rintro h lc ⟨entry, hentry, hlc⟩
      cases entry with
      | none => exact absurd hlc List.not_mem_nil
      | some rule =>
          obtain ⟨ha, hb⟩ := h rule hentry
          simp only [Option.elim_some, List.mem_cons, List.not_mem_nil, or_false] at hlc
          rcases hlc with rfl | rfl
          · exact ha
          · exact hb

/-- If the variable is internal, it is one before internal variable `i`. -/
def Earlier (i : Nat) (v : Variable) : Prop := v.role = .internal → v.index < i

/-- Every internal variable has a rule over earlier ones. -/
def Derivable (b : Builder) : Prop :=
  ∀ {i : Nat} {entry : Option Derivation}, b.internals[i]? = some entry →
    ∃ rule, entry = some rule ∧ rule.a.Over (Earlier i) ∧ rule.b.Over (Earlier i)

/-- A condition on the rules that does not change, and one on the counts. -/
theorem complete_iff :
    b.Complete ↔ b.Derivable ∧ ∀ lc ∈ b.stored, lc.Over b.HandedOut := by
  rw [forall_stored_iff]
  constructor
  · intro h
    refine ⟨fun hi => ?_, fun c hc => ?_, fun rule hrule => ?_⟩
    · obtain ⟨rule, hrule, ha, hb⟩ := h.derived hi
      exact ⟨rule, hrule, ha.mono fun _ hv => hv.2, hb.mono fun _ hv => hv.2⟩
    · obtain ⟨k, hk⟩ := Array.mem_iff_getElem?.1 hc
      exact h.constraint hk
    · obtain ⟨i, hi⟩ := Array.mem_iff_getElem?.1 hrule
      obtain ⟨rule', heq, ha, hb⟩ := h.derived hi
      cases heq
      exact ⟨ha.mono fun _ hv => hv.1, hb.mono fun _ hv => hv.1⟩
  · rintro ⟨hderivable, hconstraints, hrules⟩
    refine ⟨fun {i entry} hi => ?_, fun hk => hconstraints _ (Array.mem_of_getElem? hk)⟩
    obtain ⟨rule, rfl, ha, hb⟩ := hderivable hi
    obtain ⟨hout_a, hout_b⟩ := hrules rule (Array.mem_of_getElem? hi)
    exact ⟨rule, rfl, fun t ht => ⟨hout_a t ht, ha t ht⟩, fun t ht => ⟨hout_b t ht, hb t ht⟩⟩

/-- What is mentioned was handed out. -/
def Closed (b : Builder) : Prop :=
  ∀ lc ∈ b.stored, ∀ v, lc.coefficient v ≠ 0 → v.index < b.count v.role

/-- The operands of the product that an internal variable was made for mention
no internal variable from this one on. -/
def InOrder (b : Builder) : Prop :=
  ∀ (i : Nat) (rule : Derivation), b.internals[i]? = some (some rule) →
    ∀ v, rule.a.coefficient v ≠ 0 ∨ rule.b.coefficient v ≠ 0 → v.role = .internal → v.index < i

theorem closed_iff : b.Closed ↔ ∀ lc ∈ b.stored, lc.Over b.HandedOut := by
  simp only [LinearCombination.over_iff]
  rfl

theorem inOrder_iff :
    b.InOrder ↔ ∀ (i : Nat) (rule : Derivation), b.internals[i]? = some (some rule) →
      rule.a.Over (Earlier i) ∧ rule.b.Over (Earlier i) := by
  simp only [LinearCombination.over_iff, ← forall_and, ← or_imp]
  rfl

theorem derivable_iff : b.Derivable ↔ none ∉ b.internals ∧ b.InOrder := by
  rw [inOrder_iff]
  constructor
  · intro h
    refine ⟨fun hnone => ?_, fun i rule hi => ?_⟩
    · obtain ⟨i, hi⟩ := Array.mem_iff_getElem?.1 hnone
      obtain ⟨rule, hrule, -⟩ := h hi
      cases hrule
    · obtain ⟨rule', hrule, hover⟩ := h hi
      cases hrule
      exact hover
  · rintro ⟨hnone, hrules⟩ i entry hi
    cases entry with
    | none => exact absurd (Array.mem_of_getElem? hi) hnone
    | some rule => exact ⟨rule, rfl, hrules i rule hi⟩

/-- The rule of a variable is what `mul` was called with, whatever follows. -/
theorem rule_of_mul (h : b.frozen = false) (x y : LinearCombination) (rest : List Operation) :
    (b.run (.call (.mul x y) :: rest)).internals[b.internals.size]? = some (some ⟨x, y⟩) := by
  have hnext : b.next (.call (.mul x y)) = b.multiplied ⟨x, y⟩ :=
    congrArg Prod.snd (Build.silent_on_of_ok (mul_on h x y))
  show ((b.next (.call (.mul x y))).run rest).internals[b.internals.size]? = _
  rw [hnext]
  exact (extends_run _ rest).internal (by simp [multiplied])

/-! ## Repairs -/

theorem Derivable.of_extends {later : Builder} (h : later.Derivable) (hext : b.Extends later) :
    b.Derivable :=
  fun hi => h (hext.internal hi)

/-- One more variable of each role, the internal one a product of nothing. -/
def padded (b : Builder) : Builder :=
  ((b.allocated .statement).allocated .secret).multiplied ⟨0, 0⟩

def padding : List Operation :=
  [.call (.allocate .statement), .call (.allocate .secret), .call (.mul 0 0)]

theorem run_padding (h : b.frozen = false) : b.run padding = b.padded := by
  obtain ⟨publics, secrets, internals, constraints, frozen⟩ := b
  cases h
  rfl

theorem Derivable.padded (h : b.Derivable) : b.padded.Derivable := by
  intro i entry hi
  rw [Builder.padded, multiplied, Array.getElem?_push] at hi
  split at hi
  · cases hi
    exact ⟨⟨0, 0⟩, rfl, LinearCombination.over_zero, LinearCombination.over_zero⟩
  · exact h hi

theorem count_padded (b : Builder) (role : Role) : b.padded.count role = b.count role + 1 := by
  cases role with
  | statement => rfl
  | secret => rfl
  | internal => exact Array.size_push _

/-- What a padded builder mentions is mentioned before or handed out. -/
theorem over_of_mem_stored_padded {p : Variable → Prop} (h : ∀ lc ∈ b.stored, lc.Over p) :
    ∀ lc ∈ b.padded.stored, lc.Over fun v => p v ∨ b.padded.HandedOut v := by
  have hold : ∀ {lc : LinearCombination}, lc.Over p →
      lc.Over fun v => p v ∨ b.padded.HandedOut v := fun hlc => hlc.mono fun _ hv => .inl hv
  have hnew : (LinearCombination.ofVariable ⟨.internal, b.internals.size⟩).Over
      fun v => p v ∨ b.padded.HandedOut v :=
    LinearCombination.over_ofVariable (.inr (handedOut_multiplied _ _))
  rw [forall_stored_iff] at h ⊢
  refine ⟨fun c hc => ?_, fun rule hrule => ?_⟩
  · rcases Array.mem_push.1 hc with hc | rfl
    · obtain ⟨ha, hb, hc⟩ := h.1 c hc
      exact ⟨hold ha, hold hb, hold hc⟩
    · exact ⟨LinearCombination.over_zero, LinearCombination.over_zero, hnew⟩
  · rcases Array.mem_push.1 hrule with hrule | hrule
    · obtain ⟨ha, hb⟩ := h.2 rule hrule
      exact ⟨hold ha, hold hb⟩
    · cases hrule
      exact ⟨LinearCombination.over_zero, LinearCombination.over_zero⟩

theorem exists_complete_of_bound {n : Nat} (hfrozen : b.frozen = false) (h : b.Derivable)
    (hstored : ∀ lc ∈ b.stored, lc.Over fun v => v.index < b.count v.role + n) :
    ∃ ops, (b.run ops).frozen = false ∧ (b.run ops).Complete := by
  induction n generalizing b with
  | zero => exact ⟨[], hfrozen, complete_iff.2 ⟨h, hstored⟩⟩
  | succ n ih =>
      -- Padding raises every count by one, and mentions only what it hands out.
      have hpadded : ∀ lc ∈ b.padded.stored,
          lc.Over fun v => v.index < b.padded.count v.role + n := by
        intro lc hlc
        refine (over_of_mem_stored_padded hstored lc hlc).mono fun v hv => ?_
        have hcount := count_padded b v.role
        rcases hv with hv | hv
        · omega
        · rw [HandedOut] at hv
          omega
      obtain ⟨ops, hops⟩ := ih (b := b.padded) hfrozen h.padded hpadded
      refine ⟨padding ++ ops, ?_⟩
      rwa [run_append, run_padding hfrozen]

theorem exists_index_bound (lcs : List LinearCombination) :
    ∃ n, ∀ lc ∈ lcs, lc.Over fun v => v.index < n := by
  induction lcs with
  | nil => exact ⟨0, fun _ hlc => absurd hlc List.not_mem_nil⟩
  | cons lc lcs ih =>
      obtain ⟨n, hn⟩ := ih
      have hsum : lc.Over fun v => v.index ≤ (lc.terms.map fun t => t.1.index).sum :=
        fun t ht => List.single_le_sum (fun _ _ => Nat.zero_le _) _ (List.mem_map_of_mem ht)
      refine ⟨n + (lc.terms.map fun t => t.1.index).sum + 1, List.forall_mem_cons.2 ⟨?_, ?_⟩⟩
      · exact hsum.mono fun v hv => by omega
      · exact fun lc' hlc' => (hn lc' hlc').mono fun v hv => by omega

/-- A builder can be brought to completion exactly when its rules are fine. -/
theorem exists_run_complete_iff (b : Builder) :
    (∃ ops system, (b.run ops).completion = .ok system) ↔ b.frozen = false ∧ b.Derivable := by
  constructor
  · rintro ⟨ops, hsystem⟩
    obtain ⟨hfrozen, hcomplete⟩ := completion_eq_ok_iff.1 hsystem
    have hext := extends_run b ops
    exact ⟨hext.unfrozen hfrozen, Derivable.of_extends (complete_iff.1 hcomplete).1 hext⟩
  · rintro ⟨hfrozen, hderivable⟩
    obtain ⟨n, hn⟩ := exists_index_bound b.stored
    obtain ⟨ops, hops⟩ := exists_complete_of_bound (n := n) hfrozen hderivable
      fun lc hlc => (hn lc hlc).mono fun v hv => by omega
    exact ⟨ops, completion_eq_ok_iff.2 hops⟩

end Builder

/-! ## Every history -/

/-- After any operations on a new builder: what fails leaves the builder as it
was, and so everything that follows, too; completing succeeds exactly when the
builder is not frozen, no internal variable was allocated on its own, what is
mentioned was handed out and every rule is over what comes before its
variable, the rule of a product being its operands; more operations can lead
there exactly when only what is mentioned stands in the way; and once completed
the builder never changes again and refuses everything. -/
theorem builder_life_cycle (ops : List Operation) :
    let b := Builder.empty.run ops
    (∀ op e, b.answer op = .error e →
      b.next op = b ∧
        ∀ rest, Builder.empty.run (ops ++ op :: rest) = Builder.empty.run (ops ++ rest)) ∧
    ((∃ system, b.completion = .ok system) ↔
      b.frozen = false ∧ .call (.allocate .internal) ∉ ops ∧ b.Closed ∧ b.InOrder) ∧
    (b.frozen = false → ∀ x y rest,
      (Builder.empty.run (ops ++ .call (.mul x y) :: rest)).internals[b.internals.size]? =
        some (some ⟨x, y⟩)) ∧
    ((∃ more system, (b.run more).completion = .ok system) ↔
      b.frozen = false ∧ .call (.allocate .internal) ∉ ops ∧ b.InOrder) ∧
    ∀ system, b.completion = .ok system → ∀ rest,
      let final := Builder.empty.run (ops ++ .call .finalize :: rest)
      final = { b with frozen := true } ∧ ∀ op, final.answer op = .error op.refusal := by
  intro b
  have hderivable : b.frozen = false →
      (b.Derivable ↔ .call (.allocate .internal) ∉ ops ∧ b.InOrder) := by
    intro hfrozen
    have hnone : none ∉ Builder.empty.internals := by simp [Builder.empty]
    rw [Builder.derivable_iff, Builder.none_mem_run_iff hfrozen, or_iff_right hnone]
  refine ⟨fun op e h => ?_, ?_, fun hfrozen x y rest => ?_, ?_, fun system hsystem rest => ?_⟩
  · have hnext := Builder.next_of_error h
    refine ⟨hnext, fun rest => ?_⟩
    rw [Builder.run_append, Builder.run_append]
    exact congrArg (Builder.run · rest) hnext
  · rw [Builder.completion_eq_ok_iff, Builder.complete_iff, ← Builder.closed_iff]
    refine and_congr_right fun hfrozen => ?_
    rw [hderivable hfrozen, and_assoc, and_comm (a := b.InOrder)]
  · rw [Builder.run_append]
    exact Builder.rule_of_mul hfrozen x y rest
  · rw [Builder.exists_run_complete_iff]
    exact and_congr_right hderivable
  · obtain ⟨hfrozen, hcomplete⟩ := Builder.completion_eq_ok_iff.1 ⟨system, hsystem⟩
    intro final
    have hfinal : final = { b with frozen := true } := by
      refine (Builder.run_append _ ops _).trans ?_
      show (b.next (.call .finalize)).run rest = _
      rw [Builder.next_finalize hfrozen hcomplete, Builder.run_of_frozen rfl]
    exact ⟨hfinal, Builder.answer_of_frozen (by rw [hfinal])⟩

/-! A constraint over a variable that is handed out only after the circuit was
refused for it. -/

example :
    let b := Builder.empty.run [.call (.assertEqual (.ofVariable ⟨.secret, 0⟩) 0)]
    b.answer (.call .finalize) = .error (.gadget (.unallocated ⟨.secret, 0⟩)) ∧
      (b.run [.call .finalize, .call (.allocate .secret)]).answer (.call .finalize) = .ok () :=
  ⟨by rfl, by rfl⟩

end PreimageProof
