import Mathlib
import PreimageProof.Proofs.Circuit.Lowering

/-!
# When a circuit can be completed

A builder is completed when every internal variable has a rule that uses
earlier variables only, and nothing mentions a variable that was not handed
out. Conversely, whatever was completed has these properties, which is where
the bounds on the columns of its matrices come from.

What was handed out stays so while a builder grows, so both properties survive
the steps of a program that only combines variables it was given.
-/

namespace PreimageProof

/-! ## Variables of a linear combination -/

namespace LinearCombination

/-- Every variable that occurs satisfies `p`. -/
def Over (p : Variable → Prop) (lc : LinearCombination) : Prop := ∀ t ∈ lc.terms, p t.1

variable {p q : Variable → Prop}

theorem Over.mono {lc : LinearCombination} (h : lc.Over p) (hpq : ∀ v, p v → q v) : lc.Over q :=
  fun t ht => hpq _ (h t ht)

theorem over_iff {lc : LinearCombination} :
    lc.Over p ↔ ∀ v, lc.coefficient v ≠ 0 → p v := by
  constructor
  · intro h v hv
    obtain ⟨t, ht, rfl⟩ := coefficient_ne_zero_iff.1 hv
    exact h t ht
  · intro h t ht
    exact h t.1 (coefficient_ne_zero_iff.2 ⟨t, ht, rfl⟩)

theorem over_zero : (0 : LinearCombination).Over p := fun _ ht => absurd ht List.not_mem_nil

theorem Over.addTerm {lc : LinearCombination} (h : lc.Over p) {v : Variable} (hv : p v) (c : Fr) :
    (lc.addTerm v c).Over p := by
  intro s hs
  rcases fst_mem_insertTerm hs with hs | ⟨t, ht, hs⟩
  · exact hs ▸ hv
  · exact hs ▸ h t ht

theorem over_ofTerm {v : Variable} (hv : p v) (c : Fr) : (ofTerm v c).Over p :=
  over_zero.addTerm hv c

theorem over_ofVariable {v : Variable} (hv : p v) : (ofVariable v).Over p := over_ofTerm hv 1

theorem over_constant (hone : p Variable.one) (c : Fr) : (constant c).Over p :=
  over_ofTerm hone c

theorem Over.add {x y : LinearCombination} (hx : x.Over p) (hy : y.Over p) : (x + y).Over p := by
  show (y.terms.foldl (fun sum t => sum.addTerm t.1 t.2) x).Over p
  rw [Over] at hy
  generalize y.terms = terms at hy
  induction terms generalizing x with
  | nil => exact hx
  | cons t rest ih =>
      rw [List.forall_mem_cons] at hy
      exact ih (hx.addTerm hy.1 t.2) hy.2

theorem Over.neg {x : LinearCombination} (hx : x.Over p) : (-x).Over p := by
  intro s hs
  obtain ⟨t, ht, rfl⟩ := List.mem_map.1 hs
  exact hx t ht

theorem Over.sub {x y : LinearCombination} (hx : x.Over p) (hy : y.Over p) : (x - y).Over p :=
  hx.add hy.neg

end LinearCombination

/-! ## Variables of a builder -/

namespace Builder

variable {b later : Builder}

/-- The builder has allocated the variable. -/
def HandedOut (b : Builder) (v : Variable) : Prop := v.index < b.count v.role

/-- The variable has its value before internal variable `i` gets one. -/
def Before (b : Builder) (i : Nat) (v : Variable) : Prop :=
  b.HandedOut v ∧ (v.role = .internal → v.index < i)

theorem Extends.count_le (h : b.Extends later) (role : Role) : b.count role ≤ later.count role := by
  cases role with
  | statement => exact h.publics_le
  | secret => exact h.secrets_le
  | internal =>
      by_contra hlt
      have hin : later.internals.size < b.internals.size := Nat.lt_of_not_le hlt
      have hkept := h.internal (Array.getElem?_eq_getElem hin)
      exact absurd (Array.getElem?_eq_some_iff.1 hkept).1 (Nat.lt_irrefl _)

theorem HandedOut.extend {v : Variable} (hv : b.HandedOut v) (h : b.Extends later) :
    later.HandedOut v :=
  Nat.lt_of_lt_of_le hv (h.count_le v.role)

theorem Before.extend {v : Variable} {i : Nat} (hv : b.Before i v) (h : b.Extends later) :
    later.Before i v :=
  ⟨hv.1.extend h, hv.2⟩

theorem before_size {v : Variable} (hv : b.HandedOut v) : b.Before b.internals.size v := by
  refine ⟨hv, fun hrole => ?_⟩
  rw [HandedOut, hrole] at hv
  exact hv

theorem place_lt_width {v : Variable} (hv : b.HandedOut v) : b.shape.place v < b.shape.width := by
  obtain ⟨role, index⟩ := v
  simp only [HandedOut, count] at hv
  cases role <;> simp only [Shape.place, Shape.offset, Shape.width, shape] at * <;> omega

theorem place_lt_place {u v : Variable} (hu : b.HandedOut u) (h : u < v) :
    b.shape.place u < b.shape.place v := by
  obtain ⟨role, i⟩ := u
  obtain ⟨role', j⟩ := v
  rw [Variable.lt_def] at h
  simp only [HandedOut, count] at hu
  cases role <;> cases role' <;>
    simp only [Role.rank, Shape.place, Shape.offset, shape] at * <;> omega

/-- A place before that of internal variable `i` is that of a variable before it. -/
theorem before_iff {v : Variable} {i : Nat} (hv : b.HandedOut v) :
    b.Before i v ↔ b.shape.place v < b.offset .internal + i := by
  obtain ⟨role, index⟩ := v
  rw [Before, and_iff_right hv]
  simp only [HandedOut, count] at hv
  cases role <;> simp only [Shape.place, Shape.offset, offset, shape] at * <;> simp <;> omega

/-! ## Lowering succeeds within the variables handed out -/

theorem globalIndex_eq_ok_iff {v : Variable} {n : Nat} :
    b.globalIndex v = .ok n ↔ b.HandedOut v ∧ n = b.shape.place v := by
  rw [globalIndex, offset_eq]
  by_cases hv : v.index < b.count v.role
  · rw [if_pos hv, Except.ok.injEq, eq_comm, HandedOut, and_iff_right hv]
    rfl
  · rw [if_neg hv]
    exact iff_of_false (by simp) fun h => hv h.1

theorem lower_eq_ok_iff {lc : LinearCombination} {row : Row} :
    b.lower lc = .ok row ↔ lc.Over b.HandedOut ∧ row = lc.row b.shape := by
  constructor
  · intro h
    refine ⟨fun t ht => ?_, lower_eq h⟩
    obtain ⟨entry, hentry⟩ := of_mem_of_mapM_eq_ok h ht
    obtain ⟨n, hn, -⟩ := of_bind_eq_ok hentry
    exact (globalIndex_eq_ok_iff.1 hn).1
  · rintro ⟨h, rfl⟩
    refine mapM_eq_ok fun t ht => ?_
    rw [globalIndex_eq_ok_iff.2 ⟨h t ht, rfl⟩]
    rfl

theorem lowerConstraint_eq_ok_iff {c : Constraint} {rows : Row × Row × Row} :
    b.lowerConstraint c = .ok rows ↔
      (c.a.Over b.HandedOut ∧ c.b.Over b.HandedOut ∧ c.c.Over b.HandedOut) ∧
        rows = c.rows b.shape := by
  constructor
  · intro h
    have hrows := lowerConstraint_eq h
    rw [lowerConstraint] at h
    obtain ⟨left, ha, h⟩ := of_bind_eq_ok h
    obtain ⟨right, hb, h⟩ := of_bind_eq_ok h
    obtain ⟨out, hc, h⟩ := of_bind_eq_ok h
    exact ⟨⟨(lower_eq_ok_iff.1 ha).1, (lower_eq_ok_iff.1 hb).1, (lower_eq_ok_iff.1 hc).1⟩, hrows⟩
  · rintro ⟨⟨ha, hb, hc⟩, rfl⟩
    rw [lowerConstraint, lower_eq_ok_iff.2 ⟨ha, rfl⟩, lower_eq_ok_iff.2 ⟨hb, rfl⟩,
      lower_eq_ok_iff.2 ⟨hc, rfl⟩]
    rfl

theorem row_before_iff {lc : LinearCombination} (h : lc.Over b.HandedOut) (i : Nat) :
    (∀ entry ∈ lc.row b.shape, entry.2 < b.offset .internal + i) ↔ lc.Over (b.Before i) := by
  rw [LinearCombination.row, List.forall_mem_map]
  exact forall₂_congr fun t ht => (before_iff (h t ht)).symm

theorem lowerDerivation_eq_ok_iff {i : Nat} {rule : Option Derivation} {rows : Row × Row} :
    b.lowerDerivation i rule = .ok rows ↔
      ∃ d, rule = some d ∧ d.a.Over (b.Before i) ∧ d.b.Over (b.Before i) ∧
        rows = (d.a.row b.shape, d.b.row b.shape) := by
  constructor
  · intro h
    obtain ⟨d, rfl, hrows, hearlier⟩ := lowerDerivation_eq h
    obtain ⟨left, ha, h⟩ := of_bind_eq_ok h
    obtain ⟨right, hb, h⟩ := of_bind_eq_ok h
    rw [hrows] at hearlier
    simp only [List.forall_mem_append] at hearlier
    exact ⟨d, rfl, (row_before_iff (lower_eq_ok_iff.1 ha).1 i).1 hearlier.1,
      (row_before_iff (lower_eq_ok_iff.1 hb).1 i).1 hearlier.2, hrows⟩
  · rintro ⟨d, rfl, ha, hb, rfl⟩
    have ha' : d.a.Over b.HandedOut := ha.mono fun _ hv => hv.1
    have hb' : d.b.Over b.HandedOut := hb.mono fun _ hv => hv.1
    have hearlier : ¬ ((d.a.row b.shape ++ d.b.row b.shape).any fun entry =>
        b.offset .internal + i ≤ entry.2) = true := by
      simp only [List.any_eq_true, not_exists, not_and, decide_eq_true_eq, Nat.not_le]
      rw [List.forall_mem_append, row_before_iff ha', row_before_iff hb']
      exact ⟨ha, hb⟩
    rw [lowerDerivation, lower_eq_ok_iff.2 ⟨ha', rfl⟩, lower_eq_ok_iff.2 ⟨hb', rfl⟩]
    exact if_neg hearlier

/-! ## Complete builders -/

/-- Every internal variable has a rule that uses earlier variables, and every
constraint uses variables that were handed out. -/
structure Complete (b : Builder) : Prop where
  derived : ∀ {i : Nat} {rule : Option Derivation}, b.internals[i]? = some rule →
    ∃ d, rule = some d ∧ d.a.Over (b.Before i) ∧ d.b.Over (b.Before i)
  constraint : ∀ {k : Nat} {c : Constraint}, b.constraints[k]? = some c →
    c.a.Over b.HandedOut ∧ c.b.Over b.HandedOut ∧ c.c.Over b.HandedOut

theorem mem_zipIdx_iff {α : Type} {xs : Array α} {x : α} {i : Nat} :
    (x, i) ∈ xs.toList.zipIdx ↔ xs[i]? = some x := by
  rw [List.mem_zipIdx_iff_getElem?, Array.getElem?_toList]

/-- What finalizing asks for. -/
theorem system_eq_ok_iff : (∃ system, b.system = .ok system) ↔ b.Complete := by
  constructor
  · rintro ⟨system, h⟩
    rw [Builder.system] at h
    obtain ⟨derivations, hrules, h⟩ := of_bind_eq_ok h
    obtain ⟨rows, hrows, h⟩ := of_bind_eq_ok h
    refine ⟨fun {i rule} hi => ?_, fun {k c} hk => ?_⟩
    · obtain ⟨out, hout⟩ := of_mem_of_mapM_eq_ok hrules (mem_zipIdx_iff.2 hi)
      obtain ⟨d, hd, ha, hb, -⟩ := lowerDerivation_eq_ok_iff.1 hout
      exact ⟨d, hd, ha, hb⟩
    · rw [← Array.getElem?_toList] at hk
      obtain ⟨out, hout⟩ := of_mem_of_mapM_eq_ok hrows (List.mem_of_getElem? hk)
      exact (lowerConstraint_eq_ok_iff.1 hout).1
  · intro h
    have hrules : ∀ d ∈ b.internals.toList.zipIdx,
        ∃ rows, b.lowerDerivation d.2 d.1 = .ok rows := by
      rintro ⟨rule, i⟩ hd
      obtain ⟨d, hrule, ha, hb⟩ := h.derived (mem_zipIdx_iff.1 hd)
      exact ⟨_, lowerDerivation_eq_ok_iff.2 ⟨d, hrule, ha, hb, rfl⟩⟩
    have hrows : ∀ c ∈ b.constraints.toList, ∃ rows, b.lowerConstraint c = .ok rows := by
      intro c hc
      obtain ⟨k, hk⟩ := List.mem_iff_getElem?.1 hc
      rw [Array.getElem?_toList] at hk
      exact ⟨_, lowerConstraint_eq_ok_iff.2 ⟨h.constraint hk, rfl⟩⟩
    obtain ⟨derivations, hderivations⟩ := exists_mapM_eq_ok hrules
    obtain ⟨rows, hrows⟩ := exists_mapM_eq_ok hrows
    rw [Builder.system, hderivations, hrows]
    exact ⟨_, rfl⟩

theorem complete_empty : empty.Complete :=
  ⟨fun h => by simp [empty] at h, fun h => by simp [empty] at h⟩

/-- Rules and constraints that were fine stay so. -/
theorem Complete.extend (h : b.Complete) (hext : b.Extends later)
    (hrules : ∀ {i : Nat} {rule : Option Derivation}, later.internals[i]? = some rule →
      b.internals[i]? = some rule ∨
        ∃ d, rule = some d ∧ d.a.Over (later.Before i) ∧ d.b.Over (later.Before i))
    (hconstraints : ∀ {k : Nat} {c : Constraint}, later.constraints[k]? = some c →
      b.constraints[k]? = some c ∨
        c.a.Over later.HandedOut ∧ c.b.Over later.HandedOut ∧ c.c.Over later.HandedOut) :
    later.Complete := by
  refine ⟨fun hi => ?_, fun hk => ?_⟩
  · rcases hrules hi with hi | hnew
    · obtain ⟨d, hd, ha, hb⟩ := h.derived hi
      exact ⟨d, hd, ha.mono fun _ hv => hv.extend hext, hb.mono fun _ hv => hv.extend hext⟩
    · exact hnew
  · rcases hconstraints hk with hk | hnew
    · obtain ⟨ha, hb, hc⟩ := h.constraint hk
      exact ⟨ha.mono fun _ hv => hv.extend hext, hb.mono fun _ hv => hv.extend hext,
        hc.mono fun _ hv => hv.extend hext⟩
    · exact hnew

theorem handedOut_allocated (b : Builder) (role : Role) :
    (b.allocated role).HandedOut ⟨role, b.count role⟩ := by
  cases role with
  | statement => exact Nat.lt_succ_self _
  | secret => exact Nat.lt_succ_self _
  | internal =>
      show b.internals.size < (b.internals.push none).size
      rw [Array.size_push]
      exact Nat.lt_succ_self _

theorem handedOut_multiplied (b : Builder) (rule : Derivation) :
    (b.multiplied rule).HandedOut ⟨.internal, b.internals.size⟩ := by
  show b.internals.size < (b.internals.push (some rule)).size
  rw [Array.size_push]
  exact Nat.lt_succ_self _

/-- Internal variables allocated on their own are the exception: they have no rule. -/
theorem Complete.allocated (h : b.Complete) {role : Role} (hrole : role ≠ .internal) :
    (b.allocated role).Complete := by
  cases role with
  | statement => exact h.extend (extends_allocated b .statement) .inl .inl
  | secret => exact h.extend (extends_allocated b .secret) .inl .inl
  | internal => exact absurd rfl hrole

theorem Complete.constrained (h : b.Complete) {c : Constraint} (ha : c.a.Over b.HandedOut)
    (hb : c.b.Over b.HandedOut) (hc : c.c.Over b.HandedOut) : (b.constrained c).Complete := by
  refine h.extend (extends_constrained b c) .inl fun hk => ?_
  rw [Builder.constrained, Array.getElem?_push] at hk
  split at hk
  · cases hk
    exact .inr ⟨ha, hb, hc⟩
  · exact .inl hk

theorem Complete.multiplied (h : b.Complete) {rule : Derivation} (ha : rule.a.Over b.HandedOut)
    (hb : rule.b.Over b.HandedOut) : (b.multiplied rule).Complete := by
  have hext := extends_multiplied b rule
  refine h.extend hext (fun hi => ?_) fun hk => ?_
  · rw [Builder.multiplied, Array.getElem?_push] at hi
    split at hi
    · next heq =>
        cases hi
        rw [heq]
        exact .inr ⟨rule, rfl, ha.mono fun _ hv => (before_size hv).extend hext,
          hb.mono fun _ hv => (before_size hv).extend hext⟩
    · exact .inl hi
  · rw [Builder.multiplied, Array.getElem?_push] at hk
    split at hk
    · cases hk
      exact .inr ⟨ha.mono fun _ hv => hv.extend hext, hb.mono fun _ hv => hv.extend hext,
        LinearCombination.over_ofVariable (handedOut_multiplied b rule)⟩
    · exact .inl hk

/-! ## Programs that only use what they were given -/

/-- A builder that can still grow and could be completed as it is. -/
structure Ready (b : Builder) : Prop where
  unfrozen : b.frozen = false
  one : b.HandedOut Variable.one
  complete : b.Complete

theorem ready_empty : empty.Ready := ⟨rfl, Nat.one_pos, complete_empty⟩

theorem Ready.allocated (h : b.Ready) {role : Role} (hrole : role ≠ .internal) :
    (b.allocated role).Ready := by
  refine ⟨?_, h.one.extend (extends_allocated b role), h.complete.allocated hrole⟩
  cases role <;> exact h.unfrozen

theorem Ready.constrained (h : b.Ready) {c : Constraint} (ha : c.a.Over b.HandedOut)
    (hb : c.b.Over b.HandedOut) (hc : c.c.Over b.HandedOut) : (b.constrained c).Ready :=
  ⟨h.unfrozen, h.one.extend (extends_constrained b c), h.complete.constrained ha hb hc⟩

theorem Ready.multiplied (h : b.Ready) {rule : Derivation} (ha : rule.a.Over b.HandedOut)
    (hb : rule.b.Over b.HandedOut) : (b.multiplied rule).Ready :=
  ⟨h.unfrozen, h.one.extend (extends_multiplied b rule), h.complete.multiplied ha hb⟩

end Builder

/-- The program succeeds and leaves a builder that extends the one it began
with and could be completed. -/
def StaysReady (b : Builder) (program : Build LinearCombination) : Prop :=
  ∃ out later, program.on b = (.ok out, later) ∧ b.Extends later ∧ later.Ready ∧
    out.Over later.HandedOut

section

variable {b : Builder}

theorem staysReady_pure (hb : b.Ready) {out : LinearCombination} (hout : out.Over b.HandedOut) :
    StaysReady b (pure out) :=
  ⟨out, b, rfl, .refl b, hb, hout⟩

theorem staysReady_mul_bind (hb : b.Ready) {x y : LinearCombination} (hx : x.Over b.HandedOut)
    (hy : y.Over b.HandedOut) {next : Variable → Build LinearCombination}
    (hnext : ∀ (v : Variable) (later : Builder), b.Extends later → later.Ready →
      later.HandedOut v → StaysReady later (next v)) :
    StaysReady b (Build.mul x y >>= next) := by
  have hext := Builder.extends_multiplied b ⟨x, y⟩
  obtain ⟨out, later, hrun, hlater, hready, hout⟩ :=
    hnext _ _ hext (Builder.Ready.multiplied hb hx hy) (Builder.handedOut_multiplied b ⟨x, y⟩)
  exact ⟨out, later, (Build.bind_on_of_ok (Builder.mul_on hb.unfrozen x y)).trans hrun,
    hext.trans hlater, hready, hout⟩

theorem StaysReady.bind {program : Build LinearCombination}
    {next : LinearCombination → Build LinearCombination} (h : StaysReady b program)
    (hnext : ∀ (out : LinearCombination) (later : Builder), b.Extends later → later.Ready →
      out.Over later.HandedOut → StaysReady later (next out)) :
    StaysReady b (program >>= next) := by
  obtain ⟨mid, b', hrun, hext, hready, hmid⟩ := h
  obtain ⟨out, later, hrun', hlater, hready', hout⟩ := hnext mid b' hext hready hmid
  exact ⟨out, later, (Build.bind_on_of_ok hrun).trans hrun', hext.trans hlater, hready', hout⟩

theorem staysReady_foldlM {α : Type} {step : LinearCombination → α → Build LinearCombination}
    {xs : List α} (hb : b.Ready)
    (hstep : ∀ (state : LinearCombination) (x : α) (later : Builder), x ∈ xs → b.Extends later →
      later.Ready → state.Over later.HandedOut → StaysReady later (step state x))
    {state : LinearCombination} (hstate : state.Over b.HandedOut) :
    StaysReady b (xs.foldlM step state) := by
  induction xs generalizing b state with
  | nil => exact staysReady_pure hb hstate
  | cons x xs ih =>
      rw [List.foldlM_cons]
      refine (hstep state x b List.mem_cons_self (.refl b) hb hstate).bind
        fun out later hext hready hout => ?_
      exact ih hready
        (fun s y next hy hnext => hstep s y next (List.mem_cons_of_mem _ hy) (hext.trans hnext))
        hout

end

/-! ## Columns of a completed circuit -/

namespace Lowered

variable {b : Builder} {system : ConstraintSystem}

/-- The columns of the matrices are those of variables. -/
theorem column_lt (h : Lowered b system) (hb : b.Complete) {row : Row × Row × Row}
    (hrow : row ∈ system.matrices.rows) :
    ∀ entry ∈ row.1 ++ row.2.1 ++ row.2.2, entry.2 < system.shape.width := by
  rw [h.matrices] at hrow
  obtain ⟨c, hc, rfl⟩ := List.mem_map.1 hrow
  obtain ⟨k, hk⟩ := List.mem_iff_getElem?.1 hc
  rw [Array.getElem?_toList] at hk
  obtain ⟨ha, hb, hc⟩ := hb.constraint hk
  have hlower : ∀ {lc : LinearCombination}, lc.Over b.HandedOut →
      ∀ entry ∈ lc.row b.shape, entry.2 < system.shape.width := by
    intro lc hlc
    rw [LinearCombination.row, List.forall_mem_map, h.shape]
    exact fun t ht => Builder.place_lt_width (hlc t ht)
  simp only [Constraint.rows, List.forall_mem_append]
  exact ⟨⟨hlower ha, hlower hb⟩, hlower hc⟩

end Lowered

end PreimageProof
