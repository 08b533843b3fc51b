import Mathlib
import PreimageProof.Proofs.Circuit.Assignment
import PreimageProof.Proofs.Circuit.CallOrder
import PreimageProof.Proofs.Circuit.Completion

/-!
# The layout of a circuit

A call numbers its variable within the role, the order of the calls is a second
numbering, and an assignment uses a third: the constant, the variables of the
statement, the secrets and the internal variables, each in the order of their
calls. Where a role begins is known only at the end, so a variable of the
statement that is allocated late moves all secrets and internal variables.

Completing the circuit hides this. A row reads an assignment exactly as its
linear combination reads the variables, whatever the places are.
-/

namespace PreimageProof

open Call (declarations statements SameOrders)

/-! ## What calls return and state -/

namespace Builder

/-- The variable that a call returns. -/
def handle (b : Builder) : Call → Option Variable
  | .allocate role => ((Build.allocate role).on b).1.toOption
  | .mul x y => ((Build.mul x y).on b).1.toOption
  | .constrain _ _ _ | .assertEqual _ _ | .finalize => none

/-- The constraint that a call states if it is not refused. -/
def statement (b : Builder) : Call → Option Constraint
  | .constrain x y z => some ⟨x, y, z⟩
  | .assertEqual x y => some ⟨x - y, .ofVariable .one, 0⟩
  | .mul x y => (b.handle (.mul x y)).map fun out => ⟨x, y, .ofVariable out⟩
  | .allocate _ | .finalize => none

def handles : Builder → List Call → List Variable
  | _, [] => []
  | b, call :: calls => (b.handle call).toList ++ (b.after call).handles calls

def stated : Builder → List Call → List Constraint
  | _, [] => []
  | b, call :: calls => (b.statement call).toList ++ (b.after call).stated calls

variable {b : Builder} {call : Call} {calls : List Call}

theorem handle_eq (h : b.frozen = false) :
    b.handle call = call.declares.map fun role => ⟨role, b.count role⟩ := by
  cases call with
  | allocate role => rw [handle, allocate_on h]; rfl
  | constrain x y z => rfl
  | assertEqual x y => rfl
  | mul x y => rw [handle, mul_on h]; rfl
  | finalize => rfl

theorem constraints_grown (h : b.frozen = false) :
    (b.grown call).constraints.toList = b.constraints.toList ++ (b.statement call).toList := by
  cases call with
  | allocate role => cases role <;> simp [grown, allocated, statement]
  | constrain x y z => simp [grown, constrained, statement]
  | assertEqual x y => simp [grown, constrained, statement]
  | mul x y => simp [grown, multiplied, statement, handle_eq h, Call.declares, productRow, count]
  | finalize => simp [grown, statement]

theorem unfrozen_of_cons (h : (b.afterAll (call :: calls)).frozen = false) :
    b.frozen = false ∧ b.after call = b.grown call := by
  have hcall := ((b.after call).extends_afterAll calls).unfrozen h
  exact ⟨(step_after b call).extends.unfrozen hcall, after_eq_grown hcall⟩

theorem constraints_afterAll (h : (b.afterAll calls).frozen = false) :
    (b.afterAll calls).constraints.toList = b.constraints.toList ++ b.stated calls := by
  induction calls generalizing b with
  | nil => simp [afterAll, stated]
  | cons call calls ih =>
      obtain ⟨hb, hcall⟩ := unfrozen_of_cons h
      rw [afterAll_cons, ih h, stated, hcall, constraints_grown hb, List.append_assoc]

/-- The variables of a role are numbered in the order of their calls. -/
theorem handles_of_role (h : (b.afterAll calls).frozen = false) (role : Role) :
    (b.handles calls).filter (fun v => v.role = role) =
      (List.range' (b.count role) (declarations role calls).length).map (Variable.mk role) := by
  induction calls generalizing b with
  | nil => rfl
  | cons call calls ih =>
      obtain ⟨hb, hcall⟩ := unfrozen_of_cons h
      rw [handles, List.filter_append, ih h, hcall, handle_eq hb]
      by_cases hrole : call.declares = some role
      · rw [count_grown_of role hrole, declarations_cons_of role hrole, hrole,
          List.length_cons, List.range'_succ]
        simp
      · rw [count_grown_of_ne role hrole, declarations_cons_of_ne role hrole]
        have hnone : (call.declares.map fun r => (⟨r, b.count r⟩ : Variable)).toList.filter
            (fun v => v.role = role) = [] := by
          cases hother : call.declares with
          | none => rfl
          | some other => simpa [hother] using hrole
        rw [hnone, List.nil_append]

/-! ## Places -/

/-- All variables, in the order of an assignment. -/
def allVariables (b : Builder) : List Variable :=
  (List.range (b.count .statement)).map (Variable.mk .statement) ++
    ((List.range (b.count .secret)).map (Variable.mk .secret) ++
      (List.range (b.count .internal)).map (Variable.mk .internal))

theorem mem_allVariables {v : Variable} : v ∈ b.allVariables ↔ b.HandedOut v := by
  obtain ⟨role, index⟩ := v
  cases role <;> simp [allVariables, HandedOut, count]

/-- The three ranges of places follow each other without a gap. -/
theorem map_place_allVariables : b.allVariables.map b.shape.place = List.range b.shape.width := by
  have hrole : ∀ (role : Role) (n : Nat),
      ((List.range n).map (Variable.mk role)).map b.shape.place =
        List.range' (b.shape.offset role) n := by
    intro role n
    rw [List.map_map, List.range'_eq_map_range]
    rfl
  rw [allVariables, List.map_append, List.map_append, hrole, hrole, hrole, List.range_eq_range',
    Shape.width, ← List.range'_append_1, ← List.range'_append_1, List.append_assoc]
  simp [Shape.offset, shape, count]

end Builder

theorem bijOn_of_map_eq_range {α : Type} {f : α → Nat} {xs : List α} {n : Nat}
    (h : xs.map f = List.range n) : Set.BijOn f {x | x ∈ xs} (Set.Iio n) := by
  have hnodup : (xs.map f).Nodup := h ▸ List.nodup_range
  have himage : ∀ k, (∃ x ∈ xs, f x = k) ↔ k < n := fun k => by
    rw [← List.mem_map, h, List.mem_range]
  exact ⟨fun x hx => (himage _).1 ⟨x, hx, rfl⟩,
    fun x hx y hy hxy => List.inj_on_of_nodup_map hnodup hx hy hxy,
    fun k hk => (himage k).2 hk⟩

namespace Call

/-- The variables of a role that a history returns, in the order of its calls. -/
def returned (role : Role) (calls : List Call) : List Variable :=
  (Builder.empty.handles calls).filter fun v => v.role = role

/-- The variables of a history in the order of an assignment. -/
def layout (calls : List Call) : List Variable :=
  .one :: (returned .statement calls ++ (returned .secret calls ++ returned .internal calls))

variable {calls calls' : List Call}

theorem returned_eq (h : (Builder.empty.afterAll calls).frozen = false) (role : Role) :
    returned role calls = (List.range' (Builder.empty.count role)
      (declarations role calls).length).map (Variable.mk role) :=
  Builder.handles_of_role h role

theorem layout_eq (h : (Builder.empty.afterAll calls).frozen = false) :
    layout calls = (Builder.empty.afterAll calls).allVariables := by
  have hcount : ∀ role, (Builder.empty.afterAll calls).count role =
      Builder.empty.count role + (declarations role calls).length := fun role => by
    rw [Builder.afterAll_eq_grownAll h, Builder.count_grownAll]
  have hone : Builder.empty.count .statement = 1 := rfl
  have hzero : Builder.empty.count .secret = 0 ∧ Builder.empty.count .internal = 0 := ⟨rfl, rfl⟩
  rw [layout, returned_eq h, returned_eq h, returned_eq h, Builder.allVariables, hcount, hcount,
    hcount, hone, hzero.1, hzero.2, Nat.zero_add, Nat.zero_add, Nat.add_comm 1,
    List.range_eq_range', List.range_eq_range', List.range_eq_range', List.range'_succ]
  rfl

theorem layout_eq_of_sameOrders (h : SameOrders calls calls')
    (hopen : (Builder.empty.afterAll calls).frozen = false)
    (hopen' : (Builder.empty.afterAll calls').frozen = false) : layout calls' = layout calls := by
  rw [layout_eq hopen, layout_eq hopen', Builder.afterAll_eq_of_sameOrders h hopen hopen']

end Call

/-! ## Rows -/

/-- Columns increase and stay below the width, and no entry is superfluous. -/
structure Row.Tidy (row : Row) (width : Nat) : Prop where
  increasing : row.Pairwise fun x y => x.2 < y.2
  within : ∀ entry ∈ row, entry.2 < width
  nonzero : ∀ entry ∈ row, entry.1 ≠ 0

namespace Builder

theorem tidy_row {b : Builder} {lc : LinearCombination} (h : lc.Over b.HandedOut) :
    (lc.row b.shape).Tidy b.shape.width where
  increasing :=
    List.pairwise_map.2 (lc.ordered.imp_of_mem fun hs _ hlt => place_lt_place (h _ hs) hlt)
  within := List.forall_mem_map.2 fun t ht => place_lt_width (h t ht)
  nonzero := List.forall_mem_map.2 lc.nonzero

end Builder

namespace Lowered

variable {b : Builder} {system : ConstraintSystem}

theorem tidy (h : Lowered b system) (hb : b.Complete) :
    ∀ row ∈ system.matrices.a ++ system.matrices.b ++ system.matrices.c,
      row.Tidy system.shape.width := by
  refine h.aligned.forall_mem fun row hrow => ?_
  rw [h.matrices] at hrow
  obtain ⟨c, hc, rfl⟩ := List.mem_map.1 hrow
  obtain ⟨k, hk⟩ := List.mem_iff_getElem?.1 hc
  rw [Array.getElem?_toList] at hk
  obtain ⟨hleft, hright, hout⟩ := hb.constraint hk
  rw [h.shape]
  exact ⟨Builder.tidy_row hleft, Builder.tidy_row hright, Builder.tidy_row hout⟩

/-! ## Values -/

theorem matrices_eq (h : Lowered b system) :
    system.matrices.a = b.constraints.toList.map (fun c => c.a.row b.shape) ∧
      system.matrices.b = b.constraints.toList.map (fun c => c.b.row b.shape) ∧
      system.matrices.c = b.constraints.toList.map (fun c => c.c.row b.shape) := by
  obtain ⟨ha, hb, hc⟩ := h.aligned.map_rows
  rw [← ha, ← hb, ← hc, h.matrices, List.map_map, List.map_map, List.map_map]
  exact ⟨rfl, rfl, rfl⟩

theorem map_value_row (h : Lowered b system) (part : Constraint → LinearCombination)
    (z : List Fr) :
    (b.constraints.toList.map fun c => (part c).row b.shape).map (Row.value · z.toArray) =
      b.constraints.toList.map fun c => (part c).value (system.shape.valuation z) := by
  rw [List.map_map, h.shape]
  exact List.map_congr_left fun c _ => (part c).value_row b.shape z

theorem violates_iff (h : Lowered b system) {z : List Fr} {k : Nat} :
    system.matrices.Violates z k ↔
      ∃ c, b.constraints.toList[k]? = some c ∧ ¬ c.Holds (system.shape.valuation z) := by
  rw [Matrices.Violates, h.matrices, h.shape]
  constructor
  · rintro ⟨row, hrow, hne⟩
    rw [List.getElem?_map, Option.map_eq_some_iff] at hrow
    obtain ⟨c, hc, rfl⟩ := hrow
    exact ⟨c, hc, fun hholds => hne ((c.rows_hold_iff b.shape z).2 hholds)⟩
  · rintro ⟨c, hc, hne⟩
    exact ⟨_, by rw [List.getElem?_map, hc]; rfl,
      fun hholds => hne ((c.rows_hold_iff b.shape z).1 hholds)⟩

/-- The variables of the statement have the public inputs as values, in the order
of their calls. -/
theorem map_valuation_returned {calls : List Call}
    (h : Lowered (Builder.empty.afterAll calls) system)
    (hopen : (Builder.empty.afterAll calls).frozen = false) {secrets publics : List Fr}
    {w : Witness} (hw : assign system secrets publics = .ok w) :
    (Call.returned .statement calls).map (system.shape.valuation w.values) = publics := by
  obtain ⟨-, hlength, rest, hvalues⟩ :=
    h.values_of_assign (Builder.consistent_empty.afterAll calls) hw
  have hcount : (declarations .statement calls).length = publics.length := by
    have hpublics : system.shape.publics = (Builder.empty.afterAll calls).count .statement :=
      congrArg Shape.publics h.shape
    rw [Builder.afterAll_eq_grownAll hopen, Builder.count_grownAll] at hpublics
    rw [hlength, Shape.publicInputs, hpublics]
    exact (Nat.add_sub_cancel_left ..).symm
  rw [Call.returned_eq hopen, List.map_map, hcount]
  refine List.ext_getElem (by simp) fun i hi hi' => ?_
  have hplace : system.shape.place ⟨.statement, 1 + 1 * i⟩ = i + 1 := by
    show 0 + (1 + 1 * i) = i + 1
    omega
  rw [List.getElem_map, List.getElem_range', Function.comp_apply, Shape.valuation]
  show w.values.getD (system.shape.place ⟨.statement, 1 + 1 * i⟩) 0 = publics[i]
  rw [hplace, hvalues, List.getD_cons_succ, List.getD_append _ _ _ _ hi',
    List.getD_eq_getElem _ _ hi']

end Lowered

/-- Whatever the order of the calls: places are numbered without a gap, a row has
the value of its linear combination, and calls of different kinds can change
places. -/
theorem completion_preserves_meaning {calls : List Call} {system : ConstraintSystem}
    (h : (Builder.empty.afterAll calls).completion = .ok system) :
    ((Call.layout calls).map system.shape.place = List.range system.shape.width ∧
      Set.BijOn system.shape.place {v | v ∈ Call.layout calls} (Set.Iio system.shape.width) ∧
      ∀ v n, (Builder.empty.afterAll calls).globalIndex v = .ok n ↔
        v ∈ Call.layout calls ∧ n = system.shape.place v) ∧
    (∀ row ∈ system.matrices.a ++ system.matrices.b ++ system.matrices.c,
      row.Tidy system.shape.width) ∧
    (∀ z : List Fr,
      system.matrices.a.map (Row.value · z.toArray) =
        (Builder.empty.stated calls).map (fun c => c.a.value (system.shape.valuation z)) ∧
      system.matrices.b.map (Row.value · z.toArray) =
        (Builder.empty.stated calls).map (fun c => c.b.value (system.shape.valuation z)) ∧
      system.matrices.c.map (Row.value · z.toArray) =
        (Builder.empty.stated calls).map (fun c => c.c.value (system.shape.valuation z)) ∧
      (system.matrices.check z = .ok () ↔
        ∀ c ∈ Builder.empty.stated calls, c.Holds (system.shape.valuation z)) ∧
      ∀ e, system.matrices.check z = .error e ↔
        ∃ k, e = .unsatisfied k ∧
          IsLeast {k | ∃ c, (Builder.empty.stated calls)[k]? = some c ∧
            ¬ c.Holds (system.shape.valuation z)} k) ∧
    (∀ calls', SameOrders calls calls' →
      (Call.finalize ∉ calls' → (Builder.empty.afterAll calls').frozen = false) ∧
      ((Builder.empty.afterAll calls').frozen = false →
        (Builder.empty.afterAll calls').completion = .ok system ∧
          Call.layout calls' = Call.layout calls)) ∧
    ∀ secrets publics w, assign system secrets publics = .ok w →
      w.publicProjection = ⟨publics⟩ ∧
        (Call.returned .statement calls).map (system.shape.valuation w.values) = publics := by
  obtain ⟨hopen, hsystem⟩ := Builder.completion_eq_ok h
  have hlowered := Builder.lowered hsystem
  have hcomplete := Builder.system_eq_ok_iff.1 ⟨system, hsystem⟩
  have hstated : (Builder.empty.afterAll calls).constraints.toList = Builder.empty.stated calls :=
    Builder.constraints_afterAll hopen
  have hlayout := Call.layout_eq hopen
  have hplaces : (Call.layout calls).map system.shape.place = List.range system.shape.width := by
    rw [hlayout, hlowered.shape, Builder.map_place_allVariables]
  refine ⟨⟨hplaces, bijOn_of_map_eq_range hplaces, fun v n => ?_⟩, hlowered.tidy hcomplete,
    fun z => ?_, fun calls' hsame => ⟨Builder.unfrozen_afterAll_of_not_mem rfl, fun hopen' => ?_⟩,
    fun secrets publics w hw => ⟨hlowered.publicProjection_of_assign
      (Builder.consistent_empty.afterAll calls) hw, hlowered.map_valuation_returned hopen hw⟩⟩
  · rw [Builder.globalIndex_eq_ok_iff, hlayout, Builder.mem_allVariables, hlowered.shape]
  · obtain ⟨ha, hb, hc⟩ := hlowered.matrices_eq
    rw [← hstated]
    refine ⟨ha ▸ hlowered.map_value_row (·.a) z, hb ▸ hlowered.map_value_row (·.b) z,
      hc ▸ hlowered.map_value_row (·.c) z, ?_, fun e => ?_⟩
    · rw [Matrices.check_eq_ok_iff, Matrices.Satisfied, hlowered.matrices, List.forall_mem_map,
        hlowered.shape]
      exact forall₂_congr fun c _ => c.rows_hold_iff _ z
    · simp only [Matrices.check_eq_error_iff, hlowered.violates_iff]
  · rw [Builder.afterAll_eq_of_sameOrders hsame hopen hopen']
    exact ⟨h, Call.layout_eq_of_sameOrders hsame hopen hopen'⟩

/-- The circuit of a square, its statement declared first. -/
def squareCallsReordered : List Call :=
  [.allocate .statement,
    .allocate .secret,
    .mul (.ofVariable ⟨.secret, 0⟩) (.ofVariable ⟨.secret, 0⟩),
    .assertEqual (.ofVariable ⟨.statement, 1⟩) (.ofVariable ⟨.internal, 0⟩)]

theorem squareCallsReordered_completion :
    (Builder.empty.afterAll squareCalls).completion = .ok squareSystem ∧
      SameOrders squareCalls squareCallsReordered ∧
      (Builder.empty.afterAll squareCallsReordered).completion = .ok squareSystem := by
  have hbuilt : (Builder.empty.afterAll squareCalls).completion = .ok squareSystem := by rfl
  have hsame : SameOrders squareCalls squareCallsReordered :=
    ⟨fun role => by cases role <;> rfl, rfl⟩
  obtain ⟨-, -, -, hreordered, -⟩ := completion_preserves_meaning hbuilt
  obtain ⟨hopen, hsystem⟩ := hreordered _ hsame
  exact ⟨hbuilt, hsame, (hsystem (hopen (by simp [squareCallsReordered]))).1⟩

end PreimageProof
