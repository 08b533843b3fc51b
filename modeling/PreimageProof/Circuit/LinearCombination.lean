import PreimageProof.Circuit.Variable

/-!
# Linear combinations

`Σ coefficient * variable`, in the one form every such sum has: each variable
at most once, in the order of the variables, none with coefficient zero. The
form is part of the type, so two combinations are equal exactly when they
give every variable the same coefficient, however they were built, and the
row a constraint becomes does not depend on how its author wrote it.
-/

namespace PreimageProof

/-- A variable with its coefficient. -/
abbrev Term : Type := Variable × Fr

/-- The variables increase strictly. -/
def Ordered (terms : List Term) : Prop := terms.Pairwise fun s t => s.1 < t.1

/-- A linear combination of variables, in canonical form. -/
structure LinearCombination where
  terms : List Term
  ordered : Ordered terms
  nonzero : ∀ t ∈ terms, t.2 ≠ 0

namespace LinearCombination

instance : DecidableEq LinearCombination := fun a b =>
  if h : a.terms = b.terms then
    isTrue (by cases a; cases b; cases h; rfl)
  else
    isFalse fun hab => h (congrArg terms hab)

/-! ## Adding a term

The new coefficient is merged with the one the variable has, and a variable
whose coefficient becomes zero goes.
-/

/-- Add `c * v` to a list of terms. -/
def insertTerm (v : Variable) (c : Fr) : List Term → List Term
  | [] => if c = 0 then [] else [(v, c)]
  | t :: rest =>
      if v = t.1 then
        if t.2 + c = 0 then rest else (v, t.2 + c) :: rest
      else if v < t.1 then
        if c = 0 then t :: rest else (v, c) :: t :: rest
      else t :: insertTerm v c rest

theorem fst_mem_insertTerm {v : Variable} {c : Fr} {terms : List Term} {s : Term}
    (h : s ∈ insertTerm v c terms) : s.1 = v ∨ ∃ t ∈ terms, s.1 = t.1 := by
  induction terms with
  | nil =>
      by_cases hc : c = 0 <;> simp_all [insertTerm]
  | cons t rest ih =>
      rw [insertTerm] at h
      by_cases hv : v = t.1
      · by_cases hc : t.2 + c = 0 <;> simp only [hv, hc, if_true, if_false] at h
        · exact .inr ⟨s, List.mem_cons_of_mem _ h, rfl⟩
        · rcases List.mem_cons.1 h with rfl | h
          · exact .inl hv.symm
          · exact .inr ⟨s, List.mem_cons_of_mem _ h, rfl⟩
      · simp only [hv, if_false] at h
        by_cases hlt : v < t.1
        · by_cases hc : c = 0 <;> simp only [hlt, hc, if_true, if_false] at h
          · exact .inr ⟨s, h, rfl⟩
          · rcases List.mem_cons.1 h with rfl | h
            · exact .inl rfl
            · exact .inr ⟨s, h, rfl⟩
        · simp only [hlt, if_false] at h
          rcases List.mem_cons.1 h with rfl | h
          · exact .inr ⟨s, List.mem_cons_self, rfl⟩
          · rcases ih h with hs | ⟨u, hu, hs⟩
            · exact .inl hs
            · exact .inr ⟨u, List.mem_cons_of_mem _ hu, hs⟩

theorem ordered_insertTerm {v : Variable} {c : Fr} {terms : List Term} (h : Ordered terms) :
    Ordered (insertTerm v c terms) := by
  induction terms with
  | nil =>
      by_cases hc : c = 0 <;> simp [insertTerm, hc, Ordered]
  | cons t rest ih =>
      have ⟨hhead, htail⟩ := List.pairwise_cons.1 h
      rw [insertTerm]
      split
      · rename_i hv
        split
        · exact htail
        · exact List.pairwise_cons.2 ⟨fun s hs => hv ▸ hhead s hs, htail⟩
      · rename_i hne
        split
        · rename_i hlt
          split
          · exact h
          · refine List.pairwise_cons.2 ⟨fun s hs => ?_, h⟩
            rcases List.mem_cons.1 hs with rfl | hs
            · exact hlt
            · exact Variable.lt_trans hlt (hhead s hs)
        · rename_i hlt
          refine List.pairwise_cons.2 ⟨fun s hs => ?_, ih htail⟩
          rcases fst_mem_insertTerm hs with hs | ⟨u, hu, hs⟩
          · exact hs ▸ Variable.lt_of_not_lt hne hlt
          · exact hs ▸ hhead u hu

theorem nonzero_insertTerm {v : Variable} {c : Fr} {terms : List Term}
    (h : ∀ t ∈ terms, t.2 ≠ 0) : ∀ t ∈ insertTerm v c terms, t.2 ≠ 0 := by
  induction terms with
  | nil =>
      by_cases hc : c = 0 <;> simp [insertTerm, hc]
  | cons t rest ih =>
      have hrest : ∀ s ∈ rest, s.2 ≠ 0 := fun s hs => h s (List.mem_cons_of_mem _ hs)
      have hhead := h t List.mem_cons_self
      rw [insertTerm]
      split
      · split
        · exact hrest
        · rename_i hsum
          exact List.forall_mem_cons.2 ⟨hsum, hrest⟩
      · split
        · split
          · exact h
          · rename_i hc
            exact List.forall_mem_cons.2 ⟨hc, h⟩
        · exact List.forall_mem_cons.2 ⟨hhead, ih hrest⟩

/-! ## The operations -/

def zero : LinearCombination := ⟨[], List.Pairwise.nil, by simp⟩

instance : Inhabited LinearCombination := ⟨zero⟩

/-- The sum with one more term. -/
def addTerm (a : LinearCombination) (v : Variable) (c : Fr) : LinearCombination :=
  ⟨insertTerm v c a.terms, ordered_insertTerm a.ordered, nonzero_insertTerm a.nonzero⟩

def ofTerm (v : Variable) (c : Fr) : LinearCombination := zero.addTerm v c

def ofVariable (v : Variable) : LinearCombination := ofTerm v 1

/-- A constant, as a coefficient of the constant variable. -/
def constant (c : Fr) : LinearCombination := ofTerm Variable.one c

def add (a b : LinearCombination) : LinearCombination :=
  b.terms.foldl (fun sum t => sum.addTerm t.1 t.2) a

def neg (a : LinearCombination) : LinearCombination where
  terms := a.terms.map fun t => (t.1, -t.2)
  ordered := by
    rw [Ordered, List.pairwise_map]
    exact a.ordered
  nonzero := by
    intro t ht
    obtain ⟨s, hs, rfl⟩ := List.mem_map.1 ht
    exact Residue.neg_ne_zero (a.nonzero s hs)

/-- Every coefficient times `c`, without the terms that this makes zero. -/
def scale (a : LinearCombination) (c : Fr) : LinearCombination where
  terms := (a.terms.map fun t => (t.1, t.2 * c)).filter fun t => t.2 ≠ 0
  ordered := by
    refine List.Pairwise.filter _ ?_
    rw [List.pairwise_map]
    exact a.ordered
  nonzero := by
    intro t ht
    exact of_decide_eq_true (List.mem_filter.1 ht).2

instance : Zero LinearCombination := ⟨zero⟩

instance : Add LinearCombination := ⟨add⟩

instance : Neg LinearCombination := ⟨neg⟩

instance : Sub LinearCombination := ⟨fun a b => a + -b⟩

instance : Coe Variable LinearCombination := ⟨ofVariable⟩

/-! ## Two views -/

/-- The coefficient of a variable, zero when it does not occur. -/
def coefficient (a : LinearCombination) (v : Variable) : Fr :=
  ((a.terms.find? fun t => t.1 = v).map Prod.snd).getD 0

/-- The value of the combination when the variables have the given values. -/
def value (a : LinearCombination) (assign : Variable → Fr) : Fr :=
  (a.terms.map fun t => t.2 * assign t.1).sum

end LinearCombination

end PreimageProof
