import Mathlib
import PreimageProof.Codec.Artifact

/-!
# Programs that succeeded

A program that returned an answer has passed through all its steps: what is
bound to a name is the answer of the step that was bound, every entry of a
list was treated, and a decoded artifact is what its reader returned.
-/

namespace PreimageProof

theorem of_bind_eq_ok {ε α β : Type} {x : Except ε α} {f : α → Except ε β} {out : β}
    (h : x >>= f = .ok out) : ∃ y, x = .ok y ∧ f y = .ok out := by
  cases x with
  | error e => cases h
  | ok y => exact ⟨y, rfl, h⟩

theorem bind_eq_ok_iff {ε α β : Type} {x : Except ε α} {f : α → Except ε β} {out : β} :
    x >>= f = .ok out ↔ ∃ y, x = .ok y ∧ f y = .ok out := by
  refine ⟨of_bind_eq_ok, ?_⟩
  rintro ⟨y, rfl, h⟩
  exact h

theorem mapError_eq_ok_iff {ε ε' α : Type} {x : Except ε α} {f : ε → ε'} {a : α} :
    x.mapError f = .ok a ↔ x = .ok a := by
  cases x <;> simp [Except.mapError]

/-! ## A pass over a list -/

theorem of_mapM_eq_ok {ε α β : Type} {f : α → Except ε β} {xs : List α} {ys : List β}
    (h : xs.mapM f = .ok ys) :
    ys.length = xs.length ∧
      ∀ {i : Nat} {y : β}, ys[i]? = some y → ∃ x, xs[i]? = some x ∧ f x = .ok y := by
  induction xs generalizing ys with
  | nil =>
      cases h
      simp
  | cons x xs ih =>
      rw [List.mapM_cons] at h
      obtain ⟨y, hx, h⟩ := of_bind_eq_ok h
      obtain ⟨rest, hxs, h⟩ := of_bind_eq_ok h
      cases h
      obtain ⟨hlen, hrest⟩ := ih hxs
      refine ⟨congrArg (· + 1) hlen, fun {i y'} hy => ?_⟩
      cases i with
      | zero =>
          cases hy
          exact ⟨x, rfl, hx⟩
      | succ i => exact hrest hy

theorem eq_map_of_mapM_eq_ok {ε α β : Type} {f : α → Except ε β} {g : α → β}
    (hfg : ∀ {x y}, f x = .ok y → y = g x) {xs : List α} {ys : List β}
    (h : xs.mapM f = .ok ys) : ys = xs.map g := by
  obtain ⟨hlen, hentries⟩ := of_mapM_eq_ok h
  refine List.ext_getElem (by rw [hlen, List.length_map]) fun i hi hi' => ?_
  obtain ⟨x, hx, hy⟩ := hentries (List.getElem?_eq_getElem hi)
  obtain ⟨hx', rfl⟩ := List.getElem?_eq_some_iff.1 hx
  rw [List.getElem_map]
  exact hfg hy

theorem of_mem_of_mapM_eq_ok {ε α β : Type} {f : α → Except ε β} {xs : List α} {ys : List β}
    (h : xs.mapM f = .ok ys) {x : α} (hx : x ∈ xs) : ∃ y, f x = .ok y := by
  obtain ⟨hlen, hentries⟩ := of_mapM_eq_ok h
  obtain ⟨i, hi, rfl⟩ := List.mem_iff_getElem.1 hx
  obtain ⟨x, hx, hok⟩ := hentries (List.getElem?_eq_getElem (hlen ▸ hi))
  rw [List.getElem?_eq_getElem hi, Option.some.injEq] at hx
  exact ⟨_, hx ▸ hok⟩

theorem mapM_eq_ok {ε α β : Type} {f : α → Except ε β} {g : α → β} {xs : List α}
    (h : ∀ x ∈ xs, f x = .ok (g x)) : xs.mapM f = .ok (xs.map g) := by
  induction xs with
  | nil => rfl
  | cons x xs ih =>
      rw [List.forall_mem_cons] at h
      rw [List.mapM_cons, h.1, ih h.2]
      rfl

/-- A pass succeeds with what it gives entry by entry. -/
theorem mapM_eq_ok_iff {ε α β : Type} {f : α → Except ε β} {xs : List α} {ys : List β} :
    xs.mapM f = .ok ys ↔ List.Forall₂ (fun x y => f x = .ok y) xs ys := by
  constructor
  · intro h
    obtain ⟨hlen, hentries⟩ := of_mapM_eq_ok h
    refine List.forall₂_iff_get.2 ⟨hlen.symm, fun i hi hi' => ?_⟩
    obtain ⟨x, hx, hy⟩ := hentries (List.getElem?_eq_getElem hi')
    rw [List.getElem?_eq_getElem hi, Option.some.injEq] at hx
    rw [← hx] at hy
    exact hy
  · intro h
    induction h with
    | nil => rfl
    | cons hx _ ih =>
        rw [List.mapM_cons, hx, ih]
        rfl

theorem vector_mapM_eq_ok_iff {ε α β : Type} {f : α → Except ε β} {n : Nat} {v : Vector α n}
    {w : Vector β n} :
    v.mapM f = .ok w ↔ List.Forall₂ (fun x y => f x = .ok y) v.toList w.toList := by
  have hlist : Vector.toList <$> v.mapM f = v.toList.mapM f := by
    rw [← Vector.toList_toArray, ← Array.toList_mapM, ← Vector.toArray_mapM, Functor.map_map]
    rfl
  rw [← mapM_eq_ok_iff, ← hlist]
  cases v.mapM f with
  | error e => exact iff_of_false (by simp) (fun h => by cases h)
  | ok w' =>
      refine ⟨fun h => congrArg (Except.map Vector.toList) h, fun h => ?_⟩
      exact congrArg Except.ok (Vector.toList_inj.1 (Except.ok.inj h))

theorem exists_mapM_eq_ok {ε α β : Type} {f : α → Except ε β} {xs : List α}
    (h : ∀ x ∈ xs, ∃ y, f x = .ok y) : ∃ ys, xs.mapM f = .ok ys := by
  induction xs with
  | nil => exact ⟨[], rfl⟩
  | cons x xs ih =>
      rw [List.forall_mem_cons] at h
      obtain ⟨y, hy⟩ := h.1
      obtain ⟨ys, hys⟩ := ih h.2
      refine ⟨y :: ys, ?_⟩
      rw [List.mapM_cons, hy, hys]
      rfl

section

variable {m : Type → Type} [Monad m] [LawfulMonad m] {α β : Type} {f : β → m α} {g : α → β}

/-- Reading every entry of what was written entry by entry. -/
theorem mapM_map_of_inverse (h : ∀ a, f (g a) = pure a) (xs : List α) :
    (xs.map g).mapM f = pure xs := by
  rw [List.mapM_map, show f ∘ g = fun a => pure (id a) from funext h, List.mapM_pure, List.map_id]

theorem vector_mapM_map_of_inverse (h : ∀ a, f (g a) = pure a) {n : Nat} (v : Vector α n) :
    (v.map g).mapM f = pure v := by
  rw [Vector.mapM_map, show f ∘ g = fun a => pure (id a) from funext h, Vector.mapM_pure,
    Vector.map_id]

end

/-! ## Readers -/

theorem Read.of_bind_run_eq_ok {α β : Type} {read : Read α} {next : α → Read β} {x : Input}
    {out : β × Input} (h : (read >>= next).run x = .ok out) :
    ∃ mid, read.run x = .ok mid ∧ (next mid.1).run mid.2 = .ok out := by
  rw [StateT.run_bind] at h
  exact of_bind_eq_ok h

/-- What a decoded artifact is, its reader has returned. -/
theorem read_of_decode {α : Type} [Artifact α] {bytes : Bytes} {x : α}
    (h : Artifact.decode bytes = .ok x) :
    ∃ before after, (Artifact.read : Read α).run before = .ok (x, after) := by
  rw [Artifact.decode, Read.onBytes] at h
  obtain ⟨out, hout, h⟩ := of_bind_eq_ok h
  cases h
  obtain ⟨mid, htagged, hfinish⟩ := Read.of_bind_run_eq_ok hout
  obtain ⟨rest, -, hreturn⟩ := Read.of_bind_run_eq_ok hfinish
  cases hreturn
  obtain ⟨found, -, htagged⟩ := Read.of_bind_run_eq_ok htagged
  by_cases htag : found.1 = Artifact.tag α
  · simp only [htag, ne_eq, not_true_eq_false, if_false] at htagged
    obtain ⟨version, -, htagged⟩ := Read.of_bind_run_eq_ok htagged
    by_cases hversion : version.1 = [Artifact.formatVersion]
    · simp only [hversion, not_true_eq_false, if_false] at htagged
      exact ⟨_, _, htagged⟩
    · simp only [hversion, not_false_eq_true, if_true] at htagged
      cases htagged
  · simp only [htag, ne_eq, not_false_eq_true, if_true] at htagged
    cases htagged

end PreimageProof
