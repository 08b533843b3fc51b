import Mathlib
import PreimageProof.Proofs.Field.Prime

/-!
# Inner products

Keys, witnesses and columns meet as lists, entry by entry, as far as both
reach: a linear combination of key elements weighted by a witness is an inner
product in the exponent, and so is a column polynomial evaluated through the
Lagrange basis. The laws below are what the proofs about keys and polynomials
use of it; none of them unfolds the lists again.
-/

namespace PreimageProof

/-- `Σ xᵢ * yᵢ`, as far as both lists reach. -/
def inner (xs ys : List Fr) : Fr := (List.zipWith (· * ·) xs ys).sum

@[simp] theorem inner_nil_left (ys : List Fr) : inner [] ys = 0 := rfl

@[simp] theorem inner_nil_right (xs : List Fr) : inner xs [] = 0 := by
  cases xs <;> rfl

@[simp] theorem inner_cons_cons (x y : Fr) (xs ys : List Fr) :
    inner (x :: xs) (y :: ys) = x * y + inner xs ys := by
  simp [inner]

theorem inner_comm (xs ys : List Fr) : inner xs ys = inner ys xs := by
  induction xs generalizing ys with
  | nil => simp
  | cons x xs ih =>
      cases ys with
      | nil => simp
      | cons y ys => rw [inner_cons_cons, inner_cons_cons, ih, mul_comm]

theorem inner_map_mul (xs ys : List Fr) (c : Fr) :
    inner xs (ys.map (· * c)) = inner xs ys * c := by
  induction xs generalizing ys with
  | nil => simp
  | cons x xs ih =>
      cases ys with
      | nil => simp
      | cons y ys =>
          rw [List.map_cons, inner_cons_cons, inner_cons_cons, ih]
          ring

theorem inner_take_add_drop (n : Nat) (xs ys : List Fr) :
    inner (xs.take n) (ys.take n) + inner (xs.drop n) (ys.drop n) = inner xs ys := by
  induction n generalizing xs ys with
  | zero => simp
  | succ n ih =>
      cases xs with
      | nil => simp
      | cons x xs =>
          cases ys with
          | nil => simp
          | cons y ys =>
              simp only [List.take_succ_cons, List.drop_succ_cons, inner_cons_cons]
              rw [add_assoc, ih]

/-- Entries of one list beyond the length of the other do not count. -/
theorem inner_take_left (xs ys : List Fr) {n : Nat} (h : ys.length ≤ n) :
    inner (xs.take n) ys = inner xs ys := by
  have hdrop : ys.drop n = [] := List.drop_eq_nil_of_le h
  have hsplit := inner_take_add_drop n xs ys
  rwa [hdrop, inner_nil_right, add_zero, List.take_of_length_le h] at hsplit

theorem inner_append_zeros (xs ys : List Fr) (n : Nat) :
    inner xs (ys ++ List.replicate n 0) = inner xs ys := by
  induction xs generalizing ys n with
  | nil => simp
  | cons x xs ih =>
      cases ys with
      | cons y ys => rw [List.cons_append, inner_cons_cons, inner_cons_cons, ih]
      | nil =>
          cases n with
          | zero => simp
          | succ n =>
              have hrest := ih [] n
              rw [List.nil_append, inner_nil_right] at hrest
              rw [List.nil_append, List.replicate_succ, inner_cons_cons, hrest]
              simp

/-- The sum over the places of the second list. -/
theorem inner_eq_sum (xs ys : List Fr) :
    inner xs ys = ∑ i ∈ Finset.range ys.length, xs.getD i 0 * ys.getD i 0 := by
  induction ys generalizing xs with
  | nil => simp
  | cons y ys ih =>
      cases xs with
      | nil => simp
      | cons x xs =>
          rw [inner_cons_cons, ih, List.length_cons, Finset.sum_range_succ']
          simp only [List.getD_cons_succ, List.getD_cons_zero]
          ring

/-- Adding to one entry, which may lie beyond the end of both lists. -/
theorem inner_modify (xs ys : List Fr) (h : xs.length ≤ ys.length) (i : Nat) (c : Fr) :
    inner xs (ys.modify i (· + c)) = inner xs ys + xs.getD i 0 * c := by
  induction xs generalizing ys i with
  | nil => simp
  | cons x xs ih =>
      cases ys with
      | nil => simp at h
      | cons y ys =>
          cases i with
          | zero =>
              simp only [List.modify_zero_cons, inner_cons_cons, List.getD_cons_zero]
              ring
          | succ i =>
              have hlen : xs.length ≤ ys.length := by simpa using h
              simp only [List.modify_succ_cons, inner_cons_cons, List.getD_cons_succ, ih ys hlen]
              ring

end PreimageProof
