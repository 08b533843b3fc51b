import Mathlib
import PreimageProof.Proofs.Field.Ring

/-!
# The order of the groups is prime

Inverses, roots of unity and degree arguments all rest on the scalars being a
field. The proof that `scalarModulus` is prime is Lucas's test: some number
has order exactly `p - 1` modulo `p`, which its powers at `p - 1` and at
`(p - 1) / q`, for the primes `q` of the factorization, decide. The primes of
the factorization are proved in the same way, down to those that trial
division reaches.

The same powers say that 5 is not a square, so that its power
`(scalarModulus - 1) / 2` is `-1`: this is what makes the generator of an
evaluation domain have the order of the domain.
-/

namespace PreimageProof

/-! ## Lucas's test -/

/-- `a ^ n` modulo `p` for an exponent of at most `digits` binary digits, the
most significant one first, in a form the kernel evaluates at once. -/
def powMod (p a : Nat) : (digits : Nat) → (n : Nat) → Nat
  | 0, _ => 1 % p
  | digits + 1, n =>
      let half := powMod p a digits (n / 2)
      if n % 2 = 1 then half * half % p * a % p else half * half % p

theorem powMod_eq {p a : Nat} : ∀ {digits n : Nat}, n < 2 ^ digits →
    powMod p a digits n = a ^ n % p := by
  intro digits
  induction digits with
  | zero =>
      intro n hn
      have hzero : n = 0 := by simpa using hn
      rw [powMod, hzero, pow_zero]
  | succ digits ih =>
      intro n hn
      have hhalf : n / 2 < 2 ^ digits := by rw [pow_succ] at hn; omega
      have hsquare : (a ^ (n / 2) % p) * (a ^ (n / 2) % p) % p = a ^ (2 * (n / 2)) % p := by
        rw [← Nat.mul_mod, ← pow_add, two_mul]
      simp only [powMod, ih hhalf, hsquare]
      split
      · next hodd =>
          rw [Nat.mod_mul_mod, ← pow_succ]
          congr 2
          omega
      · next heven =>
          congr 2
          omega

/-- Modulo `p`, the power `p - 1` of `a` is one and no power `(p - 1) / q` is,
for the `q` of a factorization of `p - 1`. -/
def LucasTest (p digits a : Nat) (factors : List Nat) : Prop :=
  1 < p ∧ p < 2 ^ digits ∧ factors.prod = p - 1 ∧ powMod p a digits (p - 1) = 1 ∧
    ∀ q ∈ factors, powMod p a digits ((p - 1) / q) ≠ 1

instance {p digits a : Nat} {factors : List Nat} : Decidable (LucasTest p digits a factors) :=
  inferInstanceAs (Decidable (_ ∧ _))

theorem mem_of_prime_dvd_prod {factors : List Nat} (hprime : ∀ q ∈ factors, q.Prime) {q : Nat}
    (hq : q.Prime) (hdvd : q ∣ factors.prod) : q ∈ factors := by
  obtain ⟨f, hf, hqf⟩ := (Prime.dvd_prod_iff hq.prime).1 hdvd
  rwa [(Nat.prime_dvd_prime_iff_eq hq (hprime f hf)).1 hqf]

theorem prime_of_lucasTest {p : Nat} (digits a : Nat) (factors : List Nat)
    (htest : LucasTest p digits a factors) (hprime : ∀ q ∈ factors, q.Prime) : p.Prime := by
  obtain ⟨hp, hdigits, hprod, hone, hne⟩ := htest
  have hpow : ∀ n, n ≤ p - 1 → ((a : ZMod p) ^ n = 1 ↔ powMod p a digits n = 1) := by
    intro n hn
    rw [powMod_eq (by omega), ← Nat.cast_pow, ← Nat.cast_one, ZMod.natCast_eq_natCast_iff',
      Nat.mod_eq_of_lt hp]
  refine lucas_primality p a ((hpow _ le_rfl).2 hone) ?_
  intro q hq hdvd heq
  have hmem : q ∈ factors := mem_of_prime_dvd_prod hprime hq (hprod ▸ hdvd)
  exact hne q hmem ((hpow _ (Nat.div_le_self _ _)).1 heq)

/-! ## The scalar field

In each list the primes that were proved before stand first; the others are
small. -/

theorem prime_5156902474397 : Nat.Prime 5156902474397 := by
  have h12048837557 : Nat.Prime 12048837557 :=
    prime_of_lucasTest 34 2 [2, 2, 7, 7, 661, 93001] (by decide +kernel) (by norm_num)
  exact prime_of_lucasTest 43 2 [12048837557, 2, 2, 107] (by decide +kernel)
    (List.forall_mem_cons.2 ⟨h12048837557, by norm_num⟩)

theorem prime_1670836401704629 : Nat.Prime 1670836401704629 :=
  prime_of_lucasTest 51 2 [5156902474397, 2, 2, 3, 3, 3, 3] (by decide +kernel)
    (List.forall_mem_cons.2 ⟨prime_5156902474397, by norm_num⟩)

theorem prime_13818364434197438864469338081 : Nat.Prime 13818364434197438864469338081 := by
  have h639533339 : Nat.Prime 639533339 :=
    prime_of_lucasTest 30 2 [2, 229, 853, 1637] (by decide +kernel) (by norm_num)
  have h65865678001877903 : Nat.Prime 65865678001877903 :=
    prime_of_lucasTest 56 5 [639533339, 2, 83, 379, 1637] (by decide +kernel)
      (List.forall_mem_cons.2 ⟨h639533339, by norm_num⟩)
  exact prime_of_lucasTest 94 3 [65865678001877903, 2, 2, 2, 2, 2, 5, 823, 1593227]
    (by decide +kernel) (List.forall_mem_cons.2 ⟨h65865678001877903, by norm_num⟩)

theorem scalarModulus_prime : scalarModulus.Prime := by
  have h405928799 : Nat.Prime 405928799 :=
    prime_of_lucasTest 29 22 [2, 11, 3691, 4999] (by decide +kernel) (by norm_num)
  refine prime_of_lucasTest scalarDigits 5 ([13818364434197438864469338081, 1670836401704629,
    405928799, 3, 3, 13, 29, 983, 11003, 237073] ++ List.replicate 28 2) (by decide +kernel) ?_
  intro q hq
  rcases List.mem_append.1 hq with hq | hq
  · refine List.forall_mem_cons.2 ⟨prime_13818364434197438864469338081, ?_⟩ q hq
    refine List.forall_mem_cons.2 ⟨prime_1670836401704629, ?_⟩
    exact List.forall_mem_cons.2 ⟨h405928799, by norm_num⟩
  · rw [List.eq_of_mem_replicate hq]
    exact Nat.prime_two

instance : Fact scalarModulus.Prime := ⟨scalarModulus_prime⟩

namespace Residue

variable {p : Nat} [Modulus p]

theorem pow_sub_one (hp : p.Prime) {a : Residue p} (ha : a ≠ 0) : a ^ (p - 1) = 1 := by
  have : Fact p.Prime := ⟨hp⟩
  have hne : a.toZMod ≠ 0 := fun h => ha (toZMod_injective (h.trans toZMod_zero.symm))
  apply toZMod_injective
  rw [toZMod_pow, toZMod_one]
  exact ZMod.pow_card_sub_one_eq_one hne

/-- Modulo an odd prime the inverse that the library computes is the inverse. -/
abbrev fieldOfPrime (hp : p.Prime) (hodd : 2 < p) : Field (Residue p) where
  exists_pair_ne := ⟨0, 1, fun h => absurd (congrArg toZMod h) (by
    have : Fact p.Prime := ⟨hp⟩
    rw [toZMod_zero, toZMod_one]
    exact zero_ne_one)⟩
  mul_inv_cancel a ha := by
    show a * a ^ (p - 2) = 1
    rw [← pow_succ', show p - 2 + 1 = p - 1 by omega, pow_sub_one hp ha]
  inv_zero := zero_pow (show p - 2 ≠ 0 by omega)
  nnqsmul := _
  nnqsmul_def := fun _ _ => rfl
  qsmul := _
  qsmul_def := fun _ _ => rfl

theorem val_pow (a : Residue p) (n : Nat) : (a ^ n).val = a.val ^ n % p := by
  induction n with
  | zero => rw [pow_zero, pow_zero, val_one]
  | succ n ih => rw [pow_succ, pow_succ, val_mul, ih, Nat.mod_mul_mod]

instance : Fintype (Residue p) := Fintype.ofEquiv (Fin p)
  ⟨fun i => ⟨i, i.isLt⟩, fun a => ⟨a.val, a.val_lt⟩, fun _ => rfl, fun _ => rfl⟩

omit [Modulus p] in
theorem card_eq : Fintype.card (Residue p) = p :=
  (Fintype.ofEquiv_card _).trans (Fintype.card_fin p)

end Residue

namespace Fr

instance : Field Fr := Residue.fieldOfPrime scalarModulus_prime (by decide)

theorem val_generator_pow {n : Nat} (h : n < 2 ^ scalarDigits) :
    (generator ^ n).val = powMod scalarModulus 5 scalarDigits n := by
  rw [Residue.val_pow, powMod_eq h]
  rfl

/-- 5 is not a square. -/
theorem generator_pow_half : generator ^ ((scalarModulus - 1) / 2) = -1 := by
  apply Residue.ext
  rw [val_generator_pow (by decide)]
  decide +kernel

/-- 5 is not a cube. -/
theorem generator_pow_third_ne_one : generator ^ ((scalarModulus - 1) / 3) ≠ 1 := by
  intro hone
  have hval := congrArg Residue.val hone
  rw [val_generator_pow (by decide)] at hval
  revert hval
  decide +kernel

theorem generator_ne_zero : generator ≠ 0 := by
  decide

end Fr

end PreimageProof
