import Mathlib
import PreimageProof.Mimc.Cipher
import PreimageProof.Proofs.Field.Prime

/-!
# The cipher is a permutation

The multiplicative group has `scalarModulus - 1` elements, a number that 5
does not divide. So the fifth power has an inverse, which is a power as well,
and a round can be undone. Encryption is undone round by round, the last one
first, for every key and every table of constants.
-/

namespace PreimageProof

/-! ## Fifth roots -/

namespace Fr

/-- Five times this number is 1 more than a multiple of the order of the
multiplicative group. -/
def fifthRootExponent : Nat := (4 * (scalarModulus - 1) + 1) / 5

theorem five_mul_fifthRootExponent : 5 * fifthRootExponent = (scalarModulus - 1) * 4 + 1 := by
  decide

/-- The number whose fifth power is the given one. -/
def fifthRoot (a : Fr) : Fr := a ^ fifthRootExponent

theorem pow_five_mul_fifthRootExponent (a : Fr) : a ^ (5 * fifthRootExponent) = a := by
  rw [five_mul_fifthRootExponent, pow_succ, pow_mul]
  by_cases ha : a = 0
  · rw [ha, mul_zero]
  · rw [Residue.pow_sub_one scalarModulus_prime ha, one_pow, one_mul]

theorem fifthRoot_pow (a : Fr) : fifthRoot (a ^ 5) = a := by
  show (a ^ 5) ^ fifthRootExponent = a
  rw [← pow_mul, pow_five_mul_fifthRootExponent]

theorem pow_fifthRoot (a : Fr) : fifthRoot a ^ 5 = a := by
  show (a ^ fifthRootExponent) ^ 5 = a
  rw [← pow_mul, mul_comm, pow_five_mul_fifthRootExponent]

theorem pow_five_injective : Function.Injective fun a : Fr => a ^ 5 :=
  Function.LeftInverse.injective fifthRoot_pow

end Fr

namespace Mimc

/-! ## Rounds -/

theorem round_eq_pow (key x c : Fr) : round key x c = (x + key + c) ^ 5 := by
  simp only [round]
  ring

/-- What went into a round, from what came out. -/
def unround (key y c : Fr) : Fr := Fr.fifthRoot y - c - key

theorem unround_round (key x c : Fr) : unround key (round key x c) c = x := by
  rw [unround, round_eq_pow, Fr.fifthRoot_pow]
  ring

theorem round_unround (key y c : Fr) : round key (unround key y c) c = y := by
  rw [round_eq_pow, unround, sub_add_cancel, sub_add_cancel, Fr.pow_fifthRoot]

/-! ## All rounds of a block -/

/-- The message that was encrypted; the last round is undone first. -/
def decrypt (m : Mimc) (cipher key : Fr) : Fr :=
  m.constants.foldr (fun c y => unround key y c) (cipher - key)

theorem foldr_unround_foldl_round (key : Fr) (constants : List Fr) (x : Fr) :
    constants.foldr (fun c y => unround key y c) (constants.foldl (round key) x) = x := by
  induction constants generalizing x with
  | nil => rfl
  | cons c constants ih => rw [List.foldr_cons, List.foldl_cons, ih, unround_round]

theorem foldl_round_foldr_unround (key : Fr) (constants : List Fr) (y : Fr) :
    constants.foldl (round key) (constants.foldr (fun c y => unround key y c) y) = y := by
  induction constants with
  | nil => rfl
  | cons c constants ih => rw [List.foldr_cons, List.foldl_cons, round_unround, ih]

theorem decrypt_encrypt (m : Mimc) (message key : Fr) :
    m.decrypt (m.encrypt message key) key = message := by
  rw [decrypt, encrypt, add_sub_cancel_right, foldr_unround_foldl_round]

theorem encrypt_decrypt (m : Mimc) (cipher key : Fr) :
    m.encrypt (m.decrypt cipher key) key = cipher := by
  rw [decrypt, encrypt, foldl_round_foldr_unround, sub_add_cancel]

/-- Under every key, each element of the field is the encryption of exactly one
message. -/
theorem encrypt_bijective (m : Mimc) (key : Fr) :
    Function.Bijective fun message => m.encrypt message key :=
  Function.bijective_iff_has_inverse.2
    ⟨fun cipher => m.decrypt cipher key, fun message => m.decrypt_encrypt message key,
      fun cipher => m.encrypt_decrypt cipher key⟩

end Mimc

end PreimageProof
