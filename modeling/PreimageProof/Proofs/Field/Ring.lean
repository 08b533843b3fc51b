import Mathlib
import PreimageProof.Preimage

/-!
# Residues are a commutative ring

The operations on residues are those of the integers modulo `p`: reading a
residue as its class is injective and keeps every operation, so the laws of a
commutative ring carry over. Powers are computed by squaring; that this is
the power of the ring is proved once, for any monoid.
-/

namespace PreimageProof

/-! ## Powers by squaring -/

theorem powerDigits_eq_pow {M : Type} [Monoid M] :
    ∀ {digits n : Nat} (a : M), n < 2 ^ digits → powerDigits digits a n = a ^ n := by
  intro digits
  induction digits with
  | zero =>
      intro n a hn
      have hzero : n = 0 := by simpa using hn
      rw [hzero, powerDigits, pow_zero]
  | succ digits ih =>
      intro n a hn
      have hhalf : n / 2 < 2 ^ digits := by rw [pow_succ] at hn; omega
      have hrest : powerDigits digits (a * a) (n / 2) = a ^ (2 * (n / 2)) := by
        rw [ih (a * a) hhalf, ← sq, ← pow_mul]
      rw [powerDigits, hrest]
      split
      · next hodd =>
          rw [← pow_succ']
          congr 1
          omega
      · next heven =>
          congr 1
          omega

theorem power_eq_pow {M : Type} [Monoid M] (a : M) (n : Nat) : power a n = a ^ n := by
  unfold power
  split
  · next hzero => rw [hzero, pow_zero]
  · next hpos => exact powerDigits_eq_pow a Nat.lt_log2_self

/-- A map that keeps one and products keeps powers. -/
theorem map_powerDigits {α β : Type} [One α] [Mul α] [One β] [Mul β] {f : α → β}
    (hone : f 1 = 1) (hmul : ∀ a b, f (a * b) = f a * f b) (digits : Nat) (a : α) (n : Nat) :
    f (powerDigits digits a n) = powerDigits digits (f a) n := by
  induction digits generalizing a n with
  | zero => exact hone
  | succ digits ih =>
      simp only [powerDigits]
      split
      · rw [hmul, ih, hmul]
      · rw [ih, hmul]

theorem map_power {α β : Type} [One α] [Mul α] [One β] [Mul β] {f : α → β}
    (hone : f 1 = 1) (hmul : ∀ a b, f (a * b) = f a * f b) (a : α) (n : Nat) :
    f (power a n) = power (f a) n := by
  unfold power
  split
  · exact hone
  · exact map_powerDigits hone hmul _ a n

/-! ## The classes modulo `p` -/

namespace Residue

variable {p : Nat}

/-- The class that a residue represents. -/
def toZMod (a : Residue p) : ZMod p := (a.val : ZMod p)

theorem toZMod_injective : Function.Injective (toZMod : Residue p → ZMod p) := by
  intro a b hab
  have hmod := (ZMod.natCast_eq_natCast_iff' a.val b.val p).1 hab
  rw [Nat.mod_eq_of_lt a.val_lt, Nat.mod_eq_of_lt b.val_lt] at hmod
  exact Residue.ext hmod

theorem toZMod_add (a b : Residue p) : (a + b).toZMod = a.toZMod + b.toZMod := by
  simp [toZMod]

theorem natCast_complement (a : Residue p) : ((p - a.val : Nat) : ZMod p) = -a.toZMod := by
  rw [Nat.cast_sub a.val_lt.le, ZMod.natCast_self, zero_sub, toZMod]

theorem toZMod_neg (a : Residue p) : (-a).toZMod = -a.toZMod := by
  rw [toZMod, val_neg, ZMod.natCast_mod, natCast_complement]

theorem toZMod_sub (a b : Residue p) : (a - b).toZMod = a.toZMod - b.toZMod := by
  rw [toZMod, val_sub, ZMod.natCast_mod, Nat.cast_add, natCast_complement, sub_eq_add_neg]
  rfl

variable [Modulus p]

local instance : NeZero p := ⟨Modulus.pos.ne'⟩

theorem toZMod_zero : (0 : Residue p).toZMod = 0 := by
  simp [toZMod]

theorem toZMod_natCast (n : Nat) : ((n : Nat) : Residue p).toZMod = n := by
  simp [toZMod]

theorem toZMod_one : (1 : Residue p).toZMod = 1 := by
  simp [toZMod]

theorem toZMod_mul (a b : Residue p) : (a * b).toZMod = a.toZMod * b.toZMod := by
  simp [toZMod]

instance : Pow (Residue p) Nat := ⟨power⟩

instance : SMul Nat (Residue p) := ⟨fun n a => (n : Residue p) * a⟩

instance : IntCast (Residue p) := ⟨fun n => ⟨(n : ZMod p).val, ZMod.val_lt _⟩⟩

instance : SMul Int (Residue p) := ⟨fun n a => (n : Residue p) * a⟩

theorem toZMod_pow (a : Residue p) (n : Nat) : (a ^ n).toZMod = a.toZMod ^ n :=
  (map_power toZMod_one toZMod_mul a n).trans (power_eq_pow _ n)

theorem toZMod_intCast (n : Int) : ((n : Int) : Residue p).toZMod = n :=
  ZMod.natCast_zmod_val (n : ZMod p)

instance : CommRing (Residue p) :=
  toZMod_injective.commRing toZMod toZMod_zero toZMod_one toZMod_add toZMod_mul toZMod_neg
    toZMod_sub (fun n a => (toZMod_mul _ a).trans (by rw [toZMod_natCast, nsmul_eq_mul]))
    (fun n a => (toZMod_mul _ a).trans (by rw [toZMod_intCast, zsmul_eq_mul])) toZMod_pow
    toZMod_natCast toZMod_intCast

end Residue

end PreimageProof
