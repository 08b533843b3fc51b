import PreimageProof.Field.Power

/-!
# Residues modulo a number

`Residue p` is the ring of integers modulo `p`, each class kept as its least
non-negative representative, so equality of residues is equality of numbers
and an encoding of a residue is an encoding of a number below `p`. When `p`
is prime it is a field: the inverse is the power `p - 2`, which sends zero to
zero.
-/

namespace PreimageProof

/-- A number that there are representatives below. -/
class Modulus (p : Nat) : Prop where
  pos : 0 < p

/-- An integer modulo `p`, as its representative below `p`. -/
@[ext] structure Residue (p : Nat) where
  val : Nat
  val_lt : val < p
  deriving DecidableEq

namespace Residue

variable {p : Nat}

/-- The residue with representative `n`, when `n` is one. -/
def ofNat? (p n : Nat) : Option (Residue p) :=
  if h : n < p then some ⟨n, h⟩ else none

/-- A sum of two representatives is below `2 * p`: one subtraction reduces it. -/
def add (a b : Residue p) : Residue p :=
  if h : a.val + b.val < p then ⟨a.val + b.val, h⟩
  else ⟨a.val + b.val - p, by have := a.val_lt; have := b.val_lt; omega⟩

def sub (a b : Residue p) : Residue p :=
  if h : b.val ≤ a.val then ⟨a.val - b.val, by have := a.val_lt; omega⟩
  else ⟨a.val + p - b.val, by have := a.val_lt; omega⟩

def neg (a : Residue p) : Residue p :=
  if h : a.val = 0 then a else ⟨p - a.val, by have := a.val_lt; omega⟩

instance : Add (Residue p) := ⟨add⟩

instance : Sub (Residue p) := ⟨sub⟩

instance : Neg (Residue p) := ⟨neg⟩

@[simp] theorem val_add (a b : Residue p) : (a + b).val = (a.val + b.val) % p := by
  show (add a b).val = _
  unfold add
  split
  · rename_i h
    exact (Nat.mod_eq_of_lt h).symm
  · have := a.val_lt
    have := b.val_lt
    have hlt : a.val + b.val - p < p := by omega
    rw [Nat.mod_eq_sub_mod (by omega), Nat.mod_eq_of_lt hlt]

@[simp] theorem val_neg (a : Residue p) : (-a).val = (p - a.val) % p := by
  show (neg a).val = _
  unfold neg
  have := a.val_lt
  split
  · rename_i h
    simp [h]
  · show p - a.val = _
    exact (Nat.mod_eq_of_lt (by omega)).symm

@[simp] theorem val_sub (a b : Residue p) : (a - b).val = (a.val + (p - b.val)) % p := by
  show (sub a b).val = _
  unfold sub
  have := a.val_lt
  have := b.val_lt
  split
  · have hlt : a.val - b.val < p := by omega
    have heq : a.val + (p - b.val) - p = a.val - b.val := by omega
    show a.val - b.val = _
    rw [Nat.mod_eq_sub_mod (by omega), heq, Nat.mod_eq_of_lt hlt]
  · have heq : a.val + (p - b.val) = a.val + p - b.val := by omega
    show a.val + p - b.val = _
    rw [heq, Nat.mod_eq_of_lt (by omega)]

variable [Modulus p]

/-- The class of `n`. -/
def ofNat (n : Nat) : Residue p :=
  ⟨n % p, Nat.mod_lt n Modulus.pos⟩

instance : NatCast (Residue p) := ⟨ofNat⟩

instance : Zero (Residue p) := ⟨⟨0, Modulus.pos⟩⟩

instance : One (Residue p) := ⟨ofNat 1⟩

instance : Inhabited (Residue p) := ⟨0⟩

def mul (a b : Residue p) : Residue p := ofNat (a.val * b.val)

instance : Mul (Residue p) := ⟨mul⟩

/-- `a * b + c * d`, reduced once. -/
def dot (a b c d : Residue p) : Residue p := ofNat (a.val * b.val + c.val * d.val)

instance : HPow (Residue p) Nat (Residue p) := ⟨power⟩

/-- The inverse modulo a prime, by Fermat's little theorem; zero for zero. -/
instance : Inv (Residue p) := ⟨fun a => power a (p - 2)⟩

@[simp] theorem val_zero : (0 : Residue p).val = 0 := rfl

@[simp] theorem val_natCast (n : Nat) : ((n : Nat) : Residue p).val = n % p := rfl

@[simp] theorem val_one : (1 : Residue p).val = 1 % p := rfl

@[simp] theorem val_mul (a b : Residue p) : (a * b).val = a.val * b.val % p := rfl

theorem dot_eq (a b c d : Residue p) : dot a b c d = a * b + c * d := by
  ext
  simp [dot, ofNat, Nat.add_mod]

theorem ne_zero_iff {a : Residue p} : a ≠ 0 ↔ a.val ≠ 0 := by
  simp [Residue.ext_iff]

theorem neg_ne_zero {a : Residue p} (h : a ≠ 0) : -a ≠ 0 := by
  have ha : a.val ≠ 0 := ne_zero_iff.1 h
  have := a.val_lt
  rw [ne_zero_iff, val_neg, Nat.mod_eq_of_lt (by omega)]
  omega

end Residue

end PreimageProof
