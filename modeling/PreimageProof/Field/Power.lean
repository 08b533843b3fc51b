/-!
# Powers by squaring

Exponents in this library run to several hundred binary digits, so a power is
computed digit by digit. The recursion is on a digit count, which makes it
structural: it terminates by inspection and unfolds inside a proof.
-/

namespace PreimageProof

/-- `a ^ n` for an exponent of at most `digits` binary digits, the least
significant one first: `a ^ n = (a ^ 2) ^ (n / 2) * a ^ (n % 2)`. -/
def powerDigits {α : Type} [One α] [Mul α] : (digits : Nat) → (a : α) → (n : Nat) → α
  | 0, _, _ => 1
  | digits + 1, a, n =>
      let rest := powerDigits digits (a * a) (n / 2)
      if n % 2 = 1 then a * rest else rest

/-- `a ^ n` with one squaring for each binary digit of `n`. -/
@[irreducible] def power {α : Type} [One α] [Mul α] (a : α) (n : Nat) : α :=
  if n = 0 then 1 else powerDigits (n.log2 + 1) a n

end PreimageProof
