/-!
# Sets of code points as spans

A property of characters is kept as the increasing list of the points where
it changes, beginning outside: `[a, b, c, d]` is the set of the `n` with
`a ≤ n < b` or `c ≤ n < d`.
-/

namespace PreimageProof

namespace Text

/-- Membership of `n`: whether an odd number of ends is at or below it. -/
def isWithin (ends : List Nat) (n : Nat) : Bool :=
  match ends with
  | [] => false
  | [a] => a ≤ n
  | a :: b :: rest => if n < a then false else if n < b then true else isWithin rest n

end Text

end PreimageProof
