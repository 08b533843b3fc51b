import PreimageProof.Field.Bn254

/-!
# Random scalars

Setup and proving are functions of the scalars they use; this file says where
scalars come from. A source is anything that yields a scalar and the source
that remains. Two are defined: a list that is read in circles, and the
generator SplitMix64, whose words are put together and rejected until they
make a number below the modulus. That number stands for its quotient by
`2 ^ 256`, the form in which words are used for arithmetic.
-/

namespace PreimageProof

/-- A supply of scalars. -/
class ScalarSource (σ : Type) where
  next : σ → Fr × σ

/-- Scalars given in advance: those still to come, and all of them. -/
structure ScalarCycle where
  rest : List Fr
  all : List Fr

namespace ScalarCycle

def ofList (scalars : List Fr) : ScalarCycle := ⟨scalars, scalars⟩

/-- The next scalar; after the last comes the first again. -/
def next (s : ScalarCycle) : Fr × ScalarCycle :=
  match s.rest, s.all with
  | x :: rest, all => (x, ⟨rest, all⟩)
  | [], x :: rest => (x, ⟨rest, x :: rest⟩)
  | [], [] => (0, s)

instance : ScalarSource ScalarCycle := ⟨next⟩

end ScalarCycle

/-- The generator SplitMix64, by its state. -/
structure SplitMix where
  state : UInt64

namespace SplitMix

/-- The next word: the state advances by a constant and is mixed. -/
def word (s : SplitMix) : UInt64 × SplitMix :=
  let state := s.state + 0x9E3779B97F4A7C15
  let z := (state ^^^ (state >>> 30)) * 0xBF58476D1CE4E5B9
  let z := (z ^^^ (z >>> 27)) * 0x94D049BB133111EB
  (z ^^^ (z >>> 31), ⟨state⟩)

/-- A number of as many words as asked for, the lowest first. -/
def words : (count : Nat) → SplitMix → Nat × SplitMix
  | 0, s => (0, s)
  | count + 1, s =>
      let (low, s) := s.word
      let (high, s) := words count s
      (low.toNat + (high <<< 64), s)

/-- A number of 254 binary digits: four words without the two highest digits. -/
def number (s : SplitMix) : Nat × SplitMix :=
  let (n, s) := words 4 s
  (n % (1 <<< scalarDigits), s)

/-- The first of at most `attempts` numbers that is below the modulus. -/
def firstBelow : (attempts : Nat) → SplitMix → Nat × SplitMix
  | 0, s => (0, s)
  | attempts + 1, s =>
      let (n, s) := s.number
      if n < scalarModulus then (n, s) else firstBelow attempts s

/-- The factor by which a number in the form used for arithmetic is too large. -/
def formFactor : Fr := ((1 <<< 256 : Nat) : Fr)⁻¹

/-- The next scalar. After `2 ^ 64` words the generator repeats itself, so
more attempts than that would find nothing new. -/
def next (s : SplitMix) : Fr × SplitMix :=
  let (n, s) := firstBelow (1 <<< 64) s
  ((n : Fr) * formFactor, s)

instance : ScalarSource SplitMix := ⟨next⟩

end SplitMix

end PreimageProof
