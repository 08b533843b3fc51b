import PreimageProof.Bytes

/-!
# Keccak-256

The sponge over the 1600-bit permutation with 1088 bits absorbed at a time
and the padding byte `0x01` of the first submission, as the contracts of the
chain use it; the later standard pads with `0x06` and digests differently.

The state is 25 lanes of 64 bits, lane `x + 5 * y` at column `x` of row `y`.
-/

namespace PreimageProof

namespace Keccak

/-- The lanes, `x + 5 * y` being the place of the one at `(x, y)`. -/
abbrev State : Type := Vector UInt64 25

def roundConstants : List UInt64 :=
  [0x0000000000000001, 0x0000000000008082, 0x800000000000808A, 0x8000000080008000,
    0x000000000000808B, 0x0000000080000001, 0x8000000080008081, 0x8000000000008009,
    0x000000000000008A, 0x0000000000000088, 0x0000000080008009, 0x000000008000000A,
    0x000000008000808B, 0x800000000000008B, 0x8000000000008089, 0x8000000000008003,
    0x8000000000008002, 0x8000000000000080, 0x000000000000800A, 0x800000008000000A,
    0x8000000080008081, 0x8000000000008080, 0x0000000080000001, 0x8000000080008008]

/-- How far each lane is rotated. -/
def rotations : Vector UInt64 25 :=
  #v[0, 1, 62, 28, 27, 36, 44, 6, 55, 20, 3, 10, 43, 25, 39, 41, 45, 15, 21, 8, 18, 2, 61, 56, 14]

def rotateLeft (lane by' : UInt64) : UInt64 := lane <<< by' ||| lane >>> (64 - by')

/-- The place of column `x` of row `y`, the indices counted modulo five. -/
def place (x y : Nat) : Fin 25 := ⟨x % 5 + 5 * (y % 5), by omega⟩

/-- Each lane takes in the parities of two neighbouring columns. -/
def theta (s : State) : State :=
  let parity : Vector UInt64 5 := Vector.ofFn fun x =>
    s[place x 0] ^^^ s[place x 1] ^^^ s[place x 2] ^^^ s[place x 3] ^^^ s[place x 4]
  let column (x : Nat) : UInt64 := parity[(⟨x % 5, by omega⟩ : Fin 5)]
  let mix : Vector UInt64 5 := Vector.ofFn fun x =>
    column (x + 4) ^^^ rotateLeft (column (x + 1)) 1
  Vector.ofFn fun i => s[i] ^^^ mix[(⟨i % 5, by omega⟩ : Fin 5)]

/-- Lanes are rotated, and the lane at `(x, y)` moves to `(y, 2x + 3y)`. -/
def rhoPi (s : State) : State :=
  Vector.ofFn fun i =>
    let source := place (i % 5 + 3 * (i / 5)) (i % 5)
    let by' := rotations[source]
    if by' = 0 then s[source] else rotateLeft s[source] by'

/-- The only nonlinear step, within a row. -/
def chi (s : State) : State :=
  Vector.ofFn fun i =>
    s[i] ^^^ (~~~ s[place (i % 5 + 1) (i / 5)] &&& s[place (i % 5 + 2) (i / 5)])

def round (s : State) (constant : UInt64) : State :=
  let s := chi (rhoPi (theta s))
  s.set 0 (s[0] ^^^ constant)

def permute (s : State) : State := roundConstants.foldl round s

/-- The number of bytes absorbed before each permutation. -/
def rate : Nat := 136

/-- The eight bytes of a lane, lowest first. -/
def lane (bytes : Bytes) : UInt64 :=
  bytes.foldr (fun b acc => acc <<< 8 ||| b.toUInt64) 0

/-- The message with the first and the last bit of its padding, and zeros
between them up to a multiple of the rate. -/
def pad (message : Bytes) : Bytes :=
  let missing := rate - message.length % rate
  if missing = 1 then message ++ [0x81]
  else message ++ [0x01] ++ List.replicate (missing - 2) 0 ++ [0x80]

/-- Cut into pieces of `size`; what is left at the end is a shorter piece. -/
def pieces {α : Type} (size : Nat) : (count : Nat) → List α → List (List α)
  | 0, _ => []
  | count + 1, xs => xs.take size :: pieces size count (xs.drop size)

def absorb (s : State) (block : Bytes) : State :=
  let lanes := ((pieces 8 17 block).map lane).toArray
  permute (Vector.ofFn fun i => s[i] ^^^ lanes.getD i 0)

/-- The 32-byte digest of a message. -/
def digest (message : Bytes) : Bytes :=
  let padded := pad message
  let s := (pieces rate (padded.length / rate) padded).foldl absorb (Vector.replicate 25 0)
  (s.toList.take 4).flatMap fun lane => Bytes.littleEndian 8 lane.toNat

end Keccak

end PreimageProof
