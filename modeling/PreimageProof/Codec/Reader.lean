import PreimageProof.Error

/-!
# Reading bytes

A reader takes what it needs from the front of its input and leaves the rest.
The input carries its size, so that asking for more than there is costs
nothing, and so that a length prefix is compared with what is left before
anything is read for it.
-/

namespace PreimageProof

/-- The bytes still to be read, with their number. -/
structure Input where
  bytes : Bytes
  size : Nat
  size_eq : size = bytes.length

def Input.ofBytes (bytes : Bytes) : Input := ⟨bytes, bytes.length, rfl⟩

abbrev Read : Type → Type := StateT Input (Except CodecError)

namespace Read

/-- The next `n` bytes. -/
def take (n : Nat) : Read Bytes := do
  let input ← get
  if input.size < n then throw (.truncated n input.size)
  set (⟨input.bytes.drop n, input.size - n, by simp [input.size_eq]⟩ : Input)
  return input.bytes.take n

/-- Nothing may be left. -/
def finish : Read Unit := do
  let input ← get
  if input.size ≠ 0 then throw (.trailingBytes input.size)

/-- The largest count that eight bytes can hold. -/
def maxCount : Nat := (1 <<< 64) - 1

/-- A count: eight bytes, lowest first. -/
def count : Read Nat := do
  return Bytes.ofLittleEndian (← take 8)

/-- The bytes that `n` entries of a width need, as far as a count can say. -/
def needed (n width : Nat) : Nat := if n * width ≤ maxCount then n * width else maxCount

/-- At least as many bytes are left as `n` entries of a width need. -/
def ensure (n width : Nat) : Read Unit := do
  let input ← get
  if input.size < needed n width then throw (.truncated (needed n width) input.size)

/-- Read `n` things, one after the other. -/
def many {α : Type} (read : Read α) : (n : Nat) → Read (List α)
  | 0 => return []
  | n + 1 => do
      let x ← read
      return x :: (← many read n)

/-- A count and as many things of at least the given width. -/
def counted {α : Type} (width : Nat) (read : Read α) : Read (List α) := do
  let n ← count
  ensure n width
  many read n

/-- The answer of a reader on a whole input. -/
def onBytes {α : Type} (read : Read α) (bytes : Bytes) : Except CodecError α :=
  (·.1) <$> StateT.run read (Input.ofBytes bytes)

end Read

end PreimageProof
