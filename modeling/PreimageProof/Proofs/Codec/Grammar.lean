import Mathlib
import PreimageProof.Proofs.Codec.Canonical
import PreimageProof.Proofs.Codec.Faithful

/-!
# Artifacts without points

Witnesses and public inputs hold residues only, and a residue has one spelling.
So their formats are exact: the bytes that are read are the encodings of valid
values and no others, each read as the value it encodes. What a reader of such
bytes may rely on follows from this one equivalence: no two strings mean the
same, and no byte of an encoding can be changed unnoticed.

The residues stand at the end, 32 bytes each, so that the equivalence also says
where in the bytes a number at or above the modulus would have to be, and that
there is none.
-/

namespace PreimageProof

open Artifact (encode decode tag write read)
open Codec (writeCount writeElements writeShape)

/-- The number in 32 bytes of a string, the `k`-th of those that begin at
`start`. -/
def Bytes.residueAt (bytes : Bytes) (start k : Nat) : Nat :=
  ofLittleEndian ((bytes.drop (start + 32 * k)).take 32)

theorem Fr.take_drop_flatMap_toBytes {xs : List Fr} {k : Nat} {a : Fr} (h : xs[k]? = some a) :
    ((xs.flatMap Residue.toBytes).drop (32 * k)).take 32 = a.toBytes := by
  induction xs generalizing k with
  | nil => cases h
  | cons x xs ih =>
      have hx := x.length_toBytes
      cases k with
      | zero =>
          cases h
          exact List.take_left' hx
      | succ k =>
          rw [List.flatMap_cons, show 32 * (k + 1) = x.toBytes.length + 32 * k by omega,
            List.drop_length_add_append]
          exact ih h

/-- A format whose values are exactly spelled, with residues from `start` on. -/
structure Artifact.Exact (α : Type) [Artifact α] (valid : α → Prop) (start : Nat) : Prop where
  decode_eq_ok_iff : ∀ (bytes : Bytes) (x : α),
    decode bytes = .ok x ↔ valid x ∧ bytes = encode x
  eq_of_decode : ∀ (bytes bytes' : Bytes) (x : α),
    decode bytes = .ok x → decode bytes' = .ok x → bytes = bytes'
  encode_of_decode : ∀ (bytes : Bytes) (x : α), decode bytes = .ok x → encode x = bytes
  decode_set_ne : ∀ (x : α) (i : Nat) (b : UInt8), (encode x).set i b ≠ encode x →
    decode ((encode x).set i b) ≠ .ok x
  residueAt_lt : ∀ (bytes : Bytes) (x : α), decode bytes = .ok x →
    ∀ k, start + 32 * (k + 1) ≤ bytes.length → bytes.residueAt start k < scalarModulus

namespace Artifact

variable {α : Type} [Artifact α] {valid counted : α → Prop}

theorem Faithful.decode_eq_ok_iff (h : Faithful α valid counted)
    (htakes : Takes (read : Read α) fun x front => front = write x) (bytes : Bytes) (x : α) :
    decode bytes = .ok x ↔ (valid x ∧ counted x) ∧ bytes = encode x := by
  constructor
  · intro hx
    exact ⟨h.of_decode bytes x hx, (encode_of_decode htakes hx).symm⟩
  · rintro ⟨⟨hvalid, hcounted⟩, rfl⟩
    exact h.decode_encode x hvalid hcounted

/-- Residues that are all there is behind a front of a fixed length. -/
theorem residueAt_encode_lt {x : α} {front : Bytes} {values : List Fr}
    (hx : encode x = front ++ values.flatMap Residue.toBytes) {k : Nat}
    (hk : front.length + 32 * (k + 1) ≤ (encode x).length) :
    (encode x).residueAt front.length k < scalarModulus := by
  have hvalues : (values.flatMap Residue.toBytes).length = 32 * values.length := by
    simp [List.length_flatMap, Nat.mul_comm]
  rw [hx, List.length_append, hvalues] at hk
  have hget : values[k]? = some values[k] := List.getElem?_eq_getElem (by omega)
  have hfits : values[k].val < Bytes.capacity 32 := values[k].val_lt.trans (by decide)
  rw [hx, Bytes.residueAt, List.drop_length_add_append, Fr.take_drop_flatMap_toBytes hget,
    Residue.toBytes, Bytes.ofLittleEndian_littleEndian hfits]
  exact values[k].val_lt

theorem exact_of {start : Nat} (hiff : ∀ bytes x, decode bytes = .ok x ↔ valid x ∧ bytes = encode x)
    (hvalues : ∀ x : α, ∃ (front : Bytes) (values : List Fr), front.length = start ∧
      encode x = front ++ values.flatMap Residue.toBytes) : Exact α valid start where
  decode_eq_ok_iff := hiff
  eq_of_decode bytes bytes' x h h' := by
    rw [((hiff bytes x).1 h).2, ((hiff bytes' x).1 h').2]
  encode_of_decode bytes x h := ((hiff bytes x).1 h).2.symm
  decode_set_ne x i b hne h := hne ((hiff _ x).1 h).2
  residueAt_lt bytes x h k hk := by
    obtain ⟨-, rfl⟩ := (hiff bytes x).1 h
    obtain ⟨front, values, rfl, hx⟩ := hvalues x
    exact residueAt_encode_lt hx hk

end Artifact

theorem encode_witness_eq (w : Witness) :
    ∃ front : Bytes, front.length = 45 ∧ encode w = front ++ w.values.flatMap Residue.toBytes := by
  refine ⟨tag Witness ++ Artifact.formatVersion :: (writeShape w.shape ++
    writeCount w.values.length), ?_, ?_⟩
  · have htag : (tag Witness).length = 4 := by decide +kernel
    simp only [List.length_append, List.length_cons, htag, writeShape, writeCount,
      Bytes.length_littleEndian]
  · simp only [List.append_assoc, List.cons_append]
    rfl

theorem encode_publicWitness_eq (p : PublicWitness) :
    ∃ front : Bytes, front.length = 13 ∧ encode p = front ++ p.inputs.flatMap Residue.toBytes := by
  refine ⟨tag PublicWitness ++ Artifact.formatVersion :: writeCount p.inputs.length, ?_, ?_⟩
  · have htag : (tag PublicWitness).length = 4 := by decide +kernel
    simp only [List.length_append, List.length_cons, htag, writeCount, Bytes.length_littleEndian]
  · simp only [List.append_assoc, List.cons_append]
    rfl

/-- A witness and a list of public inputs are read from their encodings only,
and only from those of valid ones. Behind tag and version a witness has five
counts and a list of inputs has one. -/
theorem field_artifacts_exact :
    Artifact.Exact Witness Witness.Valid 45 ∧
      Artifact.Exact PublicWitness PublicWitness.Counted 13 := by
  constructor
  · refine Artifact.exact_of (fun bytes w => ?_) fun w => ?_
    · rw [faithful_witness.decode_eq_ok_iff takes_witness, and_true]
    · obtain ⟨front, hlen, hw⟩ := encode_witness_eq w
      exact ⟨front, w.values, hlen, hw⟩
  · refine Artifact.exact_of (fun bytes p => ?_) fun p => ?_
    · rw [faithful_publicWitness.decode_eq_ok_iff takes_publicWitness, true_and]
    · obtain ⟨front, hlen, hp⟩ := encode_publicWitness_eq p
      exact ⟨front, p.inputs, hlen, hp⟩

end PreimageProof
