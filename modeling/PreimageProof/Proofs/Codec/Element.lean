import Mathlib
import PreimageProof.Proofs.Codec.Reading

/-!
# Encodings of elements

What the format relies on is said once for all types of elements: an encoding
has a fixed width, brings back every valid element, and is not accepted for
any other. Field elements have such an encoding, all of them being valid, and
so have the points of both groups.

For a point this comes down to its components. The flags share a byte with
the last of them, which leaves the two highest bits of that byte free because
the modulus has 254 binary digits.
-/

namespace PreimageProof

open Codec (writeCount writeElements readElement readElements)

/-- An encoding of a fixed width that brings back the valid elements and lets
no others in. -/
structure ElementCodec.Lawful (α : Type) [ElementCodec α] (valid : α → Prop) : Prop where
  length_encode : ∀ x : α, (ElementCodec.encode x).length = ElementCodec.width α
  decode_encode : ∀ x : α, valid x → ElementCodec.decode (ElementCodec.encode x) = .ok x
  valid_of_decode : ∀ (bytes : Bytes) (x : α), ElementCodec.decode bytes = .ok x → valid x

/-! ## Reading elements -/

section

variable {α : Type} [ElementCodec α] {valid : α → Prop} (h : ElementCodec.Lawful α valid)
  (part : String)

include h

theorem Reads.element {x : α} (hx : valid x) :
    Reads (readElement part) (ElementCodec.encode x) x := by
  refine (take (h.length_encode x)).map ?_
  rw [h.decode_encode x hx]
  exact pure x

theorem Reads.elements {xs : List α} (hlen : xs.length ≤ Read.maxCount)
    (hxs : ∀ x ∈ xs, valid x) : Reads (readElements part) (writeElements xs) xs :=
  counted hlen (fun x _ => (h.length_encode x).ge) fun x hx => Reads.element h part (hxs x hx)

theorem Returns.element : Returns (readElement part : Read α) valid := by
  refine (trivial _).bind fun bytes _ => ?_
  cases hdecode : (ElementCodec.decode bytes : Except ElementFault α) with
  | error fault => exact throw _
  | ok x => exact pure (h.valid_of_decode bytes x hdecode)

theorem Returns.elements : Returns (readElements part : Read (List α)) fun xs =>
    xs.length ≤ Read.maxCount ∧ ∀ x ∈ xs, valid x :=
  (Returns.element h part).counted _

end

/-! ## Field elements -/

namespace Residue

variable {p : Nat}

@[simp] theorem length_toBytes (a : Residue p) : a.toBytes.length = 32 :=
  Bytes.length_littleEndian 32 a.val

theorem ofNat?_eq_some_iff {n : Nat} {a : Residue p} : ofNat? p n = some a ↔ a.val = n := by
  rw [ofNat?]
  by_cases hlt : n < p
  · rw [dif_pos hlt, Option.some.injEq, Residue.ext_iff]
    exact eq_comm
  · rw [dif_neg hlt]
    refine iff_of_false (by simp) fun heq => hlt ?_
    rw [← heq]
    exact a.val_lt

theorem ofBytes_eq_ok_iff {bytes : Bytes} {a : Residue p} :
    ofBytes bytes = .ok a ↔ a.val = Bytes.ofLittleEndian bytes := by
  rw [← ofNat?_eq_some_iff, ofBytes]
  cases ofNat? p (Bytes.ofLittleEndian bytes) <;> simp

theorem ofBytes_toBytes (hp : p ≤ Bytes.capacity 32) (a : Residue p) :
    ofBytes a.toBytes = .ok a :=
  ofBytes_eq_ok_iff.2 (Bytes.ofLittleEndian_littleEndian (a.val_lt.trans_le hp)).symm

theorem lawful (hp : p ≤ Bytes.capacity 32) :
    ElementCodec.Lawful (Residue p) fun _ => True where
  length_encode := length_toBytes
  decode_encode a _ := ofBytes_toBytes hp a
  valid_of_decode _ _ _ := trivial

end Residue

theorem Fq.fits : baseModulus ≤ Bytes.capacity 32 := by decide

theorem Fr.lawful : ElementCodec.Lawful Fr fun _ => True := Residue.lawful (by decide)

/-! ## Points -/

/-- Coordinates are the lists of their components. -/
class LawfulCoordinate (F : Type) [Coordinate F] : Prop where
  degree_pos : 0 < Coordinate.degree F
  length_components : ∀ a : F, (Coordinate.components a).length = Coordinate.degree F
  ofComponents?_components : ∀ a : F, Coordinate.ofComponents? (Coordinate.components a) = some a

instance : LawfulCoordinate Fq := ⟨Nat.one_pos, fun _ => rfl, fun _ => rfl⟩

instance : LawfulCoordinate Fq2 := ⟨Nat.two_pos, fun _ => rfl, fun _ => rfl⟩

namespace Point

theorem length_flatMap_toBytes (cs : List Fq) :
    (cs.flatMap Residue.toBytes).length = 32 * cs.length := by
  induction cs with
  | nil => rfl
  | cons c cs ih =>
      rw [List.flatMap_cons, List.length_append, Residue.length_toBytes, ih, List.length_cons]
      omega

theorem readComponents_flatMap (cs : List Fq) :
    readComponents cs.length (cs.flatMap Residue.toBytes) = .ok cs := by
  induction cs with
  | nil => rfl
  | cons c cs ih =>
      rw [List.flatMap_cons, List.length_cons, readComponents,
        List.take_left' c.length_toBytes, List.drop_left' c.length_toBytes,
        Residue.ofBytes_toBytes Fq.fits, ih]
      rfl

theorem Flags.ofBits?_bits (flags : Flags) : ofBits? flags.bits = some flags := by
  cases flags <;> rfl

theorem Flags.bits_lt (flags : Flags) : flags.bits < 4 := by
  cases flags <;> decide

/-- The flags and the number below them, apart again. -/
theorem ofLittleEndian_flagged (flags : Flags) (a : Fq) :
    Bytes.ofLittleEndian (Bytes.littleEndian 32 (a.val + (flags.bits <<< 254))) =
      a.val + 2 ^ 254 * flags.bits := by
  have ha : a.val < 2 ^ 254 := a.val_lt.trans (by decide)
  have hbits := flags.bits_lt
  have hcapacity : Bytes.capacity 32 = 2 ^ 254 * 4 := by decide
  rw [Nat.shiftLeft_eq, mul_comm flags.bits]
  exact Bytes.ofLittleEndian_littleEndian (by omega)

theorem length_flaggedBytes (flags : Flags) {cs : List Fq} (h : cs ≠ []) :
    (flaggedBytes flags cs).length = 32 * cs.length := by
  induction cs with
  | nil => exact absurd rfl h
  | cons c cs ih =>
      cases cs with
      | nil => exact Bytes.length_littleEndian 32 _
      | cons c' cs =>
          have hrest := ih (by simp)
          simp only [flaggedBytes, List.length_append, Residue.length_toBytes,
            List.length_cons] at hrest ⊢
          omega

theorem readFlagged_flaggedBytes (flags : Flags) {cs : List Fq} (h : cs ≠ []) :
    readFlagged cs.length (flaggedBytes flags cs) = .ok (cs, flags) := by
  induction cs with
  | nil => exact absurd rfl h
  | cons c cs ih =>
      cases cs with
      | nil =>
          have hc : c.val < 2 ^ 254 := c.val_lt.trans (by decide)
          have hbits : (c.val + 2 ^ 254 * flags.bits) >>> 254 = flags.bits := by
            rw [Nat.shiftRight_eq_div_pow, Nat.add_mul_div_left _ _ (by positivity),
              Nat.div_eq_of_lt hc, zero_add]
          have hval : (c.val + 2 ^ 254 * flags.bits) % (1 <<< 254) = c.val := by
            rw [Nat.one_shiftLeft, Nat.add_mul_mod_self_left, Nat.mod_eq_of_lt hc]
          have hlen := Bytes.length_littleEndian 32 (c.val + (flags.bits <<< 254))
          simp only [List.length_singleton, flaggedBytes, readFlagged,
            List.take_of_length_le hlen.le, ofLittleEndian_flagged, hbits, hval,
            Flags.ofBits?_bits, Residue.ofNat?, c.val_lt, dif_pos]
          rfl
      | cons c' cs =>
          have hrest := ih (by simp)
          rw [List.length_cons] at hrest
          simp only [flaggedBytes, List.length_cons, readFlagged,
            List.take_left' c.length_toBytes, List.drop_left' c.length_toBytes,
            Residue.ofBytes_toBytes Fq.fits, hrest]
          rfl

section

variable {F : Type} [Coordinate F]

/-- The bytes of flags and coordinates, which need not go together. -/
def spelling (flags : Flags) (x y : F) : Bytes :=
  (Coordinate.components x).flatMap Residue.toBytes ++
    flaggedBytes flags (Coordinate.components y)

/-- The point that flags and coordinates are read as. -/
def seen (flags : Flags) (x y : F) : Point F :=
  if flags = .infinity then .infinity else .affine x y

theorem exists_toBytes_eq (p : Point F) :
    ∃ flags x y, p.toBytes = spelling flags x y ∧ seen flags x y = p := by
  cases p with
  | infinity => exact ⟨.infinity, 0, 0, rfl, rfl⟩
  | affine x y =>
      refine ⟨_, x, y, rfl, ?_⟩
      split
      · rfl
      · rfl

end

variable {F : Type} [Coordinate F] [LawfulCoordinate F]

theorem components_ne_nil (a : F) : Coordinate.components a ≠ [] := by
  rw [← List.length_pos_iff, LawfulCoordinate.length_components]
  exact LawfulCoordinate.degree_pos

theorem length_spelling (flags : Flags) (x y : F) :
    (spelling flags x y).length = 64 * Coordinate.degree F := by
  rw [spelling, List.length_append, length_flatMap_toBytes,
    length_flaggedBytes flags (components_ne_nil y), LawfulCoordinate.length_components,
    LawfulCoordinate.length_components]
  omega

/-- Flags and coordinates come back from their bytes, component by component. -/
theorem read_spelling (flags : Flags) (x y : F) :
    readComponents (Coordinate.degree F)
        ((spelling flags x y).take (32 * Coordinate.degree F)) = .ok (Coordinate.components x) ∧
      readFlagged (Coordinate.degree F)
        ((spelling flags x y).drop (32 * Coordinate.degree F)) =
          .ok (Coordinate.components y, flags) := by
  have hx := LawfulCoordinate.length_components x
  have hy := LawfulCoordinate.length_components y
  have hfront := length_flatMap_toBytes (Coordinate.components x)
  rw [hx] at hfront
  constructor
  · rw [spelling, List.take_left' hfront, ← hx]
    exact readComponents_flatMap _
  · rw [spelling, List.drop_left' hfront, ← hy]
    exact readFlagged_flaggedBytes flags (components_ne_nil y)

variable [SourceOps (Point F)] (hinfinity : SourceOps.isValid (infinity : Point F) = true)

include hinfinity

theorem ofBytes_spelling (flags : Flags) (x y : F) :
    ofBytes (spelling flags x y) =
      if SourceOps.isValid (seen flags x y) then .ok (seen flags x y) else .error .invalid := by
  obtain ⟨hxs, hys⟩ := read_spelling flags x y
  simp only [ofBytes, hxs, hys]
  show (if flags = .infinity then _ else _) = _
  by_cases hflags : flags = .infinity
  · rw [seen, if_pos hflags, if_pos hflags, if_pos hinfinity]
    rfl
  · rw [seen, if_neg hflags, if_neg hflags, LawfulCoordinate.ofComponents?_components,
      LawfulCoordinate.ofComponents?_components]
    rfl

omit [LawfulCoordinate F] in
theorem isValid_of_ofBytes {bytes : Bytes} {p : Point F} (h : ofBytes bytes = .ok p) :
    SourceOps.isValid p = true := by
  obtain ⟨xs, -, h⟩ := of_bind_eq_ok h
  obtain ⟨⟨ys, flags⟩, -, h⟩ := of_bind_eq_ok h
  by_cases hflags : flags = .infinity
  · simp only [hflags, if_true] at h
    cases h
    exact hinfinity
  · simp only [hflags, if_false] at h
    split at h
    · next x y _ _ =>
        by_cases hvalid : SourceOps.isValid (affine x y) = true
        · rw [if_pos hvalid] at h
          cases h
          exact hvalid
        · rw [if_neg hvalid] at h
          cases h
    · cases h

/-- Points that are written under flags and coordinates they are read from come
back, however these are chosen. -/
theorem lawful_of_spelled {spell : Point F → Bytes}
    (hspell : ∀ p, ∃ flags x y, spell p = spelling flags x y ∧ seen flags x y = p) :
    @ElementCodec.Lawful (Point F) ⟨64 * Coordinate.degree F, spell, ofBytes⟩
      (SourceOps.isValid · = true) := by
  refine @ElementCodec.Lawful.mk _ ⟨_, spell, ofBytes⟩ _ (fun p => ?_) (fun p hp => ?_)
    fun _ _ hp => isValid_of_ofBytes hinfinity hp
  · obtain ⟨flags, x, y, hbytes, -⟩ := hspell p
    show (spell p).length = 64 * Coordinate.degree F
    rw [hbytes, length_spelling]
  · obtain ⟨flags, x, y, hbytes, rfl⟩ := hspell p
    show ofBytes (spell _) = _
    rw [hbytes, ofBytes_spelling hinfinity, if_pos hp]

/-- The encoding of points is lawful wherever infinity is valid. -/
theorem lawful : ElementCodec.Lawful (Point F) (SourceOps.isValid · = true) :=
  lawful_of_spelled hinfinity exists_toBytes_eq

end Point

theorem G1.lawful : ElementCodec.Lawful G1 (SourceOps.isValid · = true) := Point.lawful rfl

theorem G2.lawful : ElementCodec.Lawful G2 (SourceOps.isValid · = true) :=
  Point.lawful (by decide +kernel)

end PreimageProof
