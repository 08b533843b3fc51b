import Mathlib
import PreimageProof.Proofs.Codec.Canonical
import PreimageProof.Proofs.Codec.Faithful

/-!
# Other spellings of keys and proofs

A point has a spelling for each choice of flags and, at infinity, of
coordinates, and the reader takes them all: it does not compare the flag of the
larger coordinate with the coordinate, and under the flag of infinity it looks
no further. Keys and proofs hold points, so each of them is read from bytes
other than its encoding, and a proof that is tampered with in the right bit is
accepted as the proof it was.

One comparison is missing, and only in the reader of elements, since the
formats themselves have one encoding. With it in place, the bytes of an
artifact are its encoding exactly when they are read.
-/

namespace PreimageProof

open Artifact (encode decode)
open Codec (readElement readElements writeElements)
open SourceOps (isValid)

/-! ## Elements -/

namespace ElementCodec

variable {α : Type} [ElementCodec α]

/-- The encoding for a reader that accepts nothing else. -/
@[reducible] def strict (α : Type) [ElementCodec α] : ElementCodec α where
  width := width α
  encode := encode
  decode bytes := do
    let x ← decode bytes
    if encode x ≠ bytes then throw .invalid
    return x

/-- Another spelling for the reader that there is. -/
@[reducible] def respelt (spell : α → Bytes) : ElementCodec α := ⟨width α, spell, decode⟩

@[simp] theorem readElement_respelt (spell : α → Bytes) (part : String) :
    @readElement α (respelt spell) part = readElement part := (rfl)

@[simp] theorem readElements_respelt (spell : α → Bytes) (part : String) :
    @readElements α (respelt spell) part = readElements part := (rfl)

@[simp] theorem encode_strict (x : α) : @encode α (strict α) x = encode x := (rfl)

@[simp] theorem writeElements_strict (xs : List α) :
    @writeElements α (strict α) xs = writeElements xs := (rfl)

theorem strict_decode_eq_ok_iff {bytes : Bytes} {x : α} :
    (strict α).decode bytes = .ok x ↔ decode bytes = .ok x ∧ encode x = bytes := by
  show (decode bytes >>= fun y => if encode y ≠ bytes then throw .invalid else pure y) = _ ↔ _
  rw [bind_eq_ok_iff]
  constructor
  · rintro ⟨y, hy, h⟩
    split at h
    · cases h
    · next hbytes =>
        cases h
        exact ⟨hy, not_not.1 hbytes⟩
  · rintro ⟨hx, hbytes⟩
    exact ⟨x, hx, if_neg (not_not.2 hbytes)⟩

variable (α) in
theorem strict_canonical : @Canonical α (strict α) := fun _ _ _ h =>
  (strict_decode_eq_ok_iff.1 h).2

theorem Lawful.strict {valid : α → Prop} (h : Lawful α valid) :
    @Lawful α (ElementCodec.strict α) valid :=
  @Lawful.mk α (ElementCodec.strict α) valid h.length_encode
    (fun x hx => strict_decode_eq_ok_iff.2 ⟨h.decode_encode x hx, rfl⟩)
    fun bytes x hx => h.valid_of_decode bytes x (strict_decode_eq_ok_iff.1 hx).1

/-- A spelling of all valid elements that is read like their encoding and is
not their encoding. -/
structure Respells (valid : α → Prop) (spell : α → Bytes) : Prop where
  lawful : @Lawful α (respelt spell) valid
  ne_encode : ∀ x, spell x ≠ encode x

end ElementCodec

/-! ## Artifacts -/

/-- What is read from some bytes is read from others too, and whether these are
its encoding is what `strict` tells. -/
structure Artifact.Malleable (α : Type) (strict : Artifact α) [Artifact α] (bytes : Bytes) :
    Prop where
  exists_other : ∀ x : α, decode bytes = .ok x → ∃ bytes', bytes' ≠ bytes ∧ decode bytes' = .ok x
  encode_eq_iff : ∀ x : α, decode bytes = .ok x →
    (encode x = bytes ↔ @Artifact.decode α strict bytes = .ok x)

theorem Artifact.malleable {α : Type} {strict other : Artifact α} [Artifact α]
    {valid counted : α → Prop} (hfaithful : Faithful α valid counted)
    (hother : @Faithful α other valid counted)
    (htag : other.tag = tag α) (hread : other.read = read) (hne : ∀ x, other.write x ≠ write x)
    (hstrict : @Faithful α strict valid counted)
    (htag' : strict.tag = tag α) (hwrite : strict.write = write)
    (htakes : Takes strict.read fun x front => front = strict.write x) (bytes : Bytes) :
    Malleable α strict bytes where
  exists_other x hx := by
    obtain ⟨hvalid, hcounted⟩ := hfaithful.of_decode bytes x hx
    by_cases hencode : encode x = bytes
    · refine ⟨@Artifact.encode α other x, fun h => ?_, ?_⟩
      · have h' : other.tag ++ formatVersion :: other.write x =
            tag α ++ formatVersion :: write x := h.trans hencode.symm
        rw [htag] at h'
        exact hne x (List.tail_eq_of_cons_eq (List.append_cancel_left h'))
      · have hdecode : @Artifact.decode α other = decode := by
          funext bytes
          simp only [Artifact.decode, Artifact.readTagged, htag, hread]
        rw [← hdecode]
        exact @Faithful.decode_encode α other _ _ hother x hvalid hcounted
    · exact ⟨encode x, hencode, hfaithful.decode_encode x hvalid hcounted⟩
  encode_eq_iff x hx := by
    have hencode : @Artifact.encode α strict x = encode x := by
      show strict.tag ++ formatVersion :: strict.write x = tag α ++ formatVersion :: write x
      rw [htag', hwrite]
    constructor
    · rintro rfl
      obtain ⟨hvalid, hcounted⟩ := hfaithful.of_decode _ x hx
      rw [← hencode]
      exact @Faithful.decode_encode α strict _ _ hstrict x hvalid hcounted
    · intro hread
      rw [← hencode]
      exact @Artifact.encode_of_decode α strict htakes bytes x hread

section

variable (G₁ G₂ : Type) [ElementCodec G₁] [ElementCodec G₂]

/-- Proofs and keys for a reader that compares elements with their encodings. -/
abbrev strictProof : Artifact (Proof G₁ G₂) :=
  @instArtifactProof G₁ G₂ (ElementCodec.strict G₁) (ElementCodec.strict G₂)

@[inherit_doc strictProof]
abbrev strictVerifyingKey : Artifact (VerifyingKey G₁ G₂) :=
  @instArtifactVerifyingKey G₁ G₂ (ElementCodec.strict G₁) (ElementCodec.strict G₂)

@[inherit_doc strictProof]
abbrev strictProvingKey : Artifact (ProvingKey G₁ G₂) :=
  @instArtifactProvingKey G₁ G₂ (ElementCodec.strict G₁) (ElementCodec.strict G₂)

end

section

variable {G₁ G₂ : Type} [SourceOps G₁] [SourceOps G₂] [ElementCodec G₁] [ElementCodec G₂]
  {spell : G₁ → Bytes} (h₁ : ElementCodec.Lawful G₁ (isValid · = true))
  (h₂ : ElementCodec.Lawful G₂ (isValid · = true))
  (hspell : ElementCodec.Respells (isValid · = true) spell)

include h₁ hspell

/-- Two spellings of one element of the first group, whatever follows them. -/
theorem append_spell_ne (front back back' : Bytes) (x : G₁) :
    front ++ (spell x ++ back) ≠ front ++ (ElementCodec.encode x ++ back') := by
  intro h
  have hlen : (spell x).length = (ElementCodec.encode x).length :=
    (@ElementCodec.Lawful.length_encode G₁ (.respelt spell) _ hspell.lawful x).trans
      (h₁.length_encode x).symm
  exact hspell.ne_encode x (List.append_inj_left (List.append_cancel_left h) hlen)

include h₂

theorem malleable_proof (bytes : Bytes) :
    Artifact.Malleable (Proof G₁ G₂) (strictProof G₁ G₂) bytes := by
  refine @Artifact.malleable _ (strictProof G₁ G₂)
    (@instArtifactProof G₁ G₂ (.respelt spell) _) _ _ _
    (faithful_proof h₁ h₂) ?_ rfl ?_ (fun proof => ?_) ?_ rfl ?_ ?_ bytes
  · exact @faithful_proof G₁ G₂ _ _ (.respelt spell) _ hspell.lawful h₂
  · simp only [Artifact.read, ElementCodec.readElement_respelt]
  · simp only [Artifact.write, List.append_assoc]
    exact append_spell_ne h₁ hspell [] _ _ proof.a
  · exact @faithful_proof G₁ G₂ _ _ (.strict G₁) (.strict G₂) h₁.strict h₂.strict
  · simp only [Artifact.write, ElementCodec.encode_strict]
  · exact @takes_proof G₁ G₂ (.strict G₁) (.strict G₂) (ElementCodec.strict_canonical G₁)
      (ElementCodec.strict_canonical G₂)

theorem malleable_verifyingKey (bytes : Bytes) :
    Artifact.Malleable (VerifyingKey G₁ G₂) (strictVerifyingKey G₁ G₂) bytes := by
  refine @Artifact.malleable _ (strictVerifyingKey G₁ G₂)
    (@instArtifactVerifyingKey G₁ G₂ (.respelt spell) _) _ _ _
    (faithful_verifyingKey h₁ h₂) ?_ rfl ?_ (fun vk => ?_) ?_ rfl ?_ ?_ bytes
  · exact @faithful_verifyingKey G₁ G₂ _ _ (.respelt spell) _ hspell.lawful h₂
  · simp only [Artifact.read, VerifyingKey.read, ElementCodec.readElement_respelt,
      ElementCodec.readElements_respelt]
  · simp only [Artifact.write, VerifyingKey.write, List.append_assoc]
    exact append_spell_ne h₁ hspell _ _ _ vk.alpha
  · exact @faithful_verifyingKey G₁ G₂ _ _ (.strict G₁) (.strict G₂) h₁.strict h₂.strict
  · funext vk
    simp only [Artifact.write, VerifyingKey.write, ElementCodec.encode_strict,
      ElementCodec.writeElements_strict]
  · exact @takes_verifyingKey G₁ G₂ (.strict G₁) (.strict G₂) (ElementCodec.strict_canonical G₁)
      (ElementCodec.strict_canonical G₂)

theorem malleable_provingKey (bytes : Bytes) :
    Artifact.Malleable (ProvingKey G₁ G₂) (strictProvingKey G₁ G₂) bytes := by
  refine @Artifact.malleable _ (strictProvingKey G₁ G₂)
    (@instArtifactProvingKey G₁ G₂ (.respelt spell) _) _ _ _
    (faithful_provingKey h₁ h₂) ?_ rfl ?_ (fun pk => ?_) ?_ rfl ?_ ?_ bytes
  · exact @faithful_provingKey G₁ G₂ _ _ (.respelt spell) _ hspell.lawful h₂
  · simp only [Artifact.read, VerifyingKey.read, ElementCodec.readElement_respelt,
      ElementCodec.readElements_respelt]
  · simp only [Artifact.write, VerifyingKey.write, List.append_assoc]
    exact append_spell_ne h₁ hspell _ _ _ pk.vk.alpha
  · exact @faithful_provingKey G₁ G₂ _ _ (.strict G₁) (.strict G₂) h₁.strict h₂.strict
  · funext pk
    simp only [Artifact.write, VerifyingKey.write, ElementCodec.encode_strict,
      ElementCodec.writeElements_strict]
  · exact @takes_provingKey G₁ G₂ (.strict G₁) (.strict G₂) (ElementCodec.strict_canonical G₁)
      (ElementCodec.strict_canonical G₂)

end

/-! ## Points -/

/-- As many components as the type says always make a coordinate. -/
class CompleteCoordinate (F : Type) [Coordinate F] : Prop extends LawfulCoordinate F where
  exists_components : ∀ cs : List Fq, cs.length = Coordinate.degree F →
    ∃ a : F, Coordinate.components a = cs

instance : CompleteCoordinate Fq where
  exists_components cs h := by
    match cs, h with
    | [a], _ => exact ⟨a, rfl⟩

instance : CompleteCoordinate Fq2 where
  exists_components cs h := by
    match cs, h with
    | [re, im], _ => exact ⟨⟨re, im⟩, rfl⟩

namespace Point

/-- A spelling that is not the encoding: the wrong flag of two, or coordinates
at infinity that are not zeros. -/
def misspelled {F : Type} [Coordinate F] : Point F → Bytes
  | .infinity => spelling .infinity (1 : F) 0
  | .affine x y =>
      let larger := isLarger (Coordinate.components y) (Coordinate.components (-y))
      spelling (if larger then .plain else .larger) x y

/-- The flags and coordinates of encodings: at infinity zeros, elsewhere the
flag that the second coordinate and its negation call for. -/
def Fit {F : Type} [Coordinate F] (flags : Flags) (x y : F) : Prop :=
  let larger := isLarger (Coordinate.components y) (Coordinate.components (-y))
  match flags with
  | .plain => larger = false
  | .infinity => x = 0 ∧ y = 0
  | .larger => larger = true

/-- The points read from some bytes, and those of them with these bytes as
their encoding. -/
structure Spelled (F : Type) [Coordinate F] [SourceOps (Point F)] (bytes : Bytes) : Prop where
  decode_eq_ok_iff : ∀ p : Point F, ElementCodec.decode bytes = .ok p ↔
    isValid p = true ∧ ∃ flags x y, spelling flags x y = bytes ∧ seen flags x y = p
  strict_eq_ok_iff : ∀ p : Point F, (ElementCodec.strict (Point F)).decode bytes = .ok p ↔
    isValid p = true ∧ ∃ flags x y, spelling flags x y = bytes ∧ seen flags x y = p ∧ Fit flags x y

/-! What was read is what is written, component by component. -/

theorem of_readComponents {degree : Nat} {bytes : Bytes} {cs : List Fq}
    (hlen : bytes.length = 32 * degree) (h : readComponents degree bytes = .ok cs) :
    cs.length = degree ∧ cs.flatMap Residue.toBytes = bytes := by
  induction degree generalizing bytes cs with
  | zero =>
      cases h
      exact ⟨rfl, (List.length_eq_zero_iff.1 hlen).symm⟩
  | succ degree ih =>
      obtain ⟨a, ha, h⟩ := of_bind_eq_ok h
      obtain ⟨rest, hrest, h⟩ := of_bind_eq_ok h
      cases h
      have htake : (bytes.take 32).length = 32 := by
        rw [List.length_take]
        omega
      have hdrop : (bytes.drop 32).length = 32 * degree := by
        rw [List.length_drop]
        omega
      obtain ⟨hlen', hbytes⟩ := ih hdrop hrest
      refine ⟨congrArg (· + 1) hlen', ?_⟩
      rw [List.flatMap_cons, hbytes, Residue.toBytes_of_ofBytes htake ha, List.take_append_drop]

theorem Flags.of_ofBits? {n : Nat} {flags : Flags} (h : ofBits? n = some flags) :
    flags.bits = n := by
  match n, h with
  | 0, h => cases h; rfl
  | 1, h => cases h; rfl
  | 2, h => cases h; rfl

theorem of_readFlagged {degree : Nat} {bytes : Bytes} {cs : List Fq} {flags : Flags}
    (hlen : bytes.length = 32 * degree) (h : readFlagged degree bytes = .ok (cs, flags)) :
    cs.length = degree ∧ flaggedBytes flags cs = bytes := by
  induction degree generalizing bytes cs with
  | zero => cases h
  | succ degree ih =>
      cases degree with
      | zero =>
          have htake : bytes.take 32 = bytes := List.take_of_length_le hlen.le
          rw [zero_add, readFlagged, htake] at h
          split at h
          · cases h
          · next flags' hbits =>
              split at h
              · cases h
              · next a hval =>
                  cases h
                  refine ⟨rfl, ?_⟩
                  rw [flaggedBytes, Residue.ofNat?_eq_some_iff.1 hval, Flags.of_ofBits? hbits,
                    Nat.shiftRight_eq_div_pow, Nat.shiftLeft_eq, Nat.shiftLeft_eq, one_mul,
                    Nat.mod_add_div']
                  have hbytes := Bytes.littleEndian_ofLittleEndian bytes
                  rwa [hlen] at hbytes
      | succ degree =>
          obtain ⟨a, ha, h⟩ := of_bind_eq_ok h
          obtain ⟨⟨rest, flags'⟩, hrest, h⟩ := of_bind_eq_ok h
          cases h
          have htake : (bytes.take 32).length = 32 := by
            rw [List.length_take]
            omega
          have hdrop : (bytes.drop 32).length = 32 * (degree + 1) := by
            rw [List.length_drop]
            omega
          obtain ⟨hlen', hbytes⟩ := ih hdrop hrest
          refine ⟨congrArg (· + 1) hlen', ?_⟩
          obtain ⟨b, rest, rfl⟩ : ∃ b rest', rest = b :: rest' :=
            List.exists_cons_of_length_eq_add_one hlen'
          rw [flaggedBytes, hbytes, Residue.toBytes_of_ofBytes htake ha, List.take_append_drop]
          exact List.cons_ne_nil _ _

section

variable {F : Type} [Coordinate F] [CompleteCoordinate F]

theorem spelling_inj {flags flags' : Flags} {x y x' y' : F}
    (h : spelling flags x y = spelling flags' x' y') : flags = flags' ∧ x = x' ∧ y = y' := by
  have hinj : ∀ {a b : F}, Coordinate.components a = Coordinate.components b → a = b := by
    intro a b hab
    have ha := LawfulCoordinate.ofComponents?_components a
    rw [hab, LawfulCoordinate.ofComponents?_components, Option.some.injEq] at ha
    exact ha.symm
  obtain ⟨hxs, hys⟩ := read_spelling flags x y
  obtain ⟨hxs', hys'⟩ := read_spelling flags' x' y'
  rw [h, hxs', Except.ok.injEq] at hxs
  rw [h, hys', Except.ok.injEq, Prod.mk.injEq] at hys
  exact ⟨hys.2.symm, hinj hxs.symm, hinj hys.1.symm⟩

/-- Bytes are the encoding of the point seen in them where all of it fits. -/
theorem toBytes_seen_eq_iff {flags : Flags} {x y : F} :
    (seen flags x y).toBytes = spelling flags x y ↔ Fit flags x y := by
  constructor
  · intro h
    cases flags with
    | infinity =>
        obtain ⟨-, hx, hy⟩ := spelling_inj h
        exact ⟨hx.symm, hy.symm⟩
    | plain =>
        have hflags := (spelling_inj h).1
        split at hflags
        · cases hflags
        · next hsmaller => exact Bool.eq_false_of_not_eq_true hsmaller
    | larger =>
        have hflags := (spelling_inj h).1
        split at hflags
        · next hlarger => exact hlarger
        · cases hflags
  · intro h
    cases flags with
    | infinity =>
        obtain ⟨rfl, rfl⟩ := h
        rfl
    | plain =>
        show spelling (if _ then .larger else .plain) x y = _
        rw [if_neg (Bool.eq_false_iff.1 h)]
    | larger =>
        show spelling (if _ then .larger else .plain) x y = _
        rw [if_pos (show isLarger _ _ = true from h)]

variable [SourceOps (Point F)] (hinfinity : isValid (infinity : Point F) = true)

include hinfinity

/-- The bytes of a valid point are flags and coordinates that are read as it. -/
theorem ofBytes_eq_ok_iff {bytes : Bytes} (hlen : bytes.length = 64 * Coordinate.degree F)
    {p : Point F} :
    ofBytes bytes = .ok p ↔
      isValid p = true ∧ ∃ flags x y, spelling flags x y = bytes ∧ seen flags x y = p := by
  constructor
  · intro h
    have hread := h
    obtain ⟨xs, hxs, hread⟩ := of_bind_eq_ok hread
    obtain ⟨⟨ys, flags⟩, hys, -⟩ := of_bind_eq_ok hread
    obtain ⟨hxlen, hxbytes⟩ := of_readComponents (by rw [List.length_take]; omega) hxs
    obtain ⟨hylen, hybytes⟩ := of_readFlagged (by rw [List.length_drop]; omega) hys
    obtain ⟨x, rfl⟩ := CompleteCoordinate.exists_components xs hxlen
    obtain ⟨y, rfl⟩ := CompleteCoordinate.exists_components ys hylen
    have hbytes : spelling flags x y = bytes := by
      rw [spelling, hxbytes, hybytes, List.take_append_drop]
    rw [← hbytes, ofBytes_spelling hinfinity] at h
    split at h
    · next hvalid =>
        cases h
        exact ⟨hvalid, flags, x, y, hbytes, rfl⟩
    · cases h
  · rintro ⟨hvalid, flags, x, y, rfl, rfl⟩
    rw [ofBytes_spelling hinfinity, if_pos hvalid]

theorem spelled {bytes : Bytes} (hlen : bytes.length = 64 * Coordinate.degree F) :
    Spelled F bytes where
  decode_eq_ok_iff _ := ofBytes_eq_ok_iff hinfinity hlen
  strict_eq_ok_iff p := by
    rw [ElementCodec.strict_decode_eq_ok_iff]
    constructor
    · rintro ⟨hp, hencode⟩
      obtain ⟨hvalid, flags, x, y, hbytes, rfl⟩ := (ofBytes_eq_ok_iff hinfinity hlen).1 hp
      exact ⟨hvalid, flags, x, y, hbytes, rfl, toBytes_seen_eq_iff.1 (hencode.trans hbytes.symm)⟩
    · rintro ⟨hvalid, flags, x, y, rfl, rfl, hfit⟩
      refine ⟨?_, toBytes_seen_eq_iff.2 hfit⟩
      exact (ofBytes_eq_ok_iff hinfinity hlen).2 ⟨hvalid, flags, x, y, rfl, rfl⟩

theorem respells (hone : (1 : F) ≠ 0) :
    ElementCodec.Respells (isValid · = true) (misspelled : Point F → Bytes) where
  lawful := by
    refine lawful_of_spelled hinfinity fun p => ?_
    cases p with
    | infinity => exact ⟨.infinity, 1, 0, rfl, rfl⟩
    | affine x y =>
        refine ⟨_, x, y, rfl, ?_⟩
        split
        · rfl
        · rfl
  ne_encode p := by
    cases p with
    | infinity => exact fun h => hone (spelling_inj h).2.1
    | affine x y =>
        intro h
        have hflags := (spelling_inj h).1
        split at hflags
        · cases hflags
        · cases hflags

end

end Point

/-- Nothing is read from one string of bytes only, neither a key nor a proof, and
a reader that compares each point with its encoding accepts the one string that
is the encoding of all. What the two readers of a point tell apart are flags and
coordinates that do not fit. -/
theorem keys_and_proofs_malleable (bytes : Bytes) :
    Artifact.Malleable (Proof G1 G2) (strictProof G1 G2) bytes ∧
    Artifact.Malleable (VerifyingKey G1 G2) (strictVerifyingKey G1 G2) bytes ∧
    Artifact.Malleable (ProvingKey G1 G2) (strictProvingKey G1 G2) bytes ∧
    (bytes.length = ElementCodec.width G1 → Point.Spelled Fq bytes) ∧
    (bytes.length = ElementCodec.width G2 → Point.Spelled Fq2 bytes) := by
  have hspell : ElementCodec.Respells (isValid · = true) (Point.misspelled : G1 → Bytes) :=
    Point.respells rfl (by decide)
  refine ⟨malleable_proof G1.lawful G2.lawful hspell bytes,
    malleable_verifyingKey G1.lawful G2.lawful hspell bytes,
    malleable_provingKey G1.lawful G2.lawful hspell bytes, ?_, ?_⟩
  · exact fun hlen => Point.spelled rfl hlen
  · exact fun hlen => Point.spelled (by decide +kernel) hlen

/-- The generator under the flag of the larger coordinate, which it is not. -/
def flippedProof : Bytes :=
  Artifact.tag (Proof G1 G2) ++ Artifact.formatVersion ::
    (Point.spelling .larger (1 : Fq) (2 : Nat) ++ Point.toBytes (.infinity : G2) ++
      Point.toBytes (.infinity : G1))

theorem decode_flippedProof :
    decode flippedProof = .ok (⟨G1.generator, .infinity, .infinity⟩ : Proof G1 G2) ∧
      encode (⟨G1.generator, .infinity, .infinity⟩ : Proof G1 G2) ≠ flippedProof := by
  constructor
  · decide +kernel
  · decide +kernel

end PreimageProof
