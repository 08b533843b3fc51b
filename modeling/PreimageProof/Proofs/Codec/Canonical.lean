import Mathlib
import PreimageProof.Proofs.Codec.Faithful

/-!
# The one encoding of a format

No format leaves its writer a choice: counts have one writing, so do elements
of the scalar field, lists follow their lengths and everything has its place.
So wherever the elements of the groups are read from their encodings only,
the bytes of an artifact are the encoding of what was read from them.
-/

namespace PreimageProof

open Codec (writeCount writeElements writeShape writeRow writeMatrix readEntry readMatrix
  readShape readElement readElements)

/-! ## Elements -/

/-- Whatever is read from bytes of the right number is written as they are. -/
def ElementCodec.Canonical (α : Type) [ElementCodec α] : Prop :=
  ∀ (bytes : Bytes) (x : α), bytes.length = ElementCodec.width α →
    ElementCodec.decode bytes = .ok x → ElementCodec.encode x = bytes

section

variable {α : Type} [ElementCodec α] (h : ElementCodec.Canonical α) (part : String)

include h

theorem Takes.element :
    Takes (readElement part : Read α) fun x front => front = ElementCodec.encode x := by
  refine (take _).bind fun bytes front hfront => ?_
  obtain ⟨rfl, hlen⟩ := hfront
  cases hdecode : (ElementCodec.decode front : Except ElementFault α) with
  | error fault => exact throw _
  | ok x =>
      refine pure ?_
      rw [List.append_nil, h front x hlen hdecode]

theorem Takes.elements :
    Takes (readElements part : Read (List α)) fun xs front => front = writeElements xs :=
  (Takes.element h part).counted _

end

theorem Residue.toBytes_of_ofBytes {p : Nat} {bytes : Bytes} {a : Residue p}
    (hlen : bytes.length = 32) (h : ofBytes bytes = .ok a) : a.toBytes = bytes := by
  rw [toBytes, ofBytes_eq_ok_iff.1 h, ← hlen, Bytes.littleEndian_ofLittleEndian]

theorem Fr.canonical : ElementCodec.Canonical Fr := fun _ _ hlen h =>
  Residue.toBytes_of_ofBytes hlen h

/-! ## Formats -/

theorem takes_shape : Takes readShape fun shape front => front = writeShape shape := by
  refine Takes.count.bind fun constraints f₁ h₁ => ?_
  refine Takes.count.bind fun publics f₂ h₂ => ?_
  refine Takes.count.bind fun secrets f₃ h₃ => ?_
  refine Takes.count.bind fun internals f₄ h₄ => ?_
  cases hfault : Codec.shapeFault ⟨constraints, publics, secrets, internals⟩ with
  | some cause =>
      simp only [hfault]
      exact Takes.throw_bind _
  | none =>
      simp only [hfault]
      refine Takes.pure ?_
      rw [h₁, h₂, h₃, h₄, writeShape, List.append_nil, List.append_assoc, List.append_assoc]

theorem takes_entry (width : Nat) : Takes (readEntry width) fun entry front =>
    front = entry.1.toBytes ++ writeCount entry.2 := by
  refine (Takes.element Fr.canonical _).bind fun coefficient f₁ h₁ => ?_
  refine Takes.count.bind fun column f₂ h₂ => Takes.guard fun _ => Takes.pure ?_
  rw [h₁, h₂, List.append_nil]
  rfl

theorem takes_matrix (width : Nat) :
    Takes (readMatrix width) fun rows front => front = writeMatrix rows :=
  ((takes_entry width).counted 40).counted 8

theorem takes_witness :
    Takes (Artifact.read : Read Witness) fun w front => front = Artifact.write w := by
  refine takes_shape.bind fun shape f hshape => ?_
  refine (Takes.elements Fr.canonical _).bind fun values g hvalues => ?_
  refine Takes.guard fun _ => Takes.guard fun _ => Takes.pure ?_
  rw [hshape, hvalues, List.append_nil]
  rfl

theorem takes_publicWitness :
    Takes (Artifact.read : Read PublicWitness) fun p front => front = Artifact.write p := by
  refine (Takes.elements Fr.canonical _).bind fun inputs f hinputs => Takes.pure ?_
  rw [hinputs, List.append_nil]
  rfl

section

variable {G₁ G₂ : Type} [ElementCodec G₁] [ElementCodec G₂]
  (h₁ : ElementCodec.Canonical G₁) (h₂ : ElementCodec.Canonical G₂)

include h₁ h₂

theorem takes_proof : Takes (Artifact.read : Read (Proof G₁ G₂)) fun proof front =>
    front = Artifact.write proof := by
  refine (Takes.element h₁ _).bind fun a fa ha => ?_
  refine (Takes.element h₂ _).bind fun b fb hb => ?_
  refine (Takes.element h₁ _).bind fun c fc hc => Takes.pure ?_
  rw [ha, hb, hc, List.append_nil, ← List.append_assoc]
  rfl

theorem takes_verifyingKey :
    Takes (VerifyingKey.read : Read (VerifyingKey G₁ G₂)) fun vk front => front = vk.write := by
  refine takes_shape.bind fun shape f hshape => ?_
  refine (Takes.element h₁ _).bind fun alpha fa halpha => ?_
  refine (Takes.element h₂ _).bind fun beta fb hbeta => ?_
  refine (Takes.element h₂ _).bind fun gamma fg hgamma => ?_
  refine (Takes.element h₂ _).bind fun delta fd hdelta => ?_
  refine (Takes.elements h₁ _).bind fun gammaAbc fl habc => ?_
  refine Takes.guard fun _ => Takes.pure ?_
  rw [hshape, halpha, hbeta, hgamma, hdelta, habc]
  simp only [VerifyingKey.write, List.append_assoc, List.append_nil]

omit h₁ h₂ [ElementCodec G₁] [ElementCodec G₂] in
theorem takes_ensureConsistent (pk : ProvingKey G₁ G₂) :
    Takes pk.ensureConsistent fun _ front => front = [] := by
  rw [ProvingKey.ensureConsistent]
  refine Takes.guard fun _ => ?_
  cases pk.layoutFault with
  | some fault => exact Takes.throw _
  | none => exact Takes.pure rfl

theorem takes_provingKey : Takes (Artifact.read : Read (ProvingKey G₁ G₂)) fun pk front =>
    front = Artifact.write pk := by
  refine (takes_verifyingKey h₁ h₂).bind fun vk f hvk => ?_
  refine (Takes.element h₁ _).bind fun beta fb hbeta => ?_
  refine (Takes.element h₁ _).bind fun delta fd hdelta => ?_
  refine (Takes.elements h₁ _).bind fun aQuery fa ha => ?_
  refine (Takes.elements h₁ _).bind fun b1Query fb1 hb1 => ?_
  refine (Takes.elements h₂ _).bind fun b2Query fb2 hb2 => ?_
  refine (Takes.elements h₁ _).bind fun hQuery fh hh => ?_
  refine (Takes.elements h₁ _).bind fun lQuery fl hl => ?_
  refine (takes_matrix _).bind fun a fma hma => ?_
  refine (takes_matrix _).bind fun b fmb hmb => ?_
  refine (takes_matrix _).bind fun c fmc hmc => ?_
  refine (takes_ensureConsistent _).bind fun _ fe he => Takes.pure ?_
  rw [hvk, hbeta, hdelta, ha, hb1, hb2, hh, hl, hma, hmb, hmc, he]
  show _ = Artifact.write (ProvingKey.mk vk beta delta aQuery b1Query b2Query hQuery lQuery _)
  simp only [Artifact.write, List.append_assoc, List.append_nil]

end

namespace Artifact

variable {α : Type} [Artifact α]

theorem takes_tagged (h : Takes (read : Read α) fun x front => front = write x) :
    Takes (readTagged : Read α) fun x front => front = encode x := by
  refine (Takes.take 4).bind fun found f hfound => Takes.guard fun htag => ?_
  refine (Takes.take 1).bind fun version g hversion => Takes.guard fun hone => ?_
  refine h.mono fun x front hfront => ?_
  rw [hfound.1, hversion.1, not_not.1 htag, not_not.1 hone, hfront]
  rfl

theorem encode_of_decode (h : Takes (read : Read α) fun x front => front = write x)
    {bytes : Bytes} {x : α} (hx : decode bytes = .ok x) : encode x = bytes := by
  rw [decode, Read.onBytes] at hx
  obtain ⟨out, hout, hx⟩ := of_bind_eq_ok hx
  cases hx
  obtain ⟨mid, htagged, hout⟩ := Read.of_bind_run_eq_ok hout
  obtain ⟨rest, hfinish, hreturn⟩ := Read.of_bind_run_eq_ok hout
  cases hreturn
  obtain ⟨front, hbytes, hfront⟩ := takes_tagged h _ mid htagged
  -- Nothing is left behind, so the bytes taken are all of them.
  rw [Read.run_finish] at hfinish
  split at hfinish
  · cases hfinish
  · next hsize =>
      rw [mid.2.size_eq, not_not, List.length_eq_zero_iff] at hsize
      rw [hsize, List.append_nil] at hbytes
      exact hfront.symm.trans hbytes.symm

end Artifact

end PreimageProof
