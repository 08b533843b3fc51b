import Mathlib
import PreimageProof.Export.Calldata
import PreimageProof.Proofs.Export.Document

/-!
# Three forms of the same words

The call, the decimals of the document and its hexadecimal form are written
from the same words. Each of them has a reader that inverts it, whatever the
words are: a chunk of 32 bytes, a number in decimal, a byte string in
hexadecimal. So all that a proof and its inputs have to add is that their words
give them back, and none of the forms is shared by two of them.
-/

namespace PreimageProof

/-! ## Hexadecimal -/

namespace Bytes

/-- The bytes that pairs of hexadecimal digits stand for. -/
def ofHexDigits : List Char → Option Bytes
  | [] => some []
  | [_] => none
  | high :: low :: rest => do
      let h ← Json.hexValue? high
      let l ← Json.hexValue? low
      let bytes ← ofHexDigits rest
      return UInt8.ofNat (16 * h + l) :: bytes

/-- The bytes of a text of hexadecimal digits behind `0x`. -/
def ofHex? (text : String) : Option Bytes :=
  match text.toList with
  | '0' :: 'x' :: digits => ofHexDigits digits
  | _ => none

theorem ofHexDigits_flatMap (bytes : Bytes) :
    ofHexDigits (bytes.flatMap fun b => [hexDigit (b.toNat / 16), hexDigit b.toNat]) =
      some bytes := by
  induction bytes with
  | nil => rfl
  | cons b bytes ih =>
      have hb := b.toNat_lt
      have hbyte : UInt8.ofNat (16 * (b.toNat / 16 % 16) + b.toNat % 16) = b := by
        rw [show 16 * (b.toNat / 16 % 16) + b.toNat % 16 = b.toNat by omega, UInt8.ofNat_toNat]
      simp only [List.flatMap_cons, List.cons_append, List.nil_append, ofHexDigits,
        Json.hexValue?_hexDigit, ih]
      exact congrArg (fun first => some (first :: bytes)) hbyte

theorem ofHex?_hex (bytes : Bytes) : ofHex? ("0x" ++ hex bytes) = some bytes := by
  have htext : ("0x" ++ hex bytes).toList = '0' :: 'x' ::
      bytes.flatMap fun b => [hexDigit (b.toNat / 16), hexDigit b.toNat] := by
    simp [hex]
  rw [ofHex?, htext]
  exact ofHexDigits_flatMap bytes

end Bytes

/-! ## Chunks -/

namespace Word

theorem ofBytes_toBytes (w : Word) : ofBytes w.toBytes = w := by
  have hfits : w.toNat < Bytes.capacity 32 := w.isLt
  rw [ofBytes, toBytes, Bytes.ofBigEndian_bigEndian hfits, BitVec.ofNat_toNat, BitVec.setWidth_eq]

theorem length_toBytes (w : Word) : w.toBytes.length = 32 := Bytes.length_bigEndian 32 _

/-- The words of the first `count` chunks of 32 bytes. -/
def ofChunks (count : Nat) (bytes : Bytes) : List Word :=
  (Keccak.pieces 32 count bytes).map ofBytes

theorem length_flatMap_toBytes (ws : List Word) :
    (ws.flatMap toBytes).length = 32 * ws.length := by
  simp [List.length_flatMap, length_toBytes, Nat.mul_comm]

theorem ofChunks_flatMap (ws : List Word) (rest : Bytes) :
    ofChunks ws.length (ws.flatMap toBytes ++ rest) = ws := by
  induction ws with
  | nil => rfl
  | cons w ws ih =>
      have hw := length_toBytes w
      rw [List.length_cons, List.flatMap_cons, List.append_assoc, ofChunks, Keccak.pieces,
        List.take_left' hw, List.drop_left' hw, List.map_cons, ofBytes_toBytes]
      exact congrArg (w :: ·) ih

end Word

namespace Keccak

theorem length_digest (message : Bytes) : (digest message).length = 32 := by
  rw [digest, List.length_flatMap]
  simp

end Keccak

/-! ## The call -/

namespace Calldata

variable (proof : Proof G1 G2) (publics : PublicWitness)

theorem length_selector (inputs : Nat) : (selector inputs).length = 4 := by
  rw [selector, List.length_take, Keccak.length_digest]
  rfl

theorem take_encode : (encode proof publics).take 4 = selector publics.inputs.length :=
  List.take_left' (length_selector _)

theorem drop_encode :
    (encode proof publics).drop 4 = (words proof publics).flatMap Word.toBytes :=
  List.drop_left' (length_selector _)

theorem length_words : (words proof publics).length = 8 + publics.inputs.length := by
  rw [words, List.length_append, Vector.length_toList, List.length_map]

theorem length_encode :
    (encode proof publics).length = 4 + 32 * (8 + publics.inputs.length) := by
  rw [encode, List.length_append, length_selector, Word.length_flatMap_toBytes, length_words]

theorem flatMap_words : (words proof publics).flatMap Word.toBytes =
    proof.toWords.toList.flatMap Word.toBytes ++
      (publics.inputs.map Residue.toWord).flatMap Word.toBytes :=
  List.flatMap_append

theorem ofChunks_encode : Word.ofChunks (8 + publics.inputs.length)
    ((encode proof publics).drop 4) = words proof publics := by
  have hread := Word.ofChunks_flatMap (words proof publics) []
  rwa [length_words, List.append_nil, ← drop_encode] at hread

/-- The bytes behind the selector begin with those of the proof. -/
theorem take_drop_encode : ((encode proof publics).drop 4).take 256 =
    proof.toWords.toList.flatMap Word.toBytes := by
  rw [drop_encode, flatMap_words]
  exact List.take_left' (by rw [Word.length_flatMap_toBytes, Vector.length_toList])

theorem ofChunks_take_drop_encode :
    Word.ofChunks 8 (((encode proof publics).drop 4).take 256) = proof.toWords.toList := by
  have hread := Word.ofChunks_flatMap proof.toWords.toList []
  rwa [Vector.length_toList, List.append_nil, ← take_drop_encode proof publics] at hread

/-- A call tells its words, and with them the proof and the inputs. -/
theorem eq_of_encode_eq {proof proof' : Proof G1 G2} {publics publics' : PublicWitness}
    (hvalid : proof.Valid) (hvalid' : proof'.Valid)
    (h : encode proof publics = encode proof' publics') :
    (proof, publics) = (proof', publics') := by
  have hlength : publics.inputs.length = publics'.inputs.length := by
    have hcalls := congrArg List.length h
    rw [length_encode, length_encode] at hcalls
    omega
  have hwords : words proof publics = words proof' publics' := by
    rw [← ofChunks_encode, ← ofChunks_encode, h, hlength]
  obtain ⟨hproof, hinputs⟩ := List.append_inj hwords
    (by rw [Vector.length_toList, Vector.length_toList])
  have hread := Proof.ofWords_eq_ok_iff.2 ⟨hvalid, rfl⟩
  rw [Vector.toList_inj.1 hproof, Proof.ofWords_eq_ok_iff.2 ⟨hvalid', rfl⟩] at hread
  have hscalars := mapM_map_of_inverse Fr.ofWord?_toWord publics.inputs
  rw [hinputs, mapM_map_of_inverse Fr.ofWord?_toWord] at hscalars
  cases hread
  cases publics
  cases publics'
  cases hscalars
  rfl

end Calldata

theorem ProofDocument.eq_of_ofProof_eq {proof proof' : Proof G1 G2}
    {publics publics' : PublicWitness} (hvalid : proof.Valid) (hvalid' : proof'.Valid)
    (h : ofProof proof publics = ofProof proof' publics') :
    (proof, publics) = (proof', publics') := by
  have hparse := parse_ofProof hvalid publics
  rw [h, parse_ofProof hvalid' publics'] at hparse
  exact (Except.ok.inj hparse).symm

/-- The exports of a valid proof with its inputs carry the same words, and
nothing is lost in any of them. -/
theorem exports_carry_same_words (proof : Proof G1 G2) (publics : PublicWitness)
    (hvalid : proof.Valid) :
    let n := publics.inputs.length
    let doc := ProofDocument.ofProof proof publics
    let call := Calldata.encode proof publics
    -- The document comes back from its JSON, and is parsed as what was exported.
    (ProofDocument.ofJson doc.toJson = .ok doc ∧ doc.parse = .ok (proof, publics)) ∧
    -- The call is a selector and words of 32 bytes.
    (call.length = 4 + 32 * (8 + n) ∧
      call.take 4 = (Keccak.digest (Bytes.ofString
        ("verifyProof(uint256[8],uint256[" ++ toString n ++ "])"))).take 4) ∧
    -- The first eight words are the proof, those behind them the inputs, and
    -- the document has the same ones.
    (∃ (w : Vector Word 8) (v : List Word),
      Word.ofChunks (8 + n) (call.drop 4) = w.toList ++ v ∧
      Proof.ofWords w = .ok proof ∧ v.mapM Fr.ofWord? = some publics.inputs ∧
      doc.proof.mapM Word.ofDecimal = .ok w ∧ doc.input.mapM Word.ofDecimal = .ok v ∧
      Bytes.ofHex? doc.fullProofHex = some ((call.drop 4).take 256) ∧
      Word.ofChunks 8 ((call.drop 4).take 256) = w.toList) ∧
    -- No other pair has this call, this document or this JSON.
    ∀ (proof' : Proof G1 G2) (publics' : PublicWitness), proof'.Valid →
      (proof', publics') ≠ (proof, publics) →
        Calldata.encode proof' publics' ≠ call ∧
        ProofDocument.ofProof proof' publics' ≠ doc ∧
        (ProofDocument.ofProof proof' publics').toJson ≠ doc.toJson := by
  intro n doc call
  have hjson : ProofDocument.ofJson doc.toJson = .ok doc := ProofDocument.ofJson_toJson doc
  refine ⟨⟨hjson, ProofDocument.parse_ofProof hvalid publics⟩,
    ⟨Calldata.length_encode proof publics, Calldata.take_encode proof publics⟩,
    ⟨proof.toWords, publics.inputs.map Residue.toWord, Calldata.ofChunks_encode proof publics,
      Proof.ofWords_eq_ok_iff.2 ⟨hvalid, rfl⟩, ?_, ?_, ?_, ?_, ?_⟩, ?_⟩
  · exact mapM_map_of_inverse Fr.ofWord?_toWord publics.inputs
  · exact vector_mapM_map_of_inverse Word.ofDecimal_decimal proof.toWords
  · have hread := mapM_map_of_inverse Word.ofDecimal_decimal (publics.inputs.map Residue.toWord)
    rwa [List.map_map] at hread
  · rw [Calldata.take_drop_encode]
    exact Bytes.ofHex?_hex _
  · exact Calldata.ofChunks_take_drop_encode proof publics
  · intro proof' publics' hvalid' hne
    refine ⟨fun hcall => hne (Calldata.eq_of_encode_eq hvalid' hvalid hcall),
      fun hdoc => hne (ProofDocument.eq_of_ofProof_eq hvalid' hvalid hdoc), fun htext => ?_⟩
    have hread := ProofDocument.ofJson_toJson (ProofDocument.ofProof proof' publics')
    rw [htext, hjson] at hread
    exact hne (ProofDocument.eq_of_ofProof_eq hvalid' hvalid (Except.ok.inj hread).symm)

/-- The exports of generators and infinity with no input, with which they share
none with the input zero. -/
theorem generators_export :
    let proof : Proof G1 G2 := ⟨G1.generator, .infinity, G1.generator⟩
    (ProofDocument.ofProof proof ⟨[]⟩).proof = #v["1", "2", "0", "0", "0", "0", "1", "2"] ∧
      (ProofDocument.ofProof proof ⟨[]⟩).parse = .ok (proof, ⟨[]⟩) ∧
      (Calldata.encode proof ⟨[]⟩).length = 260 ∧
      Calldata.encode proof ⟨[0]⟩ ≠ Calldata.encode proof ⟨[]⟩ := by
  intro proof
  have hvalid : proof.Valid := Proof.valid_generators
  obtain ⟨⟨-, hparse⟩, ⟨hlength, -⟩, -, hother⟩ := exports_carry_same_words proof ⟨[]⟩ hvalid
  have hwords : proof.toWords = #v[1, 2, 0, 0, 0, 0, 1, 2] := Proof.toWords_generators
  have hdigits : Nat.repr 0 = "0" ∧ Nat.repr 1 = "1" ∧ Nat.repr 2 = "2" := by decide
  refine ⟨?_, hparse, hlength, (hother proof ⟨[0]⟩ hvalid ?_).1⟩
  · rw [ProofDocument.ofProof, hwords]
    simp [Word.decimal, hdigits]
  · intro h
    cases h

end PreimageProof
