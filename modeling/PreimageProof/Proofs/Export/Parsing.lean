import Mathlib
import PreimageProof.Proofs.Export.Calldata

/-!
# What a parsed document says

A document may come from anywhere, so its strings may be anything. It is
accepted when they read as the words of a valid proof and as scalars, and
then the proof and the inputs are those that the strings denote: a string of
digits is not reduced and not cut off, and nothing but digits is read.

The hexadecimal form is not among what is read. A document whose two forms of
the proof contradict each other is accepted for the decimal one.
-/

namespace PreimageProof

/-! ## Decimal words -/

namespace Word

theorem ofDecimal_eq_ok_iff_denotes {text : String} (hblank : text ≠ "") {w : Word} :
    ofDecimal text = .ok w ↔ Text.Denotes text w.toNat := by
  rw [ofDecimal_eq_ok_iff, Text.Denotes, and_iff_right hblank]

theorem ofDecimal_toWord_iff_denotes {text : String} (hblank : text ≠ "") {a : Fr} :
    ofDecimal text = .ok a.toWord ↔ Text.Denotes text a.val := by
  rw [ofDecimal_eq_ok_iff_denotes hblank, Residue.toNat_toWord Fr.fits_word]

end Word

/-! ## Documents -/

namespace ProofDocument

variable {doc : ProofDocument} {proof : Proof G1 G2} {publics : PublicWitness}

/-- A document is accepted for a valid proof when its strings read as the words
of that proof and of the inputs. -/
theorem parse_eq_ok_iff :
    doc.parse = .ok (proof, publics) ↔ proof.Valid ∧
      List.Forall₂ (fun text w => Word.ofDecimal text = .ok w) doc.proof.toList
        proof.toWords.toList ∧
      List.Forall₂ (fun text a => Word.ofDecimal text = .ok a.toWord) doc.input
        publics.inputs := by
  simp only [parse, bind_eq_ok_iff, vector_mapM_eq_ok_iff, mapM_eq_ok_iff, readWord,
    mapError_eq_ok_iff, readInput_eq_ok_iff, Proof.ofWords_eq_ok_iff]
  constructor
  · rintro ⟨words, hwords, proof, ⟨hvalid, rfl⟩, inputs, hinputs, h⟩
    cases h
    exact ⟨hvalid, hwords, hinputs⟩
  · rintro ⟨hvalid, hwords, hinputs⟩
    exact ⟨_, hwords, _, ⟨hvalid, rfl⟩, _, hinputs, rfl⟩

/-- Where no entry is blank, what holds of blank entries does not matter. -/
theorem forall₂_congr_of_nonblank {β : Type} {p q : String → β → Prop}
    (hpq : ∀ text y, text ≠ "" → (p text y ↔ q text y)) {texts : List String} {ys : List β}
    (hblank : "" ∉ texts) : List.Forall₂ p texts ys ↔ List.Forall₂ q texts ys := by
  have hne : ∀ text ∈ texts, text ≠ "" := fun text ht heq => hblank (heq ▸ ht)
  rw [← and_iff_right (b := List.Forall₂ p texts ys) hne,
    ← and_iff_right (b := List.Forall₂ q texts ys) hne, ← List.forall₂_and_left,
    ← List.forall₂_and_left]
  have hand : ∀ text y, (text ≠ "" ∧ p text y) = (text ≠ "" ∧ q text y) := fun text y =>
    propext (and_congr_right (hpq text y))
  simp only [hand]

end ProofDocument

/-- What is accepted denotes, entry by entry, the words of a valid proof and
the inputs; nothing is said about blank entries. A document without them is
accepted whenever it denotes these, whatever its hexadecimal form is. -/
theorem parsed_documents_denote (doc : ProofDocument) :
    (∀ proof publics, doc.parse = .ok (proof, publics) → proof.Valid ∧
      List.Forall₂ (fun text word => text ≠ "" → Text.Denotes text word.toNat)
        doc.proof.toList proof.toWords.toList ∧
      List.Forall₂ (fun text a => text ≠ "" → Text.Denotes text a.val)
        doc.input publics.inputs) ∧
    ("" ∉ doc.proof.toList → "" ∉ doc.input → ∀ proof publics,
      (doc.parse = .ok (proof, publics) ↔ proof.Valid ∧
        List.Forall₂ (fun text word => Text.Denotes text word.toNat)
          doc.proof.toList proof.toWords.toList ∧
        List.Forall₂ (fun text a => Text.Denotes text a.val) doc.input publics.inputs)) ∧
    ∀ hex, ({ doc with fullProofHex := hex } : ProofDocument).parse = doc.parse := by
  refine ⟨fun proof publics h => ?_, fun hproof hinput proof publics => ?_, fun hex => rfl⟩
  · obtain ⟨hvalid, hwords, hinputs⟩ := ProofDocument.parse_eq_ok_iff.1 h
    exact ⟨hvalid, hwords.imp fun _ _ hw hblank => (Word.ofDecimal_eq_ok_iff_denotes hblank).1 hw,
      hinputs.imp fun _ _ ha hblank => (Word.ofDecimal_toWord_iff_denotes hblank).1 ha⟩
  · rw [ProofDocument.parse_eq_ok_iff,
      ProofDocument.forall₂_congr_of_nonblank
        (fun _ _ hblank => Word.ofDecimal_eq_ok_iff_denotes hblank) hproof,
      ProofDocument.forall₂_congr_of_nonblank
        (fun _ _ hblank => Word.ofDecimal_toWord_iff_denotes hblank) hinput]

/-- A document with zeros in front of its numbers, and one with an input that
is the order of the scalar field. -/
theorem padded_document_denotes :
    let proof : Proof G1 G2 := ⟨G1.generator, .infinity, G1.generator⟩
    let words := #v["1", "2", "0", "0", "0", "000", "1", "02"]
    let order := "21888242871839275222246405745257275088548364400416034343698204186575808495617"
    (⟨words, ["007"], ""⟩ : ProofDocument).parse = .ok (proof, ⟨[(7 : Nat)]⟩) ∧
      ∀ accepted, (⟨words, [order], ""⟩ : ProofDocument).parse ≠ .ok accepted := by
  intro proof words order
  have hvalid : proof.Valid := Proof.valid_generators
  have hwords : proof.toWords = #v[1, 2, 0, 0, 0, 0, 1, 2] := Proof.toWords_generators
  constructor
  · refine ((parsed_documents_denote _).2.1 (by decide) (by decide) proof _).2 ⟨hvalid, ?_, ?_⟩
    · rw [hwords]
      decide
    · decide
  · rintro ⟨proof', publics⟩ h
    obtain ⟨-, -, hinputs⟩ := (parsed_documents_denote _).1 proof' publics h
    obtain ⟨a, -, horder, -, -⟩ := List.forall₂_cons_left_iff.1 hinputs
    have hvalue := (horder (by decide)).2.2
    have hlt := a.val_lt
    rw [← hvalue] at hlt
    exact absurd hlt (by decide +kernel)

/-- The hexadecimal form is not compared with the words, and a blank entry is
read as zero. -/
theorem contradicting_hex_is_parsed :
    let proof : Proof G1 G2 := ⟨G1.generator, .infinity, G1.generator⟩
    let words := #v["1", "2", "0", "0", "0", "0", "1", "2"]
    let hex := "0x" ++ Bytes.hex (proof.toWords.toList.flatMap Word.toBytes)
    ((⟨words, ["7"], "0x00"⟩ : ProofDocument).parse = .ok (proof, ⟨[(7 : Nat)]⟩) ∧
      "0x00" ≠ hex) ∧
    (⟨words, [""], hex⟩ : ProofDocument).parse = .ok (proof, ⟨[0]⟩) := by
  intro proof words hex
  have hvalid : proof.Valid := Proof.valid_generators
  have hwords : proof.toWords = #v[1, 2, 0, 0, 0, 0, 1, 2] := Proof.toWords_generators
  have hread : List.Forall₂ (fun text w => Word.ofDecimal text = .ok w) words.toList
      proof.toWords.toList := by
    rw [hwords]
    decide
  refine ⟨⟨ProofDocument.parse_eq_ok_iff.2 ⟨hvalid, hread, by decide⟩, fun h => ?_⟩,
    ProofDocument.parse_eq_ok_iff.2 ⟨hvalid, hread, by decide⟩⟩
  have hbytes := congrArg Bytes.ofHex? h
  rw [Bytes.ofHex?_hex, show Bytes.ofHex? "0x00" = some [0] by decide] at hbytes
  have hlength := congrArg List.length (Option.some.inj hbytes)
  rw [Word.length_flatMap_toBytes, Vector.length_toList] at hlength
  cases hlength

end PreimageProof
