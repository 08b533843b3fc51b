import Mathlib
import PreimageProof.Export.Word
import PreimageProof.Proofs.Outcome
import PreimageProof.Proofs.Codec.Artifact

/-!
# Proofs as words

Reading words inverts writing them, in both directions: words are read as a
proof exactly when its points belong to their groups and these are the words
it is written as. Everything else follows from this one equivalence, which is
proved for a coordinate, for a point and for a proof.

Zeros are free to stand for infinity because no point of either curve has
zeros for coordinates. A word at or above the modulus is not reduced but
refused, so a coordinate has one word only.
-/

namespace PreimageProof

open SourceOps (isValid)

/-! ## Coordinates -/

namespace Residue

variable {p : Nat}

theorem toNat_toWord (hp : p ≤ 2 ^ 256) (a : Residue p) : a.toWord.toNat = a.val := by
  have hlt := a.val_lt
  rw [toWord, BitVec.toNat_ofNat, Nat.mod_eq_of_lt (by omega)]

theorem toWord_eq_iff (hp : p ≤ 2 ^ 256) {a : Residue p} {w : Word} :
    a.toWord = w ↔ a.val = w.toNat := by
  rw [← BitVec.toNat_inj, toNat_toWord hp]

theorem ofWord?_eq_some_iff (hp : p ≤ 2 ^ 256) {w : Word} {a : Residue p} :
    ofWord? p w = some a ↔ a.toWord = w := by
  rw [toWord_eq_iff hp, ofWord?, ofNat?_eq_some_iff]

end Residue

theorem Fq.fits_word : baseModulus ≤ 2 ^ 256 := by decide

theorem Fr.fits_word : scalarModulus ≤ 2 ^ 256 := by decide

theorem coordinate_eq_ok_iff {part : String} {w : Word} {a : Fq} :
    coordinate part w = .ok a ↔ a.toWord = w := by
  rw [← Residue.ofWord?_eq_some_iff Fq.fits_word, coordinate]
  cases Residue.ofWord? baseModulus w <;> simp

/-! ## Points -/

namespace Point

variable {F : Type}

/-- The coordinates a point is written with. -/
def coordinates [Zero F] : Point F → F × F
  | .infinity => (0, 0)
  | .affine x y => (x, y)

/-- What is done with two coordinates that were read: zeros are infinity, and
anything else has to be a point of the group. -/
theorem received_eq_ok_iff {ε : Type} [Coordinate F] [DecidableEq F] [SourceOps (Point F)]
    (hinfinity : isValid (infinity : Point F) = true)
    (hzero : ¬ isValid (affine 0 0 : Point F) = true) {x y : F} {e : ε} {p : Point F} :
    (if x = 0 ∧ y = 0 then pure infinity
      else if isValid (affine x y) then pure (affine x y) else throw e : Except ε (Point F)) =
        .ok p ↔
      isValid p = true ∧ p.coordinates = (x, y) := by
  by_cases hxy : x = 0 ∧ y = 0
  · obtain ⟨rfl, rfl⟩ := hxy
    rw [if_pos ⟨rfl, rfl⟩]
    constructor
    · intro h
      cases h
      exact ⟨hinfinity, rfl⟩
    · rintro ⟨hvalid, hcoordinates⟩
      cases p with
      | infinity => rfl
      | affine x y =>
          cases hcoordinates
          exact absurd hvalid hzero
  · rw [if_neg hxy]
    constructor
    · intro h
      by_cases hvalid : isValid (affine x y) = true
      · rw [if_pos hvalid] at h
        cases h
        exact ⟨hvalid, rfl⟩
      · rw [if_neg hvalid] at h
        cases h
    · rintro ⟨hvalid, hcoordinates⟩
      cases p with
      | infinity =>
          cases hcoordinates
          exact absurd ⟨rfl, rfl⟩ hxy
      | affine x y =>
          cases hcoordinates
          rw [if_pos hvalid]
          rfl

end Point

namespace G1

theorem not_isValid_zero : ¬ isValid (.affine 0 0 : G1) = true := by decide

theorem toWords_eq (p : G1) : p.toWords = #v[p.coordinates.1.toWord, p.coordinates.2.toWord] := by
  cases p with
  | infinity => rfl
  | affine x y => rfl

theorem ofWords_eq_ok_iff {part : String} {x y : Word} {p : G1} :
    ofWords part #v[x, y] = .ok p ↔ isValid p = true ∧ p.toWords = #v[x, y] := by
  have hread : ofWords part #v[x, y] = .ok p ↔ ∃ a, coordinate part x = .ok a ∧
      ∃ b, coordinate part y = .ok b ∧ isValid p = true ∧ p.coordinates = (a, b) := by
    simp only [← Point.received_eq_ok_iff (show isValid (.infinity : G1) = true from rfl)
      not_isValid_zero (e := ProofDefect.badPoint ⟨part, .first⟩), ← bind_eq_ok_iff]
    rfl
  rw [hread, toWords_eq]
  simp only [coordinate_eq_ok_iff]
  constructor
  · rintro ⟨a, rfl, b, rfl, hvalid, hcoordinates⟩
    exact ⟨hvalid, by rw [hcoordinates]⟩
  · rintro ⟨hvalid, hwords⟩
    have hentries : p.coordinates.1.toWord = x ∧ p.coordinates.2.toWord = y := by
      simpa using hwords
    exact ⟨_, hentries.1, _, hentries.2, hvalid, rfl⟩

/-- Zeros, or the numbers of the coordinates of a point of the group. -/
def Written (x y : Word) : Prop :=
  (x = 0 ∧ y = 0) ∨
    ∃ a b : Fq, a.val = x.toNat ∧ b.val = y.toNat ∧ isValid (.affine a b : G1) = true

theorem written_iff {x y : Word} :
    Written x y ↔ ∃ p : G1, isValid p = true ∧ p.toWords = #v[x, y] := by
  simp only [Written, ← Residue.toWord_eq_iff Fq.fits_word]
  constructor
  · rintro (⟨rfl, rfl⟩ | ⟨a, b, rfl, rfl, hvalid⟩)
    · exact ⟨.infinity, rfl, rfl⟩
    · exact ⟨.affine a b, hvalid, rfl⟩
  · rintro ⟨p, hvalid, hwords⟩
    cases p with
    | infinity =>
        have hentries : 0 = x ∧ 0 = y := by simpa [toWords] using hwords
        exact .inl ⟨hentries.1.symm, hentries.2.symm⟩
    | affine a b =>
        right
        have hentries : a.toWord = x ∧ b.toWord = y := by simpa [toWords] using hwords
        exact ⟨a, b, hentries.1, hentries.2, hvalid⟩

end G1

namespace G2

theorem isValid_infinity : isValid (.infinity : G2) = true := by decide +kernel

theorem not_isValid_zero : ¬ isValid (.affine 0 0 : G2) = true := by decide +kernel

theorem toWords_eq (p : G2) :
    p.toWords = #v[p.coordinates.1.im.toWord, p.coordinates.1.re.toWord,
      p.coordinates.2.im.toWord, p.coordinates.2.re.toWord] := by
  cases p with
  | infinity => rfl
  | affine x y => rfl

theorem ofWords_eq_ok_iff {part : String} {x₁ x₀ y₁ y₀ : Word} {p : G2} :
    ofWords part #v[x₁, x₀, y₁, y₀] = .ok p ↔
      isValid p = true ∧ p.toWords = #v[x₁, x₀, y₁, y₀] := by
  have hread : ofWords part #v[x₁, x₀, y₁, y₀] = .ok p ↔
      ∃ a₀, coordinate part x₀ = .ok a₀ ∧ ∃ a₁, coordinate part x₁ = .ok a₁ ∧
        ∃ b₀, coordinate part y₀ = .ok b₀ ∧ ∃ b₁, coordinate part y₁ = .ok b₁ ∧
          isValid p = true ∧ p.coordinates = (⟨a₀, a₁⟩, ⟨b₀, b₁⟩) := by
    simp only [← Point.received_eq_ok_iff isValid_infinity not_isValid_zero
      (e := ProofDefect.badPoint ⟨part, .second⟩), ← bind_eq_ok_iff]
    rfl
  rw [hread, toWords_eq]
  simp only [coordinate_eq_ok_iff]
  constructor
  · rintro ⟨a₀, rfl, a₁, rfl, b₀, rfl, b₁, rfl, hvalid, hcoordinates⟩
    exact ⟨hvalid, by rw [hcoordinates]⟩
  · rintro ⟨hvalid, hwords⟩
    have hentries : p.coordinates.1.im.toWord = x₁ ∧ p.coordinates.1.re.toWord = x₀ ∧
        p.coordinates.2.im.toWord = y₁ ∧ p.coordinates.2.re.toWord = y₀ := by simpa using hwords
    obtain ⟨hx₁, hx₀, hy₁, hy₀⟩ := hentries
    exact ⟨_, hx₀, _, hx₁, _, hy₀, _, hy₁, hvalid, rfl⟩

/-- Zeros, or the numbers of the coordinates of a point of the group, in each
the imaginary part first. -/
def Written (x₁ x₀ y₁ y₀ : Word) : Prop :=
  (x₁ = 0 ∧ x₀ = 0 ∧ y₁ = 0 ∧ y₀ = 0) ∨
    ∃ a b : Fq2, a.im.val = x₁.toNat ∧ a.re.val = x₀.toNat ∧ b.im.val = y₁.toNat ∧
      b.re.val = y₀.toNat ∧ isValid (.affine a b : G2) = true

theorem written_iff {x₁ x₀ y₁ y₀ : Word} :
    Written x₁ x₀ y₁ y₀ ↔
      ∃ p : G2, isValid p = true ∧ p.toWords = #v[x₁, x₀, y₁, y₀] := by
  simp only [Written, ← Residue.toWord_eq_iff Fq.fits_word]
  constructor
  · rintro (⟨rfl, rfl, rfl, rfl⟩ | ⟨a, b, rfl, rfl, rfl, rfl, hvalid⟩)
    · exact ⟨.infinity, isValid_infinity, rfl⟩
    · exact ⟨.affine a b, hvalid, rfl⟩
  · rintro ⟨p, hvalid, hwords⟩
    cases p with
    | infinity =>
        have hentries : 0 = x₁ ∧ 0 = x₀ ∧ 0 = y₁ ∧ 0 = y₀ := by simpa [toWords] using hwords
        obtain ⟨rfl, rfl, rfl, rfl⟩ := hentries
        exact .inl ⟨rfl, rfl, rfl, rfl⟩
    | affine a b =>
        right
        have hentries : a.im.toWord = x₁ ∧ a.re.toWord = x₀ ∧ b.im.toWord = y₁ ∧
            b.re.toWord = y₀ := by simpa [toWords] using hwords
        obtain ⟨hx₁, hx₀, hy₁, hy₀⟩ := hentries
        exact ⟨a, b, hx₁, hx₀, hy₁, hy₀, hvalid⟩

end G2

/-! ## Proofs -/

namespace Proof

theorem toWords_eq_iff {proof : Proof G1 G2} {w : Vector Word 8} :
    proof.toWords = w ↔ G1.toWords proof.a = #v[w[0], w[1]] ∧
      G2.toWords proof.b = #v[w[2], w[3], w[4], w[5]] ∧
      G1.toWords proof.c = #v[w[6], w[7]] := by
  rw [toWords, G1.toWords_eq, G2.toWords_eq, G1.toWords_eq]
  constructor
  · rintro rfl
    exact ⟨rfl, rfl, rfl⟩
  · rintro ⟨ha, hb, hc⟩
    rw [ha, hb, hc]
    ext i hi
    have hcases : i = 0 ∨ i = 1 ∨ i = 2 ∨ i = 3 ∨ i = 4 ∨ i = 5 ∨ i = 6 ∨ i = 7 := by omega
    rcases hcases with rfl | rfl | rfl | rfl | rfl | rfl | rfl | rfl <;> rfl

/-- Words are read as a proof exactly when it is valid and written as them. -/
theorem ofWords_eq_ok_iff {w : Vector Word 8} {proof : Proof G1 G2} :
    ofWords w = .ok proof ↔ proof.Valid ∧ proof.toWords = w := by
  simp only [ofWords, bind_eq_ok_iff, G1.ofWords_eq_ok_iff, G2.ofWords_eq_ok_iff, toWords_eq_iff]
  constructor
  · rintro ⟨a, ⟨ha, hwa⟩, b, ⟨hb, hwb⟩, c, ⟨hc, hwc⟩, h⟩
    cases h
    exact ⟨⟨ha, hb, hc⟩, hwa, hwb, hwc⟩
  · rintro ⟨⟨ha, hb, hc⟩, hwa, hwb, hwc⟩
    exact ⟨_, ⟨ha, hwa⟩, _, ⟨hb, hwb⟩, _, ⟨hc, hwc⟩, rfl⟩

theorem exists_ofWords_iff {w : Vector Word 8} :
    (∃ proof, ofWords w = .ok proof) ↔ G1.Written w[0] w[1] ∧
      G2.Written w[2] w[3] w[4] w[5] ∧ G1.Written w[6] w[7] := by
  simp only [ofWords_eq_ok_iff, toWords_eq_iff, G1.written_iff, G2.written_iff]
  constructor
  · rintro ⟨proof, ⟨ha, hb, hc⟩, hwa, hwb, hwc⟩
    exact ⟨⟨_, ha, hwa⟩, ⟨_, hb, hwb⟩, ⟨_, hc, hwc⟩⟩
  · rintro ⟨⟨a, ha, hwa⟩, ⟨b, hb, hwb⟩, ⟨c, hc, hwc⟩⟩
    exact ⟨⟨a, b, c⟩, ⟨ha, hb, hc⟩, hwa, hwb, hwc⟩

/-- The words of a proof are numbers of coordinates. -/
theorem toNat_lt_of_mem_toWords (proof : Proof G1 G2) :
    ∀ word ∈ proof.toWords, word.toNat < baseModulus := by
  have hlt : ∀ a : Fq, a.toWord.toNat < baseModulus := fun a => by
    rw [Residue.toNat_toWord Fq.fits_word]
    exact a.val_lt
  have hfirst : ∀ p : G1, ∀ word ∈ p.toWords, word.toNat < baseModulus := fun p => by
    rw [G1.toWords_eq]
    simp [hlt]
  have hsecond : ∀ word ∈ G2.toWords proof.b, word.toNat < baseModulus := by
    rw [G2.toWords_eq]
    simp [hlt]
  intro word hword
  rcases Vector.mem_append.1 (show word ∈ (_ ++ _ : Vector Word (2 + 4 + 2)) from hword) with h | hc
  · rcases Vector.mem_append.1 h with ha | hb
    · exact hfirst proof.a word ha
    · exact hsecond word hb
  · exact hfirst proof.c word hc

theorem valid_generators : (⟨G1.generator, .infinity, G1.generator⟩ : Proof G1 G2).Valid :=
  have hgenerator : isValid G1.generator = true := by decide
  ⟨hgenerator, G2.isValid_infinity, hgenerator⟩

theorem toWords_generators :
    toWords ⟨G1.generator, .infinity, G1.generator⟩ = #v[1, 2, 0, 0, 0, 0, 1, 2] := by rfl

end Proof

/-- Valid proofs and the words that are read as proofs are in bijection. -/
theorem proof_words_bijective :
    (∀ proof : Proof G1 G2, proof.Valid → Proof.ofWords proof.toWords = .ok proof) ∧
    (∀ w : Vector Word 8, (∃ proof, Proof.ofWords w = .ok proof) ↔
      (∀ word ∈ w, word.toNat < baseModulus) ∧ G1.Written w[0] w[1] ∧
        G2.Written w[2] w[3] w[4] w[5] ∧ G1.Written w[6] w[7]) ∧
    (∀ w proof, Proof.ofWords w = .ok proof → proof.Valid ∧ proof.toWords = w) ∧
    (∀ w w' proof, Proof.ofWords w = .ok proof → Proof.ofWords w' = .ok proof → w = w') ∧
    ∀ proof proof' : Proof G1 G2, proof.Valid → proof'.Valid →
      proof.toWords = proof'.toWords → proof = proof' := by
  refine ⟨fun proof hvalid => Proof.ofWords_eq_ok_iff.2 ⟨hvalid, rfl⟩, fun w => ⟨?_, ?_⟩,
    fun w proof => Proof.ofWords_eq_ok_iff.1, ?_, ?_⟩
  · rintro ⟨proof, hproof⟩
    refine ⟨?_, Proof.exists_ofWords_iff.1 ⟨proof, hproof⟩⟩
    rw [← (Proof.ofWords_eq_ok_iff.1 hproof).2]
    exact proof.toNat_lt_of_mem_toWords
  · rintro ⟨-, hwritten⟩
    exact Proof.exists_ofWords_iff.2 hwritten
  · intro w w' proof hw hw'
    rw [← (Proof.ofWords_eq_ok_iff.1 hw).2, (Proof.ofWords_eq_ok_iff.1 hw').2]
  · intro proof proof' hvalid hvalid' hwords
    have hread := Proof.ofWords_eq_ok_iff.2 ⟨hvalid, rfl⟩
    rw [hwords, Proof.ofWords_eq_ok_iff.2 ⟨hvalid', rfl⟩] at hread
    exact (Except.ok.inj hread).symm

/-- The words of a generator, of infinity and of the generator again. -/
theorem generators_words_bijective :
    Proof.ofWords (Proof.toWords ⟨G1.generator, .infinity, G1.generator⟩) =
        .ok ⟨G1.generator, .infinity, G1.generator⟩ ∧
      Proof.toWords ⟨G1.generator, .infinity, G1.generator⟩ = #v[1, 2, 0, 0, 0, 0, 1, 2] ∧
      ¬ ∃ proof, Proof.ofWords #v[1, 2, 0, 0, 0, 0, 1, 3] = .ok proof := by
  obtain ⟨hread, haccepted, -⟩ := proof_words_bijective
  refine ⟨hread _ Proof.valid_generators, Proof.toWords_generators, ?_⟩
  rw [haccepted]
  rintro ⟨-, -, -, hzero | ⟨a, b, ha, hb, hvalid⟩⟩
  · exact absurd hzero (by decide)
  · have ha' : a = 1 := Residue.ext ha
    have hb' : b = (3 : Nat) := Residue.ext hb
    rw [ha', hb'] at hvalid
    exact absurd hvalid (by decide)

end PreimageProof
