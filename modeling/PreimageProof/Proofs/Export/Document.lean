import Mathlib
import PreimageProof.Export.Document
import PreimageProof.Proofs.Export.Words
import PreimageProof.Proofs.Json.ReadBack
import PreimageProof.Proofs.Text.Decimal

/-!
# Documents come back

A document is read back from its JSON whatever its strings are. The strings of
an exported one are decimal numbers of words, and those are read back digit by
digit; what is left is that words give back the proof and the inputs.
-/

namespace PreimageProof

/-! ## Decimal words -/

namespace Word

/-- Reading fails early where the number would be too large at the end. -/
theorem readDigits_eq_ok_iff {n : Nat} (hn : n < 2 ^ 256) {digits : List Char} {w : Word} :
    readDigits n digits = .ok w ↔ digits.all Text.isDigit = true ∧
      digits.foldl (fun n c => n * 10 + Text.digitValue c) n = w.toNat := by
  induction digits generalizing n with
  | nil =>
      rw [readDigits, Except.ok.injEq, ← BitVec.toNat_inj, BitVec.toNat_ofNat, Nat.mod_eq_of_lt hn]
      simp
  | cons c rest ih =>
      rw [readDigits, List.all_cons, Bool.and_eq_true, List.foldl_cons]
      by_cases hc : Text.isDigit c = true
      · rw [hc, if_neg (by decide), Nat.one_shiftLeft]
        by_cases hfits : n * 10 + Text.digitValue c < 2 ^ 256
        · simp only [if_pos hfits, ih hfits, true_and]
        · simp only [if_neg hfits]
          refine iff_of_false (by simp) fun h => ?_
          have hvalue := h.2
          have hlarge := Text.le_foldl_digits rest (n * 10 + Text.digitValue c)
          have hsmall := w.isLt
          omega
      · rw [Bool.eq_false_iff.2 hc]
        exact iff_of_false (by simp) fun h => absurd h.1.1 (by decide)

theorem ofDecimal_eq_ok_iff {text : String} {w : Word} :
    ofDecimal text = .ok w ↔ text.toList.all Text.isDigit = true ∧
      Text.ofDigits text.toList = w.toNat :=
  readDigits_eq_ok_iff (by decide)

/-- The digits of a word are read as that word. -/
theorem ofDecimal_decimal (w : Word) : ofDecimal w.decimal = .ok w := by
  have htext : w.decimal.toList = Nat.toDigits 10 w.toNat := Nat.toList_repr
  rw [ofDecimal_eq_ok_iff, htext]
  exact ⟨Text.all_isDigit_toDigits _, Text.ofDigits_toDigits _⟩

end Word

theorem Fr.ofWord?_toWord (a : Fr) : Fr.ofWord? a.toWord = some a :=
  (Residue.ofWord?_eq_some_iff Fr.fits_word).2 rfl

namespace ProofDocument

open Json (quoteString separated Blank escapeChar)

/-! ## JSON -/

/-- Entries on lines of their own. -/
theorem lines_eq (indent : Nat) (opening closing : Char) (entries : List (List Char)) :
    ∃ close, Blank close ∧ lines indent opening closing entries =
      opening :: (separated ('\n' :: List.replicate (indent + 2) ' ') entries ++
        (close ++ [closing])) := by
  cases entries with
  | nil => exact ⟨[], List.forall_mem_nil _, rfl⟩
  | cons first rest =>
      exact ⟨'\n' :: List.replicate indent ' ', Json.blank_break indent, by
        simp [lines, separated]⟩

/-- The list of strings as it stands in a document. -/
def strings (xs : List String) : List Char := lines 2 '[' ']' (xs.map quoteString)

theorem strings_eq (xs : List String) : ∃ close, Blank close ∧ strings xs =
    '[' :: (separated ('\n' :: List.replicate 4 ' ') (xs.map quoteString) ++ (close ++ [']'])) :=
  lines_eq 2 '[' ']' (xs.map quoteString)

theorem expectStrings_strings (xs : List String) (rest : List Char) :
    Json.expectStrings (' ' :: (strings xs ++ rest)) = .ok (xs, rest) := by
  obtain ⟨close, hclose, hstrings⟩ := strings_eq xs
  rw [hstrings, List.cons_append, List.append_assoc, List.append_assoc]
  exact Json.expectStrings_separated Json.blank_space (Json.blank_break 4) hclose xs

theorem expectVector_strings {n : Nat} (v : Vector String n) (rest : List Char) :
    Json.expectVector n (' ' :: (strings v.toList ++ rest)) = .ok (v, rest) := by
  obtain ⟨close, hclose, hstrings⟩ := strings_eq v.toList
  rw [hstrings, List.cons_append, List.append_assoc, List.append_assoc]
  exact Json.expectVector_separated Json.blank_space (Json.blank_break 4) hclose v

section

variable {fields : Fields}

theorem readMember_proof (h : fields.proof = none) (v : Vector String 8) (rest : List Char) :
    fields.readMember proofName (':' :: ' ' :: (strings v.toList ++ rest)) =
      .ok ({ fields with proof := some v }, rest) := by
  rw [Fields.readMember, if_pos rfl, h, Json.expectColon_colon]
  show (Json.expectVector 8 _ >>= _) = _
  rw [expectVector_strings]
  rfl

theorem readMember_input (h : fields.input = none) (xs : List String) (rest : List Char) :
    fields.readMember inputName (':' :: ' ' :: (strings xs ++ rest)) =
      .ok ({ fields with input := some xs }, rest) := by
  rw [Fields.readMember, if_neg (by decide), if_pos rfl, h, Json.expectColon_colon]
  show (Json.expectStrings _ >>= _) = _
  rw [expectStrings_strings]
  rfl

theorem readMember_hex (h : fields.fullProofHex = none) (s : String) (rest : List Char) :
    fields.readMember hexName (':' :: ' ' :: (quoteString s ++ rest)) =
      .ok ({ fields with fullProofHex := some s }, rest) := by
  rw [Fields.readMember, if_neg (by decide), if_neg (by decide), if_pos rfl, h,
    Json.expectColon_colon]
  show (Json.expectString _ >>= _) = _
  rw [show Json.expectString (' ' :: (quoteString s ++ rest)) = .ok (s, rest) from
    Json.expectString_quoted Json.blank_space s rest]
  rfl

theorem readMembers_member {fuel : Nat} {first : Bool} {text after rest : List Char}
    {name : String} {fields' : Fields}
    (hnext : Json.nextMember first text =
      .ok (some (name.toList.flatMap escapeChar ++ '"' :: after)))
    (hmember : fields.readMember name after = .ok (fields', rest)) :
    readMembers (fuel + 1) first fields text = readMembers fuel false fields' rest := by
  rw [readMembers, hnext]
  show (Json.readString _ >>= _) = _
  rw [Json.readString_quoted]
  show (fields.readMember name after >>= _) = _
  rw [hmember]
  rfl

end

theorem readMembers_close {close : List Char} (hclose : Blank close) (fuel : Nat) (first : Bool)
    (fields : Fields) (rest : List Char) :
    readMembers (fuel + 1) first fields (close ++ '\x7d' :: rest) = .ok (fields, rest) := by
  rw [readMembers, Json.nextMember_close hclose, Json.skipSpace_append hclose,
    Json.skipSpace_cons (by decide)]
  rfl

theorem member_append (name : String) (value rest : List Char) :
    member name value ++ rest = quoteString name ++ (':' :: ' ' :: (value ++ rest)) := by
  simp [member]

/-- The members of a document, in the order in which they are written. -/
def members (doc : ProofDocument) : List (List Char) :=
  [member proofName (strings doc.proof.toList), member inputName (strings doc.input),
    member hexName (quoteString doc.fullProofHex)]

theorem separated_members_append (blank rest : List Char) (doc : ProofDocument) :
    separated blank (members doc) ++ rest =
      blank ++ (quoteString proofName ++ ':' :: ' ' :: (strings doc.proof.toList ++
        ',' :: (blank ++ (quoteString inputName ++ ':' :: ' ' :: (strings doc.input ++
          ',' :: (blank ++ (quoteString hexName ++ ':' :: ' ' ::
            (quoteString doc.fullProofHex ++ rest)))))))) := by
  simp only [members, separated, List.flatMap_cons, List.flatMap_nil, List.append_nil,
    List.append_assoc, List.cons_append, member_append]

theorem readObject_members {blank close : List Char} (hblank : Blank blank) (hclose : Blank close)
    (doc : ProofDocument) (rest : List Char) :
    readObject (separated blank (members doc) ++ (close ++ '\x7d' :: rest)) = .ok (doc, rest) := by
  -- The colons and commas alone are fuel enough for three members and the end.
  obtain ⟨fuel, hfuel⟩ : ∃ fuel,
      (separated blank (members doc) ++ (close ++ '\x7d' :: rest)).length = fuel + 3 := by
    refine ⟨_ - 3, (Nat.sub_add_cancel ?_).symm⟩
    simp only [separated_members_append, List.length_append, List.length_cons]
    omega
  rw [readObject, hfuel, separated_members_append,
    readMembers_member (Json.nextMember_first hblank _ _) (readMember_proof rfl _ _),
    readMembers_member (Json.nextMember_comma hblank _ _) (readMember_input rfl _ _),
    readMembers_member (Json.nextMember_comma hblank _ _) (readMember_hex rfl _ _),
    readMembers_close hclose]
  rfl

/-- A document is read back from its JSON. -/
theorem ofJson_toJson (doc : ProofDocument) : ofJson doc.toJson = .ok doc := by
  obtain ⟨close, hclose, hlines⟩ := lines_eq 0 '\x7b' '\x7d' (members doc)
  have htext : doc.toJson.toList = lines 0 '\x7b' '\x7d' (members doc) := by
    rw [toJson, String.toList_ofList]
    rfl
  rw [ofJson, htext, hlines, Json.skipSpace_cons (by decide)]
  show (readObject _ >>= _) = _
  rw [readObject_members (Json.blank_break 2) hclose]
  rfl

/-! ## From the proof to the document and back -/

theorem readWord_decimal (w : Word) : readWord w.decimal = .ok w := by
  rw [readWord, Word.ofDecimal_decimal]
  rfl

theorem readInput_eq_ok_iff {text : String} {a : Fr} :
    readInput text = .ok a ↔ Word.ofDecimal text = .ok a.toWord := by
  rw [readInput, bind_eq_ok_iff]
  constructor
  · rintro ⟨w, hw, h⟩
    cases hscalar : Fr.ofWord? w with
    | none => rw [hscalar] at h; cases h
    | some a' =>
        rw [hscalar] at h
        cases h
        rw [(Residue.ofWord?_eq_some_iff Fr.fits_word).1 hscalar]
        exact mapError_eq_ok_iff.1 hw
  · intro h
    refine ⟨a.toWord, mapError_eq_ok_iff.2 h, ?_⟩
    rw [Fr.ofWord?_toWord]
    rfl

theorem readInput_decimal (a : Fr) : readInput a.toWord.decimal = .ok a :=
  readInput_eq_ok_iff.2 (Word.ofDecimal_decimal a.toWord)

/-- The document of a valid proof is parsed as that proof and its inputs. -/
theorem parse_ofProof {proof : Proof G1 G2} (hvalid : proof.Valid) (publics : PublicWitness) :
    (ofProof proof publics).parse = .ok (proof, publics) := by
  have hwords : (ofProof proof publics).proof.mapM readWord = .ok proof.toWords :=
    vector_mapM_map_of_inverse readWord_decimal proof.toWords
  have hproof : Proof.ofWords proof.toWords = .ok proof := Proof.ofWords_eq_ok_iff.2 ⟨hvalid, rfl⟩
  have hinputs : (ofProof proof publics).input.mapM readInput = .ok publics.inputs :=
    mapM_map_of_inverse readInput_decimal publics.inputs
  simp only [parse, bind_eq_ok_iff]
  exact ⟨_, hwords, _, hproof, _, hinputs, rfl⟩

end ProofDocument

end PreimageProof
