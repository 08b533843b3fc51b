import Mathlib
import PreimageProof.Text.Digits

/-!
# Decimal numbers as texts

Numbers are printed by the standard library, and digits are read one by one.
Reading what was printed gives the number back. The other way round, digits
are what is printed of their number once the zeros in front of them are taken
off: a text stands for a number exactly when what is left of it is the number
in print.
-/

namespace PreimageProof

namespace Text

/-- The text is the number in decimal digits, perhaps behind zeros. -/
def Denotes (text : String) (n : Nat) : Prop :=
  text ≠ "" ∧ text.toList.all isDigit = true ∧ ofDigits text.toList = n

instance (text : String) (n : Nat) : Decidable (Denotes text n) :=
  inferInstanceAs (Decidable (_ ∧ _ ∧ _))

/-- More digits do not make a number smaller. -/
theorem le_foldl_digits (digits : List Char) (n : Nat) :
    n ≤ digits.foldl (fun n c => n * 10 + digitValue c) n := by
  induction digits generalizing n with
  | nil => exact Nat.le_refl n
  | cons c rest ih =>
      have hnext := ih (n * 10 + digitValue c)
      rw [List.foldl_cons]
      omega

/-! ## The digits and numbers of the standard library -/

theorem ofDigits_eq (digits : List Char) : ofDigits digits = Nat.ofDigitChars 10 digits 0 := by
  simp only [ofDigits, Nat.ofDigitChars, digitValue, Nat.mul_comm]

theorem all_isDigit_iff {digits : List Char} :
    digits.all isDigit = true ↔ ∀ c ∈ digits, c.isDigit = true := List.all_eq_true

theorem ofDigits_toDigits (n : Nat) : ofDigits (Nat.toDigits 10 n) = n := by
  rw [ofDigits_eq, Nat.ofDigitChars_ten_toDigits]

theorem all_isDigit_toDigits (n : Nat) : (Nat.toDigits 10 n).all isDigit = true :=
  all_isDigit_iff.2 fun _ hc => Nat.isDigit_of_mem_toDigits (by decide) (by decide) hc

theorem toDigits_injective : Function.Injective (Nat.toDigits 10) :=
  Function.LeftInverse.injective ofDigits_toDigits

theorem digitChar_digitValue {c : Char} (hc : isDigit c = true) :
    Nat.digitChar (digitValue c) = c ∧ digitValue c < 10 := by
  have hbounds : 48 ≤ c.toNat ∧ c.toNat ≤ 57 := by
    simpa [isDigit, Char.le_def, UInt32.le_iff_toNat_le] using hc
  have hvalue : digitValue c = c.toNat - 48 := rfl
  have hlt : digitValue c < 10 := by omega
  refine ⟨Char.toNat_inj.1 ?_, hlt⟩
  rw [Nat.toNat_digitChar_of_lt_ten hlt]
  omega

theorem digitValue_pos {c : Char} (hc : isDigit c = true) (hne : c ≠ '0') : 0 < digitValue c := by
  refine Nat.pos_of_ne_zero fun hzero => hne ?_
  rw [← (digitChar_digitValue hc).1, hzero]
  rfl

/-! ## Zeros in front -/

/-- A text without the zeros in front of it, of which one is left if there is
nothing else. -/
def significant (text : List Char) : List Char :=
  match text.dropWhile (· = '0') with
  | [] => if text = [] then [] else ['0']
  | digits => digits

theorem significant_zero_cons (c : Char) (rest : List Char) :
    significant ('0' :: c :: rest) = significant (c :: rest) := by
  simp [significant]

theorem significant_cons {c : Char} (hc : c ≠ '0') (rest : List Char) :
    significant (c :: rest) = c :: rest := by
  simp [significant, hc]

theorem significant_eq_nil_iff {text : List Char} : significant text = [] ↔ text = [] := by
  unfold significant
  split
  · split <;> simp_all
  · next hne => exact iff_of_false hne fun h => hne (by rw [h]; rfl)

theorem all_isDigit_significant (text : List Char) :
    (significant text).all isDigit = text.all isDigit := by
  induction text with
  | nil => rfl
  | cons c rest ih =>
      by_cases hc : c = '0'
      · subst hc
        cases rest with
        | nil => rfl
        | cons c rest =>
            rw [significant_zero_cons, ih]
            rfl
      · rw [significant_cons hc]

/-- Digits behind a number that is not zero. -/
theorem toDigits_foldl {digits : List Char} (hdigits : digits.all isDigit = true) {n : Nat}
    (hn : 0 < n) :
    Nat.toDigits 10 (digits.foldl (fun n c => n * 10 + digitValue c) n) =
      Nat.toDigits 10 n ++ digits := by
  induction digits generalizing n with
  | nil => rw [List.foldl_nil, List.append_nil]
  | cons c rest ih =>
      rw [List.all_cons, Bool.and_eq_true] at hdigits
      obtain ⟨hchar, hvalue⟩ := digitChar_digitValue hdigits.1
      have hstep := Nat.toDigits_append_toDigits (b := 10) (by decide) hn hvalue
      rw [Nat.toDigits_of_lt_base hvalue, hchar, mul_comm] at hstep
      rw [List.foldl_cons, ih hdigits.2 (by omega), ← hstep, List.append_assoc]
      rfl

/-- What is printed of a number, up to zeros in front, is a text of digits with
that number for its value. -/
theorem significant_eq_toDigits_iff {text : List Char} {n : Nat} :
    significant text = Nat.toDigits 10 n ↔
      text ≠ [] ∧ text.all isDigit = true ∧ ofDigits text = n := by
  induction text with
  | nil => exact iff_of_false (fun h => Nat.toDigits_ne_nil h.symm) fun h => h.1 rfl
  | cons c rest ih =>
      rw [and_iff_right (List.cons_ne_nil c rest)]
      by_cases hc : c = '0'
      · subst hc
        cases rest with
        | nil =>
            have hzero : significant ['0'] = Nat.toDigits 10 0 := rfl
            rw [hzero, toDigits_injective.eq_iff]
            exact (and_iff_right rfl).symm
        | cons c rest =>
            rw [significant_zero_cons, ih, and_iff_right (List.cons_ne_nil c rest)]
            rfl
      · rw [significant_cons hc]
        constructor
        · intro h
          rw [h]
          exact ⟨all_isDigit_toDigits n, ofDigits_toDigits n⟩
        · rintro ⟨hdigits, rfl⟩
          rw [List.all_cons, Bool.and_eq_true] at hdigits
          obtain ⟨hchar, hvalue⟩ := digitChar_digitValue hdigits.1
          rw [ofDigits, List.foldl_cons, Nat.zero_mul, Nat.zero_add,
            toDigits_foldl hdigits.2 (digitValue_pos hdigits.1 hc),
            Nat.toDigits_of_lt_base hvalue, hchar]
          rfl

theorem denotes_iff_significant {text : String} {n : Nat} :
    Denotes text n ↔ significant text.toList = Nat.toDigits 10 n := by
  rw [significant_eq_toDigits_iff, Denotes, ne_eq, ne_eq, String.toList_eq_nil_iff]

end Text

end PreimageProof
