import Mathlib
import PreimageProof.CommandLine.Scalar
import PreimageProof.Proofs.Codec.Element
import PreimageProof.Proofs.Field.Ring
import PreimageProof.Proofs.Text.Decimal

/-!
# Scalars have one spelling

A scalar is accepted in decimal digits, and what is printed of it are these
digits without the zeros in front. Another way to the same grammar is to leave
the reading to a library, whatever else that library takes for a number, and
to compare what is printed of its answer with what was given to it: signs,
underscores and numbers that had to be reduced are not printed, so they are
not accepted. Of the library only this is used, that it reads what is printed
of a number as that number modulo the order of the field.
-/

namespace PreimageProof

/-! ## Integers as a library reads them -/

namespace Text

/-- A number in digits, with underscores anywhere but in front. -/
def natural? (text : List Char) : Option Nat :=
  match text with
  | [] => none
  | c :: rest =>
      if isDigit c && rest.all (fun c => isDigit c || c == '_') then
        some (ofDigits (text.filter isDigit))
      else none

/-- A number behind at most one sign. -/
def integer? (text : List Char) : Option Int :=
  match text with
  | '-' :: rest => (natural? rest).map fun n => -Int.ofNat n
  | '+' :: rest => (natural? rest).map Int.ofNat
  | _ => (natural? text).map Int.ofNat

theorem natural?_of_digits {text : List Char} (hne : text ≠ []) (h : text.all isDigit = true) :
    natural? text = some (ofDigits text) := by
  have hfilter : text.filter isDigit = text := List.filter_eq_self.2 (List.all_eq_true.1 h)
  cases text with
  | nil => exact absurd rfl hne
  | cons c rest =>
      rw [List.all_cons, Bool.and_eq_true] at h
      have hrest : (rest.all fun c => isDigit c || c == '_') = true :=
        List.all_eq_true.2 fun d hd => by rw [List.all_eq_true.1 h.2 d hd, Bool.true_or]
      rw [natural?, h.1, hrest, Bool.and_self, if_pos rfl, hfilter]

theorem integer?_of_digits {text : List Char} (hne : text ≠ []) (h : text.all isDigit = true) :
    integer? text = some (Int.ofNat (ofDigits text)) := by
  unfold integer?
  split
  · cases h
  · cases h
  · rw [natural?_of_digits hne h, Option.map_some]

end Text

namespace Fr

/-! ## Reading the digits -/

theorem toList_decimal (x : Fr) : x.decimal.toList = Nat.toDigits 10 x.val := Nat.toList_repr

theorem ofDecimal_of_digits {text : String} (hne : text ≠ "")
    (hdigits : text.toList.all Text.isDigit = true) :
    ofDecimal text =
      match Residue.ofNat? scalarModulus (Text.ofDigits text.toList) with
      | some x => .ok x
      | none => .error (.tooLarge text) :=
  if_neg (by simp [hne, hdigits])

theorem ofDecimal_of_not_digits {text : String}
    (h : ¬(text ≠ "" ∧ text.toList.all Text.isDigit = true)) :
    ofDecimal text = .error (.notDecimal text) :=
  if_pos (by simpa [or_iff_not_imp_left] using h)

theorem ofDecimal_eq_ok_iff {text : String} {x : Fr} :
    ofDecimal text = .ok x ↔ Text.Denotes text x.val := by
  by_cases h : text ≠ "" ∧ text.toList.all Text.isDigit = true
  · rw [ofDecimal_of_digits h.1 h.2, Text.Denotes, and_iff_right h.1, and_iff_right h.2,
      @eq_comm _ _ x.val, ← Residue.ofNat?_eq_some_iff]
    cases Residue.ofNat? scalarModulus (Text.ofDigits text.toList) <;> simp
  · rw [ofDecimal_of_not_digits h]
    exact iff_of_false (fun heq => by cases heq) fun hd => h ⟨hd.1, hd.2.1⟩

/-! ## Reading with a library -/

/-- The scalar that a library reads from the text without the zeros in front, if
it is printed as that text. -/
def ofRendering (read : List Char → Option Fr) (text : String) : Except ScalarFault Fr :=
  let digits := Text.significant text.toList
  match read digits with
  | none => .error (.notDecimal text)
  | some x => if x.decimal.toList = digits then .ok x else .error (.tooLarge text)

/-- What is printed of a number is read as that number, reduced. -/
def ReadsDecimals (read : List Char → Option Fr) : Prop :=
  ∀ n : Nat, read (Nat.toDigits 10 n) = some (n : Fr)

/-- An integer, reduced. -/
def ofInteger? (text : List Char) : Option Fr := (Text.integer? text).map fun n : Int => (n : Fr)

theorem readsDecimals_ofInteger? : ReadsDecimals ofInteger? := by
  intro n
  rw [ofInteger?, Text.integer?_of_digits Nat.toDigits_ne_nil (Text.all_isDigit_toDigits n),
    Text.ofDigits_toDigits, Option.map_some, Int.ofNat_eq_natCast, Int.cast_natCast]

theorem natCast_val (x : Fr) : ((x.val : Nat) : Fr) = x :=
  Residue.ext (Nat.mod_eq_of_lt x.val_lt)

theorem ofRendering_eq_ok_iff {read : List Char → Option Fr} (hread : ReadsDecimals read)
    {text : String} {x : Fr} : ofRendering read text = .ok x ↔ Text.Denotes text x.val := by
  rw [Text.denotes_iff_significant]
  constructor
  · intro h
    rw [ofRendering] at h
    split at h
    · cases h
    · next y hy =>
        split at h
        · next heq =>
            cases h
            rw [← heq, toList_decimal]
        · cases h
  · intro h
    have hx : read (Text.significant text.toList) = some x := by
      rw [h, hread, natCast_val]
    rw [ofRendering, hx]
    exact if_pos (h ▸ toList_decimal x)

/-- A library that takes only digits refuses with the same words, too. -/
theorem ofRendering_eq_ofDecimal {read : List Char → Option Fr} (hread : ReadsDecimals read)
    (hdigits : ∀ text x, read text = some x → text ≠ [] ∧ text.all Text.isDigit = true)
    (text : String) : ofRendering read text = ofDecimal text := by
  by_cases h : text ≠ "" ∧ text.toList.all Text.isDigit = true
  · have hprinted : Text.significant text.toList = Nat.toDigits 10 (Text.ofDigits text.toList) :=
      Text.denotes_iff_significant.1 ⟨h.1, h.2, rfl⟩
    cases hof : Residue.ofNat? scalarModulus (Text.ofDigits text.toList) with
    | some x =>
        have hdenotes : Text.Denotes text x.val :=
          ⟨h.1, h.2, (Residue.ofNat?_eq_some_iff.1 hof).symm⟩
        rw [(ofRendering_eq_ok_iff hread).2 hdenotes, ofDecimal_eq_ok_iff.2 hdenotes]
    | none =>
        have hreduced : ((Text.ofDigits text.toList : Nat) : Fr).decimal.toList ≠
            Nat.toDigits 10 (Text.ofDigits text.toList) := by
          rw [toList_decimal, Ne, Text.toDigits_injective.eq_iff, ← Residue.ofNat?_eq_some_iff, hof]
          exact Option.some_ne_none _ ∘ Eq.symm
        rw [ofRendering, hprinted, hread, ofDecimal_of_digits h.1 h.2, hof]
        exact if_neg hreduced
  · have hnone : read (Text.significant text.toList) = none := by
      cases hx : read (Text.significant text.toList) with
      | none => rfl
      | some x =>
          obtain ⟨hne, hall⟩ := hdigits _ _ hx
          rw [Text.all_isDigit_significant] at hall
          rw [ne_eq, Text.significant_eq_nil_iff, String.toList_eq_nil_iff] at hne
          exact absurd ⟨hne, hall⟩ h
    rw [ofRendering, hnone, ofDecimal_of_not_digits h]

/-- Digits and nothing else, reduced. -/
def ofPlain? (text : List Char) : Option Fr :=
  if text ≠ [] ∧ text.all Text.isDigit = true then some (Text.ofDigits text : Nat) else none

theorem ofRendering_ofPlain? (text : String) : ofRendering ofPlain? text = ofDecimal text := by
  refine ofRendering_eq_ofDecimal (fun n => ?_) (fun digits x h => ?_) text
  · rw [ofPlain?, if_pos ⟨Nat.toDigits_ne_nil, Text.all_isDigit_toDigits n⟩,
      Text.ofDigits_toDigits]
  · by_contra hnot
    rw [ofPlain?, if_neg hnot] at h
    cases h

/-! ## The grammar of scalars -/

/-- A scalar is given by digits, at least one of them, that write a number below
the order of the field, with zeros in front or not; its value is that number,
and nothing else is accepted. Comparing what is printed of a library's answer
accepts the same, though the library takes integers with signs and underscores
and reduces them. What is printed of a scalar is what it was given by, without
the zeros in front. -/
theorem scalar_argument_exact (text : String) :
    (∀ x, ofDecimal text = .ok x ↔
      text ≠ "" ∧ (∀ c ∈ text.toList, c.isDigit = true) ∧
        Nat.ofDigitChars 10 text.toList 0 < scalarModulus ∧
        x.val = Nat.ofDigitChars 10 text.toList 0) ∧
    ((∃ fault, ofDecimal text = .error fault) ↔
      ¬(text ≠ "" ∧ (∀ c ∈ text.toList, c.isDigit = true) ∧
        Nat.ofDigitChars 10 text.toList 0 < scalarModulus)) ∧
    (∀ read, ReadsDecimals read →
      ∀ x, ofRendering read text = .ok x ↔ ofDecimal text = .ok x) ∧
    ReadsDecimals ofInteger? ∧
    ∀ x, ofDecimal text = .ok x → x.decimal.toList = Text.significant text.toList := by
  have hok : ∀ x, ofDecimal text = .ok x ↔
      text ≠ "" ∧ (∀ c ∈ text.toList, c.isDigit = true) ∧
        Nat.ofDigitChars 10 text.toList 0 < scalarModulus ∧
        x.val = Nat.ofDigitChars 10 text.toList 0 := by
    intro x
    rw [ofDecimal_eq_ok_iff, Text.Denotes, Text.all_isDigit_iff, Text.ofDigits_eq]
    constructor
    · rintro ⟨hne, hdigits, hvalue⟩
      exact ⟨hne, hdigits, hvalue ▸ x.val_lt, hvalue.symm⟩
    · rintro ⟨hne, hdigits, -, hvalue⟩
      exact ⟨hne, hdigits, hvalue.symm⟩
  refine ⟨hok, ?_, fun read hread x => ?_, readsDecimals_ofInteger?, fun x h => ?_⟩
  · constructor
    · rintro ⟨fault, hfault⟩ ⟨hne, hdigits, hlt⟩
      have haccepted :=
        (hok (Nat.ofDigitChars 10 text.toList 0 : Nat)).2 ⟨hne, hdigits, hlt, Nat.mod_eq_of_lt hlt⟩
      rw [hfault] at haccepted
      cases haccepted
    · intro hnot
      cases hresult : ofDecimal text with
      | error fault => exact ⟨fault, rfl⟩
      | ok x =>
          obtain ⟨hne, hdigits, hlt, -⟩ := (hok x).1 hresult
          exact absurd ⟨hne, hdigits, hlt⟩ hnot
  · rw [ofRendering_eq_ok_iff hread, ofDecimal_eq_ok_iff]
  · rw [ofDecimal_eq_ok_iff, Text.denotes_iff_significant] at h
    rw [h, toList_decimal]

/-- Seven behind zeros is seven, printed without them. Five behind a sign is read
by the library, but not accepted. -/
theorem scalar_argument_seven :
    ofDecimal "007" = .ok ((7 : Nat) : Fr) ∧
      ofRendering ofInteger? "007" = .ok ((7 : Nat) : Fr) ∧
      ((7 : Nat) : Fr).decimal.toList = ['7'] ∧
      ofInteger? "+5".toList = some ((5 : Nat) : Fr) ∧
      ∀ x, ofRendering ofInteger? "+5" ≠ .ok x := by
  obtain ⟨haccepted, -, hlibrary, hreads, hprinted⟩ := scalar_argument_exact "007"
  obtain ⟨-, hsigned, hlibrary', -, -⟩ := scalar_argument_exact "+5"
  have hvalue : Nat.ofDigitChars 10 "007".toList 0 = 7 := rfl
  have hseven : ofDecimal "007" = .ok ((7 : Nat) : Fr) :=
    (haccepted _).2 ⟨by decide, by simp, by rw [hvalue]; decide, by rw [hvalue]; rfl⟩
  refine ⟨hseven, (hlibrary _ hreads _).2 hseven, hprinted _ hseven, rfl, fun x hx => ?_⟩
  obtain ⟨fault, hfault⟩ := hsigned.2 fun h => absurd (h.2.1 '+' (by simp)) (by decide)
  rw [(hlibrary' _ hreads x).1 hx] at hfault
  cases hfault

end Fr

end PreimageProof
