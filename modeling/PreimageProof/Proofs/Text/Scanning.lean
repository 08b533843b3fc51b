import Mathlib
import PreimageProof.Proofs.Text.Decimal

/-!
# Scanning what was printed

A scanner takes from the front of a text what it expects there: given words,
or a number together with the words behind it, which have to begin with
something other than a digit for the number to end where it was ended in
print. `Scans` says which text a scanner turns into which value, whatever
comes after it, and sequences of scans follow sequences of texts, so that a
proof about a scanner has the shape of the scanner.
-/

namespace PreimageProof

namespace Text

/-- What is left of a text behind the part that has been scanned. -/
abbrev Scan : Type → Type := StateT (List Char) Option

namespace Scan

/-- These words. -/
def words (s : String) : Scan Unit :=
  fun text => (text.dropPrefix? s.toList).map fun rest => ((), rest)

/-- As many digits as there are. -/
def digits : Scan (List Char) := fun text => some (text.takeWhile isDigit, text.dropWhile isDigit)

/-- A number, and the words behind it. -/
def numberBefore (behind : String) : Scan Nat := do
  let taken ← digits
  if taken = [] then failure
  words behind
  return ofDigits taken

/-- These lines. -/
def lines : List String → Scan Unit
  | [] => return ()
  | line :: rest => do
      words (line ++ "\n")
      lines rest

end Scan

/-- The text of lines. -/
def ofLines (lines : List String) : String := String.join (lines.map fun line => line ++ "\n")

theorem ofLines_nil : ofLines [] = "" := rfl

theorem ofLines_cons (line : String) (rest : List String) :
    ofLines (line :: rest) = line ++ "\n" ++ ofLines rest := by
  simp [ofLines]

theorem ofLines_append (front back : List String) :
    ofLines (front ++ back) = ofLines front ++ ofLines back := by
  simp [ofLines]

/-- From `text` the scanner gets `x`, whatever follows. -/
def Scans {α : Type} (scan : Scan α) (text : String) (x : α) : Prop :=
  ∀ rest, scan.run (text.toList ++ rest) = some (x, rest)

namespace Scans

variable {α β : Type} {scan : Scan α} {next : α → Scan β} {front back : String} {x : α} {y : β}

theorem pure (x : α) : Scans (Pure.pure x) "" x := fun _ => rfl

theorem bind (hscan : Scans scan front x) (hnext : Scans (next x) back y) :
    Scans (scan >>= next) (front ++ back) y := by
  intro rest
  rw [StateT.run_bind, String.toList_append, List.append_assoc, hscan]
  exact hnext rest

/-- The last scanner of a sequence leaves nothing to its continuation. -/
theorem map (hscan : Scans scan front x) (hnext : Scans (next x) "" y) :
    Scans (scan >>= next) front y := by
  have h := hscan.bind hnext
  rwa [String.append_empty] at h

theorem words (s : String) : Scans (Scan.words s) s () := by
  intro rest
  have hdrop : (s.toList ++ rest).dropPrefix? s.toList = some rest :=
    List.dropPrefix?_append_of_beq rest BEq.rfl
  rw [StateT.run, Scan.words, hdrop, Option.map_some]

theorem run_digits {printed : List Char} (hprinted : printed.all isDigit = true) {c : Char}
    (hc : isDigit c = false) (rest : List Char) :
    Scan.digits.run (printed ++ c :: rest) = some (printed, c :: rest) := by
  have hall := List.all_eq_true.1 hprinted
  have hstop : ¬ isDigit c = true := by rw [hc]; exact Bool.false_ne_true
  rw [StateT.run, Scan.digits, List.takeWhile_append_of_pos hall, List.dropWhile_append_of_pos hall,
    List.takeWhile_cons_of_neg hstop, List.dropWhile_cons_of_neg hstop, List.append_nil]

/-- The number that was printed, if no digit follows it. -/
theorem numberBefore (n : Nat) {behind : String}
    (hbehind : behind.toList.head?.all isDigit = false) :
    Scans (Scan.numberBefore behind) (toString n ++ behind) n := by
  intro rest
  cases htext : behind.toList with
  | nil =>
      rw [htext] at hbehind
      cases hbehind
  | cons c more =>
      have hc : isDigit c = false := by rwa [htext] at hbehind
      have hdigits := run_digits (all_isDigit_toDigits n) hc (more ++ rest)
      rw [← List.cons_append, ← htext] at hdigits
      have hwords : Scans (Scan.words behind >>= fun _ => Pure.pure (ofDigits (Nat.toDigits 10 n)))
          behind n := (words behind).map (by rw [ofDigits_toDigits]; exact pure n)
      rw [Scan.numberBefore, String.toList_append, Nat.toString_eq_repr, Nat.toList_repr,
        List.append_assoc, StateT.run_bind, hdigits, Option.bind_eq_bind, Option.bind_some,
        if_neg Nat.toDigits_ne_nil]
      exact hwords rest

theorem lines (ls : List String) : Scans (Scan.lines ls) (ofLines ls) () := by
  induction ls with
  | nil => exact Scans.pure ()
  | cons line rest ih =>
      rw [ofLines_cons]
      exact (Scans.words _).bind ih

end Scans

end Text

end PreimageProof
