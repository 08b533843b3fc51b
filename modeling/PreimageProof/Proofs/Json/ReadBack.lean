import Mathlib
import PreimageProof.Json.Quote
import PreimageProof.Json.Read

/-!
# Reading back what was written

Escaping a string and reading it agree character by character: behind the
escape of a character the reader stands where it stood before, with that
character added to what it has read. White space is passed over wherever it
may stand, so how a list is broken into lines does not matter; of the separators
only the commas are looked at.
-/

namespace PreimageProof

namespace Json

/-! ## Strings -/

theorem hexValue?_hexDigit (n : Nat) : hexValue? (Bytes.hexDigit n) = some (n % 16) := by
  have hdigit : ∀ k : Fin 16, hexValue? (Nat.digitChar k) = some (k : Nat) := by decide
  exact hdigit ⟨n % 16, Nat.mod_lt _ (by decide)⟩

variable {done rest : List Char}

theorem scanString_escape {c e : Char} (hc : c ≠ 'u') (he : escaped? c = some e) :
    scanString true done .plain ('\\' :: c :: rest) = scanString true (e :: done) .plain rest := by
  simp [scanString, hc, he]

theorem scanString_plain {c : Char} (hquote : c ≠ '"') (hescape : c ≠ '\\')
    (hcontrol : ¬ c.toNat < 0x20) :
    scanString true done .plain (c :: rest) = scanString true (c :: done) .plain rest := by
  simp [scanString, hquote, hescape, hcontrol]

theorem scanString_control {c : Char} (h : c.toNat < 0x20) :
    scanString true done .plain ('\\' :: 'u' :: '0' :: '0' :: Bytes.hexDigit (c.toNat / 16) ::
      Bytes.hexDigit c.toNat :: rest) = scanString true (c :: done) .plain rest := by
  have hzero : hexValue? '0' = some 0 := by decide
  have hnumber : (c.toNat / 16 % 16) * 16 + c.toNat % 16 = c.toNat := by omega
  have hpair : isTrail c.toNat = false ∧ isLead c.toNat = false := by
    simp [isTrail, isLead]
    omega
  simp [scanString, hzero, hexValue?_hexDigit, hnumber, completeDigits, hpair]

theorem scanString_escapeChar (c : Char) :
    scanString true done .plain (escapeChar c ++ rest) =
      scanString true (c :: done) .plain rest := by
  unfold escapeChar
  split
  case h_8 hquote hescape _ _ _ _ _ =>
    split
    · next h => exact scanString_control h
    · next h => exact scanString_plain hquote hescape h
  all_goals
    simp only [List.cons_append, List.nil_append]
    exact scanString_escape (by decide) (by decide)

theorem scanString_escaped (cs : List Char) :
    scanString true done .plain (cs.flatMap escapeChar ++ '"' :: rest) =
      .ok (String.ofList (done.reverse ++ cs), rest) := by
  induction cs generalizing done with
  | nil => simp [scanString]
  | cons c cs ih =>
      rw [List.flatMap_cons, List.append_assoc, scanString_escapeChar, ih, List.reverse_cons,
        List.append_assoc, List.singleton_append]

/-- The text behind the opening quote of a string. -/
theorem readString_quoted (s : String) :
    readString (s.toList.flatMap escapeChar ++ '"' :: rest) = .ok (s, rest) := by
  rw [readString, scanString_escaped, List.reverse_nil, List.nil_append, String.ofList_toList]

theorem quoteString_append (s : String) (rest : List Char) :
    quoteString s ++ rest = '"' :: (s.toList.flatMap escapeChar ++ '"' :: rest) := by
  simp [quoteString]

/-! ## White space -/

/-- Nothing but white space. -/
def Blank (text : List Char) : Prop := ∀ c ∈ text, isSpace c = true

theorem skipSpace_append {blank : List Char} (h : Blank blank) (text : List Char) :
    skipSpace (blank ++ text) = skipSpace text :=
  List.dropWhile_append_of_pos h

theorem skipSpace_cons {c : Char} (h : isSpace c = false) (text : List Char) :
    skipSpace (c :: text) = c :: text :=
  List.dropWhile_cons_of_neg (by simp [h])

theorem blank_break (n : Nat) : Blank ('\n' :: List.replicate n ' ') := by
  intro c hc
  rcases List.mem_cons.1 hc with rfl | hc
  · decide
  · rw [List.eq_of_mem_replicate hc]
    decide

theorem blank_space : Blank [' '] := by
  intro c hc
  rw [List.mem_singleton.1 hc]
  decide

/-- An entry that begins with a quote is where white space ends. -/
theorem skipSpace_quoted {blank : List Char} (h : Blank blank) (s : String) (rest : List Char) :
    skipSpace (blank ++ (quoteString s ++ rest)) =
      '"' :: (s.toList.flatMap escapeChar ++ '"' :: rest) := by
  rw [skipSpace_append h, quoteString_append, skipSpace_cons (by decide)]

theorem expectString_quoted {blank : List Char} (h : Blank blank) (s : String)
    (rest : List Char) : expectString (blank ++ (quoteString s ++ rest)) = .ok (s, rest) := by
  rw [expectString, skipSpace_quoted h]
  exact readString_quoted s

theorem expectString_quoteString (s : String) (rest : List Char) :
    expectString (quoteString s ++ rest) = .ok (s, rest) :=
  expectString_quoted (List.forall_mem_nil _) s rest

/-! ## Lists of strings -/

/-- Entries with commas between them, each behind the same white space. -/
def separated (blank : List Char) : List (List Char) → List Char
  | [] => []
  | first :: rest => blank ++ first ++ rest.flatMap fun entry => ',' :: (blank ++ entry)

/-- The strings behind the first one, as they stand in a list. -/
def laterStrings (blank : List Char) (xs : List String) : List Char :=
  (xs.map quoteString).flatMap fun entry => ',' :: (blank ++ entry)

section

variable {blank close : List Char}

theorem laterStrings_cons (blank : List Char) (s : String) (xs : List String)
    (rest : List Char) :
    laterStrings blank (s :: xs) ++ rest =
      ',' :: (blank ++ (quoteString s ++ (laterStrings blank xs ++ rest))) := by
  simp [laterStrings]

theorem separated_cons (s : String) (xs : List String) (rest : List Char) :
    separated blank ((s :: xs).map quoteString) ++ rest =
      blank ++ (quoteString s ++ (laterStrings blank xs ++ rest)) := by
  simp [separated, laterStrings]

theorem nextEntry_first (h : Blank blank) (s : String) (rest : List Char) :
    nextEntry true (blank ++ (quoteString s ++ rest)) = .ok (some (quoteString s ++ rest)) := by
  rw [nextEntry, skipSpace_quoted h, quoteString_append]
  rfl

theorem nextEntry_comma (h : Blank blank) (s : String) (rest : List Char) :
    nextEntry false (',' :: (blank ++ (quoteString s ++ rest))) =
      .ok (some (quoteString s ++ rest)) := by
  rw [nextEntry, skipSpace_cons (by decide)]
  simpa [skipSpace_quoted h] using (quoteString_append s rest).symm

theorem nextEntry_close (h : Blank close) (first : Bool) (rest : List Char) :
    nextEntry first (close ++ ']' :: rest) = .ok none := by
  rw [nextEntry, skipSpace_append h, skipSpace_cons (by decide)]
  rfl

theorem closeList_close (h : Blank close) (rest : List Char) :
    closeList (close ++ ']' :: rest) = .ok rest := by
  rw [closeList, skipSpace_append h, skipSpace_cons (by decide)]
  rfl

theorem readStrings_entry {first : Bool} {text : List Char} {s : String} (fuel : Nat)
    (h : nextEntry first text = .ok (some (quoteString s ++ rest))) :
    readStrings (fuel + 1) first text =
      (do
        let (later, text) ← readStrings fuel false rest
        return (s :: later, text)) := by
  rw [readStrings, h]
  show (expectString _ >>= _) = _
  rw [expectString_quoteString]
  rfl

theorem readStrings_close (h : Blank close) (first : Bool) (fuel : Nat) :
    readStrings (fuel + 1) first (close ++ ']' :: rest) = .ok ([], close ++ ']' :: rest) := by
  rw [readStrings, nextEntry_close h]
  rfl

theorem readStrings_later (h : Blank blank) (hclose : Blank close) (xs : List String) {fuel : Nat}
    (hfuel : xs.length ≤ fuel) :
    readStrings (fuel + 1) false (laterStrings blank xs ++ (close ++ ']' :: rest)) =
      .ok (xs, close ++ ']' :: rest) := by
  induction xs generalizing fuel with
  | nil => exact readStrings_close hclose false fuel
  | cons s xs ih =>
      obtain ⟨fuel, rfl⟩ := Nat.exists_eq_add_one_of_ne_zero (Nat.ne_zero_of_lt hfuel)
      rw [laterStrings_cons, readStrings_entry _ (nextEntry_comma h s _),
        ih (Nat.le_of_succ_le_succ hfuel)]
      rfl

theorem length_le_laterStrings (blank : List Char) (xs : List String) :
    xs.length ≤ (laterStrings blank xs).length := by
  induction xs with
  | nil => exact Nat.zero_le _
  | cons s xs ih =>
      have hcons := laterStrings_cons blank s xs []
      rw [List.append_nil, List.append_nil] at hcons
      simp only [hcons, List.length_cons, List.length_append]
      omega

theorem readStrings_separated (h : Blank blank) (hclose : Blank close) (xs : List String) :
    let text := separated blank (xs.map quoteString) ++ (close ++ ']' :: rest)
    readStrings (text.length + 1) true text = .ok (xs, close ++ ']' :: rest) := by
  intro text
  cases xs with
  | nil => exact readStrings_close hclose true _
  | cons s xs =>
      have htext : text = blank ++ (quoteString s ++
          (laterStrings blank xs ++ (close ++ ']' :: rest))) := separated_cons s xs _
      -- Every entry takes a character at least, so the fuel does not run out.
      obtain ⟨fuel, hfuel⟩ : ∃ fuel, text.length = fuel + 1 ∧ xs.length ≤ fuel := by
        have hlength := length_le_laterStrings blank xs
        refine ⟨text.length - 1, ?_⟩
        simp only [htext, quoteString_append, List.length_append, List.length_cons]
        omega
      rw [hfuel.1, htext, readStrings_entry _ (nextEntry_first h s _),
        readStrings_later h hclose xs hfuel.2]
      rfl

theorem expectStrings_separated {before : List Char} (hbefore : Blank before) (h : Blank blank)
    (hclose : Blank close) (xs : List String) :
    expectStrings (before ++ '[' ::
      (separated blank (xs.map quoteString) ++ (close ++ ']' :: rest))) = .ok (xs, rest) := by
  rw [expectStrings, skipSpace_append hbefore, skipSpace_cons (by decide)]
  show (readStrings _ true _ >>= _) = _
  rw [readStrings_separated h hclose xs]
  show (closeList _ >>= _) = _
  rw [closeList_close hclose]
  rfl

/-! ## Vectors of strings -/

theorem readVector_entry {first : Bool} {text : List Char} {s : String} {k n : Nat}
    {seen : Vector String k} {v : Vector String (k + 1 + n)} {after : List Char}
    (hsize : k + 1 + n = k + (n + 1)) (h : nextEntry first text = .ok (some (quoteString s ++ rest)))
    (hlater : readVector (seen.push s) n false rest = .ok (v, after)) :
    readVector seen (n + 1) first text = .ok (v.cast hsize, after) := by
  rw [readVector, h]
  show (expectString _ >>= _) = _
  rw [expectString_quoteString]
  show (readVector _ _ false _ >>= _) = _
  rw [hlater]
  rfl

theorem toList_cast {m n : Nat} (h : m = n) (v : Vector String m) :
    (v.cast h).toList = v.toList := by
  subst h
  rfl

theorem readVector_later (h : Blank blank) (xs : List String) {k : Nat} (seen : Vector String k) :
    ∃ v, readVector seen xs.length false (laterStrings blank xs ++ rest) = .ok (v, rest) ∧
      v.toList = seen.toList ++ xs := by
  induction xs generalizing k seen with
  | nil => exact ⟨seen, rfl, by simp⟩
  | cons s xs ih =>
      obtain ⟨v, hv, hlist⟩ := ih (seen.push s)
      rw [laterStrings_cons]
      refine ⟨_, readVector_entry (by omega) (nextEntry_comma h s _) hv, ?_⟩
      rw [toList_cast, hlist, Vector.toList_push, List.append_assoc]
      rfl

theorem readVector_separated (h : Blank blank) (xs : List String) (rest : List Char) :
    ∃ v, readVector #v[] xs.length true (separated blank (xs.map quoteString) ++ rest) =
      .ok (v, rest) ∧ v.toList = xs := by
  cases xs with
  | nil => exact ⟨#v[], rfl, rfl⟩
  | cons s xs =>
      obtain ⟨v, hv, hlist⟩ := readVector_later h xs (#v[].push s)
      rw [separated_cons]
      exact ⟨_, readVector_entry (by omega) (nextEntry_first h s _) hv, by rw [toList_cast, hlist]; rfl⟩

theorem expectVector_separated {before : List Char} (hbefore : Blank before) (h : Blank blank)
    (hclose : Blank close) {n : Nat} (v : Vector String n) :
    expectVector n (before ++ '[' ::
      (separated blank (v.toList.map quoteString) ++ (close ++ ']' :: rest))) = .ok (v, rest) := by
  obtain ⟨xs, hxs⟩ : ∃ xs, v.toList = xs := ⟨_, rfl⟩
  obtain rfl : xs.length = n := by rw [← hxs, Vector.length_toList]
  obtain ⟨w, hw, hlist⟩ := readVector_separated h xs (close ++ ']' :: rest)
  have hwv : w.cast (by omega) = v := Vector.toList_inj.1 (by rw [toList_cast, hlist, hxs])
  rw [expectVector, skipSpace_append hbefore, skipSpace_cons (by decide)]
  show (readVector #v[] xs.length true _ >>= _) = _
  rw [hxs, hw]
  show (closeList _ >>= _) = _
  rw [closeList_close hclose, ← hwv]
  rfl

/-! ## Objects -/

theorem nextMember_first (h : Blank blank) (name : String) (rest : List Char) :
    nextMember true (blank ++ (quoteString name ++ rest)) =
      .ok (some (name.toList.flatMap escapeChar ++ '"' :: rest)) := by
  rw [nextMember, skipSpace_quoted h]
  rfl

theorem nextMember_comma (h : Blank blank) (name : String) (rest : List Char) :
    nextMember false (',' :: (blank ++ (quoteString name ++ rest))) =
      .ok (some (name.toList.flatMap escapeChar ++ '"' :: rest)) := by
  rw [nextMember, skipSpace_cons (by decide)]
  simp [skipSpace_quoted h]

theorem nextMember_close (h : Blank close) (first : Bool) (rest : List Char) :
    nextMember first (close ++ '\x7d' :: rest) = .ok none := by
  rw [nextMember, skipSpace_append h, skipSpace_cons (by decide)]
  rfl

theorem expectColon_colon (rest : List Char) : expectColon (':' :: rest) = .ok rest := by
  rw [expectColon, skipSpace_cons (by decide)]
  rfl

end

end Json

end PreimageProof
