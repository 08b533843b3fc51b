import Mathlib
import PreimageProof.Contract
import PreimageProof.Proofs.Export.Words
import PreimageProof.Proofs.Text.Scanning

/-!
# The key in the contract

A scanner of the contract goes through its text up to the last point of the
key, and what it returns is the key: both sizes of the circuit, the four
points, and the points of the inputs in their order. The number of these is
read before the points are, in the type of their array, so the list ends
where it ended in print. What follows the key repeats its counts and is not
looked at.

Zeros are read as infinity, which is right for the points of the groups: none
of them has zeros for coordinates.
-/

namespace PreimageProof

open SourceOps (isValid)
open Text (Scan Scans ofLines)

/-! ## Coordinates and points -/

namespace Residue

variable {p : Nat}

/-- A residue in decimal, and the words behind it. -/
def scan (behind : String) : Scan (Residue p) := do
  let n ← Scan.numberBefore behind
  liftM (ofNat? p n)

theorem scans (a : Residue p) {behind : String}
    (hbehind : behind.toList.head?.all Text.isDigit = false) :
    Scans (scan behind) (toString a.val ++ behind) a := by
  refine (Scans.numberBefore a.val hbehind).map fun rest => ?_
  rw [ofNat?_eq_some_iff.2 rfl]
  rfl

end Residue

namespace Point

variable {F : Type} [Zero F] [DecidableEq F]

/-- The point with the given coordinates, zeros standing for infinity. -/
def ofCoordinates (x y : F) : Point F := if x = 0 ∧ y = 0 then .infinity else .affine x y

theorem ofCoordinates_coordinates {p : Point F} (hp : p ≠ .affine 0 0) :
    ofCoordinates p.coordinates.1 p.coordinates.2 = p := by
  cases p with
  | infinity => exact if_pos ⟨rfl, rfl⟩
  | affine x y =>
      exact if_neg fun h => hp (congrArg₂ Point.affine h.1 h.2)

end Point

namespace G1

def scan : Scan G1 := do
  Scan.words "G1Point("
  let x ← Residue.scan ", "
  let y ← Residue.scan ")"
  return .ofCoordinates x y

theorem literal_eq (p : G1) :
    p.literal = "G1Point(" ++ (toString p.coordinates.1.val ++ ", " ++
      (toString p.coordinates.2.val ++ ")")) := by
  cases p with
  | infinity => rfl
  | affine x y =>
      change "G1Point(" ++ toString x.val ++ ", " ++ toString y.val ++ ")" = _
      simp only [Point.coordinates, String.append_assoc]

theorem scans {p : G1} (hp : isValid p = true) : Scans scan p.literal p := by
  have hzero : p ≠ .affine 0 0 := fun h => not_isValid_zero (h ▸ hp)
  rw [literal_eq]
  refine (Scans.words _).bind ((Residue.scans _ (by decide +kernel)).bind ((Residue.scans _ (by decide +kernel)).map ?_))
  rw [Point.ofCoordinates_coordinates hzero]
  exact Scans.pure p

end G1

namespace G2

def scan : Scan G2 := do
  Scan.words "G2Point([uint256("
  let x₁ ← Residue.scan "), "
  let x₀ ← Residue.scan "], [uint256("
  let y₁ ← Residue.scan "), "
  let y₀ ← Residue.scan "])"
  return .ofCoordinates ⟨x₀, x₁⟩ ⟨y₀, y₁⟩

theorem literal_eq (p : G2) :
    p.literal = "G2Point([uint256(" ++ (toString p.coordinates.1.im.val ++ "), " ++
      (toString p.coordinates.1.re.val ++ "], [uint256(" ++
        (toString p.coordinates.2.im.val ++ "), " ++
          (toString p.coordinates.2.re.val ++ "])")))) := by
  cases p with
  | infinity => rfl
  | affine x y =>
      change "G2Point([uint256(" ++ toString x.im.val ++ "), " ++ toString x.re.val ++
        "], [uint256(" ++ toString y.im.val ++ "), " ++ toString y.re.val ++ "])" = _
      simp only [Point.coordinates, String.append_assoc]

theorem scans {p : G2} (hp : isValid p = true) : Scans scan p.literal p := by
  have hzero : p ≠ .affine 0 0 := fun h => not_isValid_zero (h ▸ hp)
  rw [literal_eq]
  refine (Scans.words _).bind ((Residue.scans _ (by decide +kernel)).bind ((Residue.scans _ (by decide +kernel)).bind
    ((Residue.scans _ (by decide +kernel)).bind ((Residue.scans _ (by decide +kernel)).map ?_))))
  rw [Point.ofCoordinates_coordinates hzero]
  exact Scans.pure p

end G2

namespace Contract

/-! ## Lines -/

/-- The sizes of the circuit. -/
def sizes : Scan (Nat × Nat) := do
  Scan.words "// Generated by hash-proof. Circuit: "
  let constraints ← Scan.numberBefore " constraints, "
  let width ← Scan.numberBefore " variables."
  Scan.words "\n"
  return (constraints, width)

theorem scans_sizes (constraints width : Nat) :
    Scans sizes ("// Generated by hash-proof. Circuit: " ++ toString constraints ++
      " constraints, " ++ toString width ++ " variables." ++ "\n") (constraints, width) := by
  have h : Scans sizes ("// Generated by hash-proof. Circuit: " ++
      ((toString constraints ++ " constraints, ") ++ ((toString width ++ " variables.") ++ "\n")))
      (constraints, width) :=
    (Scans.words _).bind ((Scans.numberBefore _ (by decide +kernel)).bind
      ((Scans.numberBefore _ (by decide +kernel)).bind ((Scans.words _).map (Scans.pure _))))
  simpa only [String.append_assoc] using h

/-- The number of points for the inputs. -/
def count : Scan Nat := do
  Scan.words "            G1Point["
  let n ← Scan.numberBefore "] memory ic"
  Scan.words "\n"
  return n

theorem scans_count (n : Nat) :
    Scans count ("            G1Point[" ++ toString n ++ "] memory ic" ++ "\n") n := by
  have h : Scans count ("            G1Point[" ++ ((toString n ++ "] memory ic") ++ "\n")) n :=
    (Scans.words _).bind
      ((Scans.numberBefore _ (by decide +kernel)).bind ((Scans.words _).map (Scans.pure _)))
  simpa only [String.append_assoc] using h

/-- What is assigned in a line that begins with the given words. -/
def assignment {α : Type} (left : String) (value : Scan α) : Scan α := do
  Scan.words left
  let x ← value
  Scan.words (";" ++ "\n")
  return x

theorem scans_assignment {α : Type} {value : Scan α} {text : String} {x : α}
    (hvalue : Scans value text x) (left : String) :
    Scans (assignment left value) (left ++ text ++ ";" ++ "\n") x := by
  have h : Scans (assignment left value) (left ++ (text ++ (";" ++ "\n"))) x :=
    (Scans.words _).bind (hvalue.bind ((Scans.words _).map (Scans.pure _)))
  simpa only [String.append_assoc] using h

/-- The points of the inputs, with the number of the next and of those that are left. -/
def entries : (next left : Nat) → Scan (List G1)
  | _, 0 => return []
  | i, n + 1 => do
      let p ← assignment ("        ic[" ++ toString i ++ "] = ") G1.scan
      return p :: (← entries (i + 1) n)

theorem scans_entries {points : List G1} (hpoints : ∀ p ∈ points, isValid p = true) (i : Nat) :
    Scans (entries i points.length) (ofLines ((points.zipIdx i).map fun entry =>
      "        ic[" ++ toString entry.2 ++ "] = " ++ G1.literal entry.1 ++ ";")) points := by
  induction points generalizing i with
  | nil => exact Scans.pure []
  | cons p rest ih =>
      rw [List.forall_mem_cons] at hpoints
      rw [List.zipIdx_cons, List.map_cons, Text.ofLines_cons]
      exact (scans_assignment (G1.scans hpoints.1) _).bind
        ((ih hpoints.2 (i + 1)).map (Scans.pure _))

/-! ## The contract -/

/-- What a contract tells of its key. -/
structure Contents where
  constraints : Nat
  width : Nat
  alpha : G1
  beta : G2
  gamma : G2
  delta : G2
  gammaAbc : List G1

def contents (vk : VerifyingKey G1 G2) : Contents where
  constraints := vk.shape.constraints
  width := vk.shape.width
  alpha := vk.alpha
  beta := vk.beta
  gamma := vk.gamma
  delta := vk.delta
  gammaAbc := vk.gammaAbc

/-- The text from the beginning to the last point of the key. -/
def scan : Scan Contents := do
  Scan.lines ["// SPDX-License-Identifier: MIT"]
  let shown ← sizes
  Scan.lines (["pragma solidity ^0.8.20;", ""] ++ arithmetic ++
    ["    function verifyingKey()",
      "        internal",
      "        pure",
      "        returns (",
      "            G1Point memory alpha,",
      "            G2Point memory beta,",
      "            G2Point memory gamma,",
      "            G2Point memory delta,"])
  let inputs ← count
  Scan.lines ["        )", "    \x7b"]
  let alpha ← assignment "        alpha = " G1.scan
  let beta ← assignment "        beta = " G2.scan
  let gamma ← assignment "        gamma = " G2.scan
  let delta ← assignment "        delta = " G2.scan
  let gammaAbc ← entries 0 inputs
  return ⟨shown.1, shown.2, alpha, beta, gamma, delta, gammaAbc⟩

/-- What the text of a contract tells of the key. -/
def read (text : String) : Option Contents := (scan.run text.toList).map Prod.fst

theorem shownVariables_eq {shape : Shape} (h : shape.width < 2 ^ 64) :
    shownVariables shape = shape.width := Nat.mod_eq_of_lt h

/-- The scanner stops behind the last point, and takes from the text what is
shown of the key. -/
theorem scans_scan {vk : VerifyingKey G1 G2} (hvk : vk.PointsValid) (hwidth : vk.shape.width < 2 ^ 64) :
    ∃ text, Scans scan text (contents vk) ∧
      source vk = text ++ ofLines (["    \x7d", ""] ++ verification vk) := by
  refine ⟨_, (Scans.lines _).bind ((scans_sizes vk.shape.constraints (shownVariables vk.shape)).bind
    ((Scans.lines _).bind ((scans_count vk.gammaAbc.length).bind ((Scans.lines _).bind
      ((scans_assignment (G1.scans hvk.alpha) _).bind
        ((scans_assignment (G2.scans hvk.beta) _).bind
          ((scans_assignment (G2.scans hvk.gamma) _).bind
            ((scans_assignment (G2.scans hvk.delta) _).bind
              ((scans_entries hvk.gammaAbc 0).map ?_))))))))), ?_⟩
  · rw [shownVariables_eq hwidth]
    exact Scans.pure (contents vk)
  · change ofLines (lines vk) = _
    simp only [lines, header, key, Text.ofLines_append, Text.ofLines_cons, Text.ofLines_nil,
      List.append_assoc, List.cons_append, List.nil_append, String.append_assoc,
      String.empty_append]

theorem read_source {vk : VerifyingKey G1 G2} (hvk : vk.PointsValid)
    (hwidth : vk.shape.width < 2 ^ 64) : read (source vk) = some (contents vk) := by
  obtain ⟨text, hscan, hsource⟩ := scans_scan hvk hwidth
  rw [read, hsource, String.toList_append, hscan, Option.map_some]

/-- What is shown of a key is all that the contract depends on. -/
theorem source_eq_of_contents_eq {vk₁ vk₂ : VerifyingKey G1 G2} (h : contents vk₁ = contents vk₂) :
    source vk₁ = source vk₂ := by
  simp only [contents, Contents.mk.injEq] at h
  obtain ⟨hconstraints, hwidth, halpha, hbeta, hgamma, hdelta, hgammaAbc⟩ := h
  simp only [source, lines, header, key, verification, shownVariables, VerifyingKey.publicInputs,
    hconstraints, hwidth, halpha, hbeta, hgamma, hdelta, hgammaAbc]

theorem source_eq_iff_contents {vk₁ vk₂ : VerifyingKey G1 G2} (h₁ : vk₁.PointsValid)
    (h₂ : vk₂.PointsValid) (hwidth₁ : vk₁.shape.width < 2 ^ 64)
    (hwidth₂ : vk₂.shape.width < 2 ^ 64) :
    source vk₁ = source vk₂ ↔ contents vk₁ = contents vk₂ := by
  refine ⟨fun h => ?_, source_eq_of_contents_eq⟩
  have hread := read_source h₁ hwidth₁
  rw [h, read_source h₂ hwidth₂] at hread
  exact (Option.some.inj hread).symm

/-! ## Where the points stand -/

theorem infix_of_mem_lines {vk : VerifyingKey G1 G2} {line : String} (h : line ∈ lines vk) :
    line.toList <:+: (source vk).toList := by
  obtain ⟨front, back, hlines⟩ := List.append_of_mem h
  have hsource : source vk = ofLines front ++ (line ++ ("\n" ++ ofLines back)) := by
    change ofLines (lines vk) = _
    rw [hlines, Text.ofLines_append, Text.ofLines_cons, String.append_assoc]
  rw [hsource, String.toList_append, String.toList_append, ← List.append_assoc]
  exact List.infix_append _ _ _

theorem entry_mem_lines {vk : VerifyingKey G1 G2} {i : Nat} {p : G1}
    (h : vk.gammaAbc[i]? = some p) :
    "        ic[" ++ toString i ++ "] = " ++ p.literal ++ ";" ∈ lines vk := by
  have hmem : (p, i) ∈ vk.gammaAbc.zipIdx := List.mem_zipIdx_iff_getElem?.2 h
  have hentry := List.mem_map_of_mem (f := fun entry : G1 × Nat =>
    "        ic[" ++ toString entry.2 ++ "] = " ++ entry.1.literal ++ ";") hmem
  exact List.mem_append_left _ (List.mem_append_right _
    (List.mem_append_left _ (List.mem_append_right _ hentry)))

/-! ## The contract is bound to its key -/

/-- For keys whose points belong to their groups, contracts are equal exactly
when the points are, those of the inputs in number and order, and both sizes of
the circuit. The key is read back from the text, where `ic[i]` holds the point
of number `i`, and where the coordinates of the points of the second group have
their imaginary part first. -/
theorem source_bound_to_key {vk₁ vk₂ : VerifyingKey G1 G2} (h₁ : vk₁.PointsValid)
    (h₂ : vk₂.PointsValid) (hwidth₁ : vk₁.shape.width < 2 ^ 64)
    (hwidth₂ : vk₂.shape.width < 2 ^ 64) :
    (source vk₁ = source vk₂ ↔
      vk₁.alpha = vk₂.alpha ∧ vk₁.beta = vk₂.beta ∧ vk₁.gamma = vk₂.gamma ∧
        vk₁.delta = vk₂.delta ∧ vk₁.gammaAbc = vk₂.gammaAbc ∧
        vk₁.shape.constraints = vk₂.shape.constraints ∧ vk₁.shape.width = vk₂.shape.width) ∧
    read (source vk₁) = some (contents vk₁) ∧
    (∀ (i : Nat) (p : G1), vk₁.gammaAbc[i]? = some p →
      ("        ic[" ++ toString i ++ "] = " ++
        ("G1Point(" ++ (toString p.coordinates.1.val ++ ", " ++
          (toString p.coordinates.2.val ++ ")"))) ++ ";").toList <:+: (source vk₁).toList) ∧
    ∀ (name : String) (p : G2),
      (name, p) ∈ [("beta", vk₁.beta), ("gamma", vk₁.gamma), ("delta", vk₁.delta)] →
      ("        " ++ name ++ " = " ++
        ("G2Point([uint256(" ++ (toString p.coordinates.1.im.val ++ "), " ++
          (toString p.coordinates.1.re.val ++ "], [uint256(" ++
            (toString p.coordinates.2.im.val ++ "), " ++
              (toString p.coordinates.2.re.val ++ "])"))))) ++ ";").toList <:+:
        (source vk₁).toList := by
  refine ⟨?_, read_source h₁ hwidth₁, fun i p h => ?_, fun name p h => ?_⟩
  · rw [source_eq_iff_contents h₁ h₂ hwidth₁ hwidth₂]
    simp only [contents, Contents.mk.injEq]
    tauto
  · rw [← G1.literal_eq]
    exact infix_of_mem_lines (entry_mem_lines h)
  · rw [← G2.literal_eq]
    refine infix_of_mem_lines ?_
    simp only [List.mem_cons, List.not_mem_nil, or_false, Prod.mk.injEq] at h
    obtain ⟨rfl, rfl⟩ | ⟨rfl, rfl⟩ | ⟨rfl, rfl⟩ := h
    all_goals simp [lines, key]

/-- A key with the generators for its points. -/
def generatorKey (gammaAbc : List G1) : VerifyingKey G1 G2 :=
  ⟨⟨1, 2, 1, 0⟩, G1.generator, G2.generator, .infinity, G2.generator, gammaAbc⟩

/-- The order of the points of the inputs is seen in the contract. -/
theorem source_of_reordered_inputs :
    source (generatorKey [G1.generator, .infinity]) ≠
        source (generatorKey [.infinity, G1.generator]) ∧
      read (source (generatorKey [G1.generator, .infinity])) =
        some (contents (generatorKey [G1.generator, .infinity])) ∧
      "        ic[0] = G1Point(1, 2);".toList <:+:
        (source (generatorKey [G1.generator, .infinity])).toList := by
  have hfirst : isValid G1.generator = true := by decide
  have hsecond : isValid G2.generator = true := by decide +kernel
  have hvalid : ∀ points : List G1, (∀ p ∈ points, isValid p = true) →
      (generatorKey points).PointsValid := fun points hpoints =>
    ⟨hfirst, hsecond, G2.isValid_infinity, hsecond, hpoints⟩
  have hinfinity : isValid (.infinity : G1) = true := rfl
  obtain ⟨hbound, hread, hentry, -⟩ := source_bound_to_key
    (hvalid [G1.generator, .infinity] (by simp [hfirst, hinfinity]))
    (hvalid [.infinity, G1.generator] (by simp [hfirst, hinfinity])) (by decide) (by decide)
  refine ⟨fun h => ?_, hread, hentry 0 G1.generator rfl⟩
  exact absurd (hbound.1 h).2.2.2.2.1 (by decide)

end Contract

end PreimageProof
