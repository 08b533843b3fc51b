import Mathlib
import PreimageProof.Proofs.Bounds.Prover
import PreimageProof.Proofs.Codec.Faithful

/-!
# The readers within bounds

The readers of keys and witnesses, once more with every operation that could
be a fault: splitting the input, the one byte of a version, the sums of a
shape, the first value of a witness, and the room that is reserved for a list
before it is read. Room is reserved for no more entries than there are bytes
for; this is what comparing a length with the rest of the input is for, and it
works because no input is as long as the largest count, which stands for a
product that a word cannot hold.

One judgment carries the comparison through the formats: the two readers give
the same answer on every input, and what they leave is no longer than what
they were given.
-/

namespace PreimageProof

open Artifact (encode decode)
open SourceOps (isValid)

/-! ## Readers that can fail -/

/-- A reader without an answer where an operation would be a fault. -/
abbrev Checked : Type → Type := StateT Input (ExceptT CodecError Option)

/-- Room for `n` entries of a width, if there are as many bytes to come. -/
def room? (size n width : Nat) : Option Unit := if n * width ≤ size then some () else none

namespace Checked

/-- The next `n` bytes, split off. -/
def take (n : Nat) : Checked Bytes := do
  let input ← get
  if input.size < n then throw (.truncated n input.size)
  let front ← slice? input.bytes 0 n
  set (Input.ofBytes (← slice? input.bytes n input.bytes.length))
  return front

/-- Eight bytes, copied into a word. -/
def count : Checked Nat := do
  let word ← overwrite? (List.replicate 8 (0 : UInt8)) 0 8 (← take 8)
  return Bytes.ofLittleEndian word

/-- As many bytes as `n` entries need are left, and room is made for these. -/
def reserve (n width : Nat) : Checked Unit := do
  let input ← get
  if input.size < Read.needed n width then
    throw (.truncated (Read.needed n width) input.size)
  room? input.size n width

section

variable {α : Type}

def many (read : Checked α) : (n : Nat) → Checked (List α)
  | 0 => return []
  | n + 1 => do
      let x ← read
      return x :: (← many read n)

def counted (width : Nat) (read : Checked α) : Checked (List α) := do
  let n ← count
  reserve n width
  many read n

variable [ElementCodec α]

def element (part : String) : Checked α := do
  let bytes ← take (ElementCodec.width α)
  match ElementCodec.decode bytes with
  | .ok x => return x
  | .error fault => throw (.invalidElement part fault)

def elements (part : String) : Checked (List α) := counted (ElementCodec.width α) (element part)

end

def shape : Checked Shape := do
  let constraints ← count
  let publics ← count
  let secrets ← count
  let internals ← count
  let shape : Shape := ⟨constraints, publics, secrets, internals⟩
  if let some cause := Codec.shapeFault shape then throw (.inconsistent cause)
  return shape

def entry (width : Nat) : Checked (Fr × Nat) := do
  let coefficient ← element "matrix coefficient"
  let column ← count
  if width ≤ column then throw (.inconsistent (.column column width))
  return (coefficient, column)

def matrix (width : Nat) : Checked (List Row) := counted 8 (counted 40 (entry width))

section

variable {G₁ G₂ : Type} [ElementCodec G₁] [ElementCodec G₂]

def verifyingKey : Checked (VerifyingKey G₁ G₂) := do
  let shape ← shape
  let alpha ← element "alpha_g1"
  let beta ← element "beta_g2"
  let gamma ← element "gamma_g2"
  let delta ← element "delta_g2"
  let gammaAbc ← elements "gamma_abc_g1"
  if gammaAbc.length ≠ shape.publics then
    throw (.inconsistent (.gammaEntries gammaAbc.length shape.publics))
  return ⟨shape, alpha, beta, gamma, delta, gammaAbc⟩

omit [ElementCodec G₁] [ElementCodec G₂] in
def ensureConsistent (pk : ProvingKey G₁ G₂) : Checked Unit := do
  let rows := pk.matrices.a.length
  if pk.matrices.b.length ≠ rows ∨ pk.matrices.c.length ≠ rows then
    throw (.inconsistent .rowCounts)
  if let some fault ← pk.layoutFault? then throw (.inconsistent (.provingKey fault))

def provingKey : Checked (ProvingKey G₁ G₂) := do
  let vk ← verifyingKey
  let width ← vk.shape.width?
  let beta ← element "beta_g1"
  let delta ← element "delta_g1"
  let aQuery ← elements "a_query"
  let b1Query ← elements "b_g1_query"
  let b2Query ← elements "b_g2_query"
  let hQuery ← elements "h_query"
  let lQuery ← elements "l_query"
  let a ← matrix width
  let b ← matrix width
  let c ← matrix width
  let pk : ProvingKey G₁ G₂ :=
    ⟨vk, beta, delta, aQuery, b1Query, b2Query, hQuery, lQuery, ⟨a, b, c⟩⟩
  ensureConsistent pk
  return pk

end

def witness : Checked Witness := do
  let shape ← shape
  let values : List Fr ← elements "witness value"
  let width ← shape.width?
  if values.length ≠ width then
    throw (.inconsistent (.witnessValues values.length width))
  let one ← (values[0]? : Option Fr)
  if one ≠ 1 then throw (.inconsistent .witnessConstant)
  return ⟨shape, values⟩

/-- Nothing may be left. -/
def finish : Checked Unit := do
  let input ← get
  if input.size ≠ 0 then throw (.trailingBytes input.size)

/-- Read behind tag and version; of the version there is one byte. -/
def tagged {α : Type} (tag : Bytes) (read : Checked α) : Checked α := do
  let found ← take 4
  if found ≠ tag then throw (.wrongTag tag found)
  let version ← ((← take 1)[0]? : Option UInt8)
  if version ≠ Artifact.formatVersion then throw (.unsupportedVersion version.toNat)
  read

def decode {α : Type} (tag : Bytes) (read : Checked α) (bytes : Bytes) :
    Option (Except CodecError α) :=
  ((·.1) <$> StateT.run (do
    let x ← tagged tag read
    finish
    return x) (Input.ofBytes bytes)).run

end Checked

/-! ## The same answers -/

/-- On inputs shorter than the largest count a checked reader has an answer,
the one of the reader, and what is left is not longer. -/
structure Agrees {α : Type} (checked : Checked α) (read : Read α) : Prop where
  run_eq : ∀ input, input.size < Read.maxCount →
    (checked.run input).run = some (read.run input)
  shrinks : ∀ input out, read.run input = .ok out → out.2.size ≤ input.size

namespace Agrees

variable {α β : Type} {checked : Checked α} {read : Read α} {checked' : α → Checked β}
  {next : α → Read β}

theorem pure (x : α) : Agrees (Pure.pure x) (Pure.pure x) where
  run_eq _ _ := rfl
  shrinks input out h := by
    cases h
    exact le_rfl

theorem throw (e : CodecError) :
    Agrees (MonadExcept.throw e : Checked α) (MonadExcept.throw e) where
  run_eq _ _ := rfl
  shrinks input out h := by cases h

/-- The second reader need only be looked at for what the first can return. -/
theorem bind_of {P : α → Prop} (h : Agrees checked read) (hreturns : Returns read P)
    (hnext : ∀ x, P x → Agrees (checked' x) (next x)) :
    Agrees (checked >>= checked') (read >>= next) where
  run_eq input hsize := by
    have hrun : checked.run input = ExceptT.mk (some (read.run input)) := h.run_eq input hsize
    rw [StateT.run_bind, StateT.run_bind, hrun]
    cases hread : read.run input with
    | error e => rfl
    | ok out =>
        have hlater := hnext out.1 (hreturns input out hread)
        exact hlater.run_eq out.2 (lt_of_le_of_lt (h.shrinks input out hread) hsize)
  shrinks input out hout := by
    obtain ⟨mid, hmid, hrest⟩ := Read.of_bind_run_eq_ok hout
    have hlater := (hnext mid.1 (hreturns input mid hmid)).shrinks mid.2 out hrest
    exact hlater.trans (h.shrinks input mid hmid)

theorem bind (h : Agrees checked read) (hnext : ∀ x, Agrees (checked' x) (next x)) :
    Agrees (checked >>= checked') (read >>= next) :=
  h.bind_of (Returns.trivial read) fun x _ => hnext x

/-- An operation that has an answer. -/
theorem lift {o : Option α} {x : α} {read : Read β} (ho : o = some x)
    (h : Agrees (checked' x) read) : Agrees (liftM o >>= checked') read := by
  subst ho
  exact ⟨h.run_eq, h.shrinks⟩

theorem throw_bind (e : CodecError) :
    Agrees (MonadExcept.throw e >>= checked') (MonadExcept.throw e >>= next) where
  run_eq _ _ := rfl
  shrinks input out h := by cases h

/-- Refusals for the same reason. -/
theorem guard {c c' : Prop} [Decidable c] [Decidable c'] {e e' : CodecError}
    {checked' : Unit → Checked β} {next : Unit → Read β} (hc : c ↔ c') (he : e = e')
    (h : ¬ c' → Agrees (checked' ()) (next ())) :
    Agrees (if c then MonadExcept.throw e >>= checked' else checked' ())
      (if c' then MonadExcept.throw e' >>= next else next ()) := by
  subst he
  by_cases hc' : c'
  · rw [if_pos hc', if_pos (hc.2 hc')]
    exact throw_bind e
  · rw [if_neg hc', if_neg fun h => hc' (hc.1 h)]
    exact h hc'

theorem take (n : Nat) : Agrees (Checked.take n) (Read.take n) where
  run_eq input hsize := by
    obtain ⟨bytes, size, rfl⟩ := input
    rw [Read.run_take]
    by_cases hshort : bytes.length < n
    · simp only [Checked.take, StateT.run_bind, StateT.run_get, pure_bind, hshort, if_true]
      rfl
    · have hfront : slice? bytes 0 n = some (bytes.take n) := by
        rw [slice?_eq (Nat.zero_le n) (not_lt.1 hshort), List.drop_zero]
      have hrest : slice? bytes n bytes.length = some (bytes.drop n) := by
        rw [slice?_eq (not_lt.1 hshort) le_rfl, List.take_length]
      simp only [Checked.take, StateT.run_bind, StateT.run_get, pure_bind, hshort, if_false,
        hfront, hrest]
      rfl
  shrinks input out hout := by
    rw [Read.run_take] at hout
    split at hout
    · cases hout
    · cases hout
      show (input.bytes.drop n).length ≤ input.size
      rw [input.size_eq, List.length_drop]
      omega

theorem count : Agrees Checked.count Read.count := by
  refine (take 8).bind_of (Returns.take 8) fun bytes hbytes => ?_
  refine lift (x := bytes) ?_ (pure _)
  have hwritten : overwrite? ([] ++ List.replicate 8 (0 : UInt8) ++ []) 0 8 bytes =
      some ([] ++ bytes ++ []) := overwrite?_append hbytes
  simpa using hwritten

theorem reserve (n width : Nat) : Agrees (Checked.reserve n width) (Read.ensure n width) where
  run_eq input hsize := by
    rw [Read.run_ensure]
    by_cases hshort : input.size < Read.needed n width
    · simp only [Checked.reserve, StateT.run_bind, StateT.run_get, pure_bind, hshort, if_true]
      rfl
    · have hroom : room? input.size n width = some () := by
        -- The largest count stands for a product that is too large, and is too large itself.
        rw [Read.needed] at hshort
        refine if_pos ?_
        split at hshort
        · omega
        · omega
      simp only [Checked.reserve, StateT.run_bind, StateT.run_get, pure_bind, hshort, if_false,
        hroom]
      rfl
  shrinks input out hout := by
    rw [Read.run_ensure] at hout
    split at hout
    · cases hout
    · cases hout
      exact le_rfl

theorem many (h : Agrees checked read) (n : Nat) :
    Agrees (Checked.many checked n) (Read.many read n) := by
  induction n with
  | zero => exact pure []
  | succ n ih => exact h.bind fun x => ih.bind fun xs => pure (x :: xs)

theorem counted (h : Agrees checked read) (width : Nat) :
    Agrees (Checked.counted width checked) (Read.counted width read) :=
  count.bind fun n => (reserve n width).bind fun _ => h.many n

end Agrees

/-! ## The formats -/

namespace Agrees

section

variable {α : Type} [ElementCodec α] (part : String)

theorem element : Agrees (Checked.element part : Checked α) (Codec.readElement part) := by
  refine (take _).bind fun bytes => ?_
  cases (ElementCodec.decode bytes : Except ElementFault α) with
  | error fault => exact throw _
  | ok x => exact pure x

theorem elements :
    Agrees (Checked.elements part : Checked (List α)) (Codec.readElements part) :=
  (element part).counted _

end

theorem shape : Agrees Checked.shape Codec.readShape := by
  refine count.bind fun constraints => ?_
  refine count.bind fun publics => ?_
  refine count.bind fun secrets => ?_
  refine count.bind fun internals => ?_
  cases hfault : Codec.shapeFault ⟨constraints, publics, secrets, internals⟩ with
  | some cause =>
      simp only [hfault]
      exact throw_bind _
  | none =>
      simp only [hfault]
      exact pure _

theorem entry (width : Nat) : Agrees (Checked.entry width) (Codec.readEntry width) :=
  (element _).bind fun _ => count.bind fun _ => guard Iff.rfl rfl fun _ => pure _

theorem matrix (width : Nat) : Agrees (Checked.matrix width) (Codec.readMatrix width) :=
  ((entry width).counted 40).counted 8

section

variable {G₁ G₂ : Type} [SourceOps G₁] [SourceOps G₂] [ElementCodec G₁] [ElementCodec G₂]
  (h₁ : ElementCodec.Lawful G₁ (isValid · = true)) (h₂ : ElementCodec.Lawful G₂ (isValid · = true))

omit [SourceOps G₁] [SourceOps G₂] in
theorem verifyingKey :
    Agrees (Checked.verifyingKey : Checked (VerifyingKey G₁ G₂)) VerifyingKey.read := by
  refine shape.bind fun shape => ?_
  refine (element _).bind fun alpha => ?_
  refine (element _).bind fun beta => ?_
  refine (element _).bind fun gamma => ?_
  refine (element _).bind fun delta => ?_
  refine (elements _).bind fun gammaAbc => ?_
  exact guard Iff.rfl rfl fun _ => pure _

omit [SourceOps G₁] [SourceOps G₂] [ElementCodec G₁] [ElementCodec G₂] in
theorem ensureConsistent {pk : ProvingKey G₁ G₂} (h : pk.shape.Valid) :
    Agrees (Checked.ensureConsistent pk) pk.ensureConsistent := by
  rw [Checked.ensureConsistent, ProvingKey.ensureConsistent]
  refine guard Iff.rfl rfl fun _ => ?_
  refine lift (ProvingKey.layoutFault?_eq h) ?_
  cases pk.layoutFault with
  | some fault => exact throw _
  | none => exact pure ()

include h₁ h₂

theorem provingKey :
    Agrees (Checked.provingKey : Checked (ProvingKey G₁ G₂)) Artifact.read := by
  refine verifyingKey.bind_of (returns_verifyingKey h₁ h₂) fun vk hvk => ?_
  refine lift hvk.shape.width?_eq ?_
  refine (element _).bind fun beta => ?_
  refine (element _).bind fun delta => ?_
  refine (elements _).bind fun aQuery => ?_
  refine (elements _).bind fun b1Query => ?_
  refine (elements _).bind fun b2Query => ?_
  refine (elements _).bind fun hQuery => ?_
  refine (elements _).bind fun lQuery => ?_
  refine (matrix _).bind fun a => ?_
  refine (matrix _).bind fun b => ?_
  refine (matrix _).bind fun c => ?_
  refine (ensureConsistent ?_).bind fun _ => pure _
  exact hvk.shape

end

theorem witness : Agrees Checked.witness Artifact.read := by
  refine shape.bind_of returns_shape fun shape hshape => ?_
  refine (elements _).bind fun values => ?_
  refine lift hshape.width?_eq ?_
  refine guard Iff.rfl rfl fun hlen => ?_
  have hpos : 0 < values.length := by
    have hpublics := hshape.publics_pos
    rw [not_not.1 hlen, Shape.width]
    omega
  obtain ⟨one, rest, rfl⟩ := List.exists_cons_of_length_pos hpos
  refine lift (x := one) rfl ?_
  refine guard ?_ rfl fun _ => pure _
  rw [List.head?_cons, ne_eq, ne_eq, Option.some.injEq]

theorem finish : Agrees Checked.finish Read.finish where
  run_eq input _ := by
    rw [Read.run_finish]
    simp only [Checked.finish, StateT.run_bind, StateT.run_get, pure_bind]
    split
    · rfl
    · rfl
  shrinks input out hout := by
    rw [Read.run_finish] at hout
    split at hout
    · cases hout
    · cases hout
      exact le_rfl

section

variable {α : Type} [Artifact α] {checked : Checked α}

theorem tagged (h : Agrees checked Artifact.read) :
    Agrees (Checked.tagged (Artifact.tag α) checked) (Artifact.readTagged : Read α) := by
  refine (take 4).bind fun found => guard Iff.rfl rfl fun _ => ?_
  refine (take 1).bind_of (Returns.take 1) fun version hversion => ?_
  obtain ⟨v, rfl⟩ := List.length_eq_one_iff.1 hversion
  refine lift (x := v) rfl ?_
  refine guard ?_ ?_ fun _ => h
  · simp
  · simp [Bytes.ofLittleEndian]

theorem decode (h : Agrees checked Artifact.read) {bytes : Bytes}
    (hbytes : bytes.length < Read.maxCount) :
    Checked.decode (Artifact.tag α) checked bytes = some (Artifact.decode bytes) := by
  have hwhole := (tagged h).bind fun x => finish.bind fun _ => pure x
  have hrun := hwhole.run_eq (Input.ofBytes bytes) hbytes
  rw [Checked.decode, ExceptT.run_map]
  exact congrArg (Option.map (Except.map (·.1))) hrun

end

end Agrees

/-! ## Proving with what was read -/

section

variable {G₁ G₂ : Type} [SourceOps G₁] [SourceOps G₂] {pk : ProvingKey G₁ G₂} {w : Witness}

end

end PreimageProof
