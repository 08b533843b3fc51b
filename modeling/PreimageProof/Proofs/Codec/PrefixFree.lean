import Mathlib
import PreimageProof.Proofs.Codec.Faithful

/-!
# No encoding begins another

A reader learns that its input goes on only by asking for more than there is.
So whatever it answers, and whatever it refuses for another reason than missing
bytes, it answers and refuses on every longer input. This is `Settled`, and it
passes through the operations of readers without a look at what is read.

It says all there is to say about a cut. The whole encoding is read and leaves
nothing over; an answer on a part of it would leave the other part over, and an
inconsistency that shows in a part would show in the whole. What remains is
that bytes are missing.
-/

namespace PreimageProof

open Artifact (encode decode tag)
open Codec (readElement readElements readEntry readMatrix readShape)

/-- Bytes are missing: more are needed than there are. -/
def CodecError.IsTruncation : CodecError → Prop
  | .truncated needed available => available < needed
  | _ => False

theorem CodecError.isTruncation_iff {e : CodecError} :
    e.IsTruncation ↔ ∃ needed available, e = .truncated needed available ∧ available < needed := by
  cases e with
  | truncated needed available => simp [IsTruncation]
  | _ => simp [IsTruncation]

/-- What a reader makes of some bytes it makes of all bytes that begin with
them, unless these are too few. -/
structure Settled {α : Type} (read : Read α) : Prop where
  ok : ∀ {bytes x rest}, read.run (.ofBytes bytes) = .ok (x, .ofBytes rest) →
    ∀ more, read.run (.ofBytes (bytes ++ more)) = .ok (x, .ofBytes (rest ++ more))
  error : ∀ {bytes e}, read.run (.ofBytes bytes) = .error e →
    e.IsTruncation ∨ ∀ more, read.run (.ofBytes (bytes ++ more)) = .error e

namespace Settled

variable {α β : Type} {read : Read α} {next : α → Read β}

theorem pure (x : α) : Settled (Pure.pure x) where
  ok h more := by
    cases h
    rfl
  error h := by cases h

theorem throw (e : CodecError) : Settled (MonadExcept.throw e : Read α) where
  ok h := by cases h
  error h := by
    cases h
    exact .inr fun _ => rfl

theorem throw_bind (e : CodecError) : Settled (MonadExcept.throw e >>= next) where
  ok h := by cases h
  error h := by
    cases h
    exact .inr fun _ => rfl

theorem bind (hread : Settled read) (hnext : ∀ x, Settled (next x)) :
    Settled (read >>= next) where
  ok {bytes y rest} h more := by
    obtain ⟨⟨x, mid⟩, hmid, hrest⟩ := Read.of_bind_run_eq_ok h
    rw [mid.eq_ofBytes] at hmid hrest
    rw [StateT.run_bind, hread.ok hmid more]
    exact (hnext x).ok hrest more
  error {bytes e} h := by
    rw [StateT.run_bind] at h
    cases hfirst : read.run (.ofBytes bytes) with
    | error e' =>
        rw [hfirst] at h
        cases h
        refine (hread.error hfirst).imp_right fun hlonger more => ?_
        rw [StateT.run_bind, hlonger more]
        rfl
    | ok out =>
        obtain ⟨x, mid⟩ := out
        rw [mid.eq_ofBytes] at hfirst
        rw [hfirst] at h
        refine ((hnext x).error h).imp_right fun hlonger more => ?_
        rw [StateT.run_bind, hread.ok hfirst more]
        exact hlonger more

theorem guard {c : Prop} [Decidable c] {e : CodecError} {next : Unit → Read β}
    (hnext : ¬ c → Settled (next ())) :
    Settled (if c then MonadExcept.throw e >>= next else next ()) := by
  by_cases hc : c
  · rw [if_pos hc]
    exact throw_bind e
  · rw [if_neg hc]
    exact hnext hc

theorem take (n : Nat) : Settled (Read.take n) where
  ok {bytes x rest} h more := by
    rw [Read.run_take] at h ⊢
    split at h
    · cases h
    · next hsize =>
        have henough : n ≤ bytes.length := not_lt.1 hsize
        have hlonger : ¬ (Input.ofBytes (bytes ++ more)).size < n := by
          show ¬ (bytes ++ more).length < n
          rw [List.length_append]
          omega
        cases h
        rw [if_neg hlonger]
        show Except.ok ((bytes ++ more).take n, Input.ofBytes ((bytes ++ more).drop n)) = _
        rw [List.take_append_of_le_length henough, List.drop_append_of_le_length henough]
        rfl
  error h := by
    rw [Read.run_take] at h
    split at h
    · next hsize =>
        cases h
        exact .inl hsize
    · cases h

theorem ensure (n width : Nat) : Settled (Read.ensure n width) where
  ok {bytes x rest} h more := by
    rw [Read.run_ensure] at h ⊢
    split at h
    · cases h
    · next hsize =>
        have henough : Read.needed n width ≤ bytes.length := not_lt.1 hsize
        have hlonger : ¬ (Input.ofBytes (bytes ++ more)).size < Read.needed n width := by
          show ¬ (bytes ++ more).length < _
          rw [List.length_append]
          omega
        cases h
        rw [if_neg hlonger]
  error h := by
    rw [Read.run_ensure] at h
    split at h
    · next hsize =>
        cases h
        exact .inl hsize
    · cases h

theorem count : Settled Read.count := (take 8).bind fun _ => pure _

theorem many (h : Settled read) (n : Nat) : Settled (Read.many read n) := by
  induction n with
  | zero => exact pure []
  | succ n ih => exact h.bind fun x => ih.bind fun xs => pure (x :: xs)

theorem counted (h : Settled read) (width : Nat) : Settled (Read.counted width read) :=
  count.bind fun n => (ensure n width).bind fun _ => h.many n

/-! ## The formats -/

section

variable [ElementCodec α] (part : String)

theorem element : Settled (readElement part : Read α) := by
  refine (take _).bind fun bytes => ?_
  cases (ElementCodec.decode bytes : Except ElementFault α) with
  | error fault => exact throw _
  | ok x => exact pure x

theorem elements : Settled (readElements part : Read (List α)) := (element part).counted _

end

theorem shape : Settled readShape := by
  refine count.bind fun constraints => ?_
  refine count.bind fun publics => ?_
  refine count.bind fun secrets => ?_
  refine count.bind fun internals => ?_
  cases hfault : Codec.shapeFault ⟨constraints, publics, secrets, internals⟩ with
  | some cause =>
      simp only [hfault]
      exact throw_bind _
  | none =>
      simp only [hfault]
      exact pure _

theorem entry (width : Nat) : Settled (readEntry width) :=
  (element _).bind fun _ => count.bind fun _ => guard fun _ => pure _

theorem matrix (width : Nat) : Settled (readMatrix width) := ((entry width).counted 40).counted 8

theorem witness : Settled (Artifact.read : Read Witness) :=
  shape.bind fun _ => (elements _).bind fun _ => guard fun _ => guard fun _ => pure _

theorem publicWitness : Settled (Artifact.read : Read PublicWitness) :=
  (elements _).bind fun _ => pure _

section

variable {G₁ G₂ : Type} [ElementCodec G₁] [ElementCodec G₂]

theorem proof : Settled (Artifact.read : Read (Proof G₁ G₂)) :=
  (element _).bind fun _ => (element _).bind fun _ => (element _).bind fun _ => pure _

theorem verifyingKey : Settled (VerifyingKey.read : Read (VerifyingKey G₁ G₂)) := by
  refine shape.bind fun shape => ?_
  refine (element _).bind fun alpha => ?_
  refine (element _).bind fun beta => ?_
  refine (element _).bind fun gamma => ?_
  refine (element _).bind fun delta => ?_
  refine (elements _).bind fun gammaAbc => ?_
  exact guard fun _ => pure _

omit [ElementCodec G₁] [ElementCodec G₂] in
theorem ensureConsistent (pk : ProvingKey G₁ G₂) : Settled pk.ensureConsistent := by
  rw [ProvingKey.ensureConsistent]
  refine guard fun _ => ?_
  cases pk.layoutFault with
  | some fault => exact throw _
  | none => exact pure ()

theorem provingKey : Settled (Artifact.read : Read (ProvingKey G₁ G₂)) := by
  refine verifyingKey.bind fun vk => ?_
  refine (element _).bind fun beta => ?_
  refine (element _).bind fun delta => ?_
  refine (elements _).bind fun aQuery => ?_
  refine (elements _).bind fun b1Query => ?_
  refine (elements _).bind fun b2Query => ?_
  refine (elements _).bind fun hQuery => ?_
  refine (elements _).bind fun lQuery => ?_
  refine (matrix _).bind fun a => ?_
  refine (matrix _).bind fun b => ?_
  refine (matrix _).bind fun c => ?_
  exact (ensureConsistent _).bind fun _ => pure _

end

theorem tagged [Artifact α] (h : Settled (Artifact.read : Read α)) :
    Settled (Artifact.readTagged : Read α) :=
  (take 4).bind fun _ => guard fun _ => (take 1).bind fun _ => guard fun _ => h

end Settled

/-! ## What is cut, what is left over, what is something else -/

namespace Artifact

variable {α β : Type} [Artifact α] [Artifact β]

theorem decode_of_error {bytes : Bytes} {e : CodecError}
    (h : (readTagged : Read α).run (.ofBytes bytes) = .error e) :
    (decode bytes : Except CodecError α) = .error e := by
  rw [decode, Read.onBytes, StateT.run_bind, h]
  rfl

theorem decode_cut (htag : (tag α).length = 4) (hsettled : Settled (read : Read α)) {x : α}
    (hreads : Reads read (write x) x) {front back : Bytes} (hsplit : encode x = front ++ back)
    (hback : back ≠ []) :
    ∃ e : CodecError, e.IsTruncation ∧ (decode front : Except CodecError α) = .error e := by
  have hwhole := reads_tagged htag hreads []
  rw [List.append_nil, hsplit] at hwhole
  cases hfront : (readTagged : Read α).run (.ofBytes front) with
  | ok out =>
      -- An answer would leave the rest of the encoding over.
      rw [show out = (out.1, .ofBytes out.2.bytes) from Prod.ext rfl out.2.eq_ofBytes] at hfront
      have hlonger := hsettled.tagged.ok hfront back
      rw [hwhole, Except.ok.injEq, Prod.mk.injEq] at hlonger
      have hrest : [] = out.2.bytes ++ back := congrArg Input.bytes hlonger.2
      exact absurd (List.append_eq_nil_iff.1 hrest.symm).2 hback
  | error e =>
      refine ⟨e, ?_, decode_of_error hfront⟩
      refine (hsettled.tagged.error hfront).resolve_right fun hlonger => ?_
      rw [hlonger back] at hwhole
      cases hwhole

theorem decode_append (htag : (tag α).length = 4) {x : α} (hreads : Reads read (write x) x)
    {rest : Bytes} (hrest : rest ≠ []) :
    (decode (encode x ++ rest) : Except CodecError α) = .error (.trailingBytes rest.length) := by
  have hsize : (Input.ofBytes rest).size ≠ 0 := fun h => hrest (List.length_eq_zero_iff.1 h)
  rw [decode, Read.onBytes, StateT.run_bind, reads_tagged htag hreads rest]
  show (·.1) <$> (Read.finish >>= fun _ => pure x : Read α).run (.ofBytes rest) = _
  rw [StateT.run_bind, Read.run_finish, if_pos hsize]
  rfl

theorem decode_of_tag_ne (hα : (tag α).length = 4) (hne : tag α ≠ tag β) (x : α) :
    (decode (encode x) : Except CodecError β) = .error (.wrongTag (tag β) (tag α)) := by
  refine decode_of_error ?_
  rw [encode, readTagged, StateT.run_bind, Reads.take hα]
  show (if tag α ≠ tag β then throw (.wrongTag (tag β) (tag α)) >>= _ else _ : Read β).run _ = _
  rw [if_pos hne]
  rfl

/-! ## The kinds of artifacts -/

/-- The five kinds of artifacts. -/
inductive Kind where
  | proof
  | verifyingKey
  | provingKey
  | witness
  | publicWitness
  deriving DecidableEq

namespace Kind

abbrev Value : Kind → Type
  | .proof => Proof G1 G2
  | .verifyingKey => VerifyingKey G1 G2
  | .provingKey => ProvingKey G1 G2
  | .witness => Witness
  | .publicWitness => PublicWitness

instance : (kind : Kind) → Artifact kind.Value
  | .proof => inferInstanceAs (Artifact (Proof G1 G2))
  | .verifyingKey => inferInstanceAs (Artifact (VerifyingKey G1 G2))
  | .provingKey => inferInstanceAs (Artifact (ProvingKey G1 G2))
  | .witness => inferInstanceAs (Artifact Witness)
  | .publicWitness => inferInstanceAs (Artifact PublicWitness)

/-- Valid, with lengths that can be written. -/
def Valid : (kind : Kind) → kind.Value → Prop
  | .proof => Proof.Valid
  | .verifyingKey => VerifyingKey.Valid
  | .provingKey => fun pk => pk.Valid ∧ pk.matrices.Counted
  | .witness => Witness.Valid
  | .publicWitness => PublicWitness.Counted

theorem length_tag (kind : Kind) : (tag kind.Value).length = 4 := by
  cases kind <;> decide +kernel

theorem tag_injective {kind kind' : Kind} (h : tag kind.Value = tag kind'.Value) : kind = kind' := by
  revert h
  cases kind <;> cases kind' <;> decide +kernel

theorem settled (kind : Kind) : Settled (read : Read kind.Value) := by
  cases kind with
  | proof => exact Settled.proof
  | verifyingKey => exact Settled.verifyingKey
  | provingKey => exact Settled.provingKey
  | witness => exact Settled.witness
  | publicWitness => exact Settled.publicWitness

theorem reads {kind : Kind} {x : kind.Value} (h : kind.Valid x) :
    Reads (read : Read kind.Value) (write x) x := by
  cases kind with
  | proof => exact reads_proof G1.lawful G2.lawful h
  | verifyingKey => exact reads_verifyingKey G1.lawful G2.lawful h
  | provingKey => exact reads_provingKey G1.lawful G2.lawful h.1 h.2
  | witness => exact reads_witness h
  | publicWitness => exact reads_publicWitness h

end Kind

end Artifact

open Artifact (Kind)

/-- Of the encoding of a valid artifact a proper part is truncated and nothing
else, with more behind it there are bytes left over, and under another kind it
has the wrong tag. So no encoding begins that of another artifact. -/
theorem encodings_prefix_free {kind : Kind} {x : kind.Value} (h : kind.Valid x) :
    (∀ front back, encode x = front ++ back → back ≠ [] →
      ∃ needed available, available < needed ∧
        (decode front : Except CodecError kind.Value) = .error (.truncated needed available)) ∧
    (∀ rest, rest ≠ [] → (decode (encode x ++ rest) : Except CodecError kind.Value) =
      .error (.trailingBytes rest.length)) ∧
    (∀ kind' : Kind, kind' ≠ kind → (decode (encode x) : Except CodecError kind'.Value) =
      .error (.wrongTag (tag kind'.Value) (tag kind.Value))) ∧
    ∀ y : kind.Value, kind.Valid y → encode x <+: encode y → x = y := by
  refine ⟨fun front back hsplit hback => ?_, fun rest hrest => ?_, fun kind' hkind => ?_,
    fun y hy hbegins => ?_⟩
  · obtain ⟨e, htruncation, hdecode⟩ :=
      Artifact.decode_cut kind.length_tag kind.settled (Kind.reads h) hsplit hback
    obtain ⟨needed, available, rfl, hlt⟩ := CodecError.isTruncation_iff.1 htruncation
    exact ⟨needed, available, hlt, hdecode⟩
  · exact Artifact.decode_append kind.length_tag (Kind.reads h) hrest
  · have htag : tag kind.Value ≠ tag kind'.Value := fun htag =>
      hkind (Kind.tag_injective htag).symm
    exact Artifact.decode_of_tag_ne kind.length_tag htag x
  · obtain ⟨rest, hrest⟩ := hbegins
    have hread := Artifact.decode_encode kind.length_tag (Kind.reads hy)
    rw [← hrest] at hread
    by_cases hnil : rest = []
    · rw [hnil, List.append_nil, Artifact.decode_encode kind.length_tag (Kind.reads h)] at hread
      exact Except.ok.inj hread
    · rw [Artifact.decode_append kind.length_tag (Kind.reads h) hnil] at hread
      cases hread

/-- The witness that 9 is the square of 3, cut within a value. -/
theorem squareWitness_prefix_free :
    (∃ needed available, available < needed ∧
      (decode ((encode (⟨⟨2, 2, 1, 1⟩, [1, 9, 3, 9]⟩ : Witness)).take 100) :
        Except CodecError Witness) = .error (.truncated needed available)) ∧
    (decode (encode (⟨⟨2, 2, 1, 1⟩, [1, 9, 3, 9]⟩ : Witness) ++ [0]) : Except CodecError Witness) =
      .error (.trailingBytes 1) ∧
    (decode (encode (⟨⟨2, 2, 1, 1⟩, [1, 9, 3, 9]⟩ : Witness)) : Except CodecError (Proof G1 G2)) =
      .error (.wrongTag (Bytes.ofString "HPPF") (Bytes.ofString "HPWT")) := by
  have hvalid : Kind.Valid .witness ⟨⟨2, 2, 1, 1⟩, [1, 9, 3, 9]⟩ :=
    ⟨⟨by decide, by decide, by decide⟩, rfl, rfl⟩
  obtain ⟨hcut, hmore, hother, -⟩ := encodings_prefix_free hvalid
  have hbehind : (encode (⟨⟨2, 2, 1, 1⟩, [1, 9, 3, 9]⟩ : Witness)).drop 100 ≠ [] := by
    decide +kernel
  exact ⟨hcut _ _ (List.take_append_drop 100 _).symm hbehind, hmore [0] (by decide),
    hother .proof (by decide)⟩

end PreimageProof
