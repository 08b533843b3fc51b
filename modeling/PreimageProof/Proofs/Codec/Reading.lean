import Mathlib
import PreimageProof.Codec.Artifact
import PreimageProof.Proofs.Outcome

/-!
# Readers and what they read

Three judgments about a reader suffice for every format built from it. `Reads`
says which bytes it turns into which value, whatever comes after them;
sequences of reads follow sequences of bytes. `Returns` says what holds of
every value it ever returns, whatever the bytes were, and `Takes` relates such
a value to the bytes that were taken for it. All of them pass through the
operations of readers one by one, so that a proof about a format has the
shape of its reader.
-/

namespace PreimageProof

open Codec (writeCount)

theorem Input.eq_ofBytes (input : Input) : input = .ofBytes input.bytes := by
  obtain ⟨bytes, size, rfl⟩ := input
  rfl

namespace Read

theorem run_take (n : Nat) (input : Input) :
    (take n).run input =
      if input.size < n then .error (.truncated n input.size)
      else .ok (input.bytes.take n, .ofBytes (input.bytes.drop n)) := by
  obtain ⟨bytes, size, rfl⟩ := input
  by_cases hshort : bytes.length < n
  · simp only [take, StateT.run_bind, StateT.run_get, pure_bind, hshort, if_true]
    rfl
  · simp only [take, StateT.run_bind, StateT.run_get, pure_bind, hshort, if_false]
    exact congrArg (fun rest => Except.ok (bytes.take n, rest)) (Input.eq_ofBytes _)

theorem run_ensure (n width : Nat) (input : Input) :
    (ensure n width).run input =
      if input.size < needed n width then .error (.truncated (needed n width) input.size)
      else .ok ((), input) := by
  by_cases hshort : input.size < needed n width
  · simp only [ensure, StateT.run_bind, StateT.run_get, pure_bind, hshort, if_true]
    rfl
  · simp only [ensure, StateT.run_bind, StateT.run_get, pure_bind, hshort, if_false]
    rfl

theorem run_finish (input : Input) :
    finish.run input = if input.size ≠ 0 then .error (.trailingBytes input.size)
      else .ok ((), input) := by
  simp only [finish, StateT.run_bind, StateT.run_get, pure_bind]
  split
  · rfl
  · rfl

end Read

/-! ## Which bytes are read -/

/-- From `bytes` the reader gets `x`, whatever follows them. -/
def Reads {α : Type} (read : Read α) (bytes : Bytes) (x : α) : Prop :=
  ∀ rest, read.run (.ofBytes (bytes ++ rest)) = .ok (x, .ofBytes rest)

namespace Reads

variable {α β : Type} {read : Read α} {next : α → Read β} {front back : Bytes} {x : α} {y : β}

theorem pure (x : α) : Reads (Pure.pure x) [] x := fun _ => rfl

theorem bind (hread : Reads read front x) (hnext : Reads (next x) back y) :
    Reads (read >>= next) (front ++ back) y := by
  intro rest
  rw [StateT.run_bind, List.append_assoc, hread]
  exact hnext rest

/-- The last reader of a sequence leaves nothing to its continuation. -/
theorem map (hread : Reads read front x) (hnext : Reads (next x) [] y) :
    Reads (read >>= next) front y := by
  have h := hread.bind hnext
  rwa [List.append_nil] at h

theorem take {n : Nat} {bytes : Bytes} (h : bytes.length = n) :
    Reads (Read.take n) bytes bytes := by
  intro rest
  have hsize : ¬ (Input.ofBytes (bytes ++ rest)).size < n := by
    show ¬ (bytes ++ rest).length < n
    rw [List.length_append]
    omega
  rw [Read.run_take, if_neg hsize]
  show Except.ok ((bytes ++ rest).take n, Input.ofBytes ((bytes ++ rest).drop n)) = _
  rw [List.take_left' h, List.drop_left' h]

theorem count {n : Nat} (h : n ≤ Read.maxCount) : Reads Read.count (writeCount n) n := by
  have hlt : n < Bytes.capacity 8 := lt_of_le_of_lt h (by decide)
  have htake : Reads Read.count (writeCount n)
      (Bytes.ofLittleEndian (Bytes.littleEndian 8 n)) :=
    (take (Bytes.length_littleEndian 8 n)).map (pure _)
  rwa [Bytes.ofLittleEndian_littleEndian hlt] at htake

/-- Bytes that are there are not asked for in vain. -/
theorem ensure {next : Read β} {n width : Nat} (h : n * width ≤ back.length)
    (hnext : Reads next back y) : Reads (Read.ensure n width >>= fun _ => next) back y := by
  intro rest
  have hsize : ¬ (Input.ofBytes (back ++ rest)).size < Read.needed n width := by
    show ¬ (back ++ rest).length < Read.needed n width
    rw [Read.needed, List.length_append]
    split
    · omega
    · omega
  rw [StateT.run_bind, Read.run_ensure, if_neg hsize]
  exact hnext rest

/-- A refusal that does not apply. -/
theorem guard {c : Prop} [Decidable c] {e : CodecError} {next : Unit → Read β} (hc : ¬ c)
    (hnext : Reads (next ()) back y) :
    Reads (if c then throw e >>= next else next ()) back y := by
  rwa [if_neg hc]

theorem many {write : α → Bytes} {xs : List α} (h : ∀ x ∈ xs, Reads read (write x) x) :
    Reads (Read.many read xs.length) (xs.flatMap write) xs := by
  induction xs with
  | nil => exact pure []
  | cons x xs ih =>
      rw [List.forall_mem_cons] at h
      exact h.1.bind ((ih h.2).map (pure (x :: xs)))

theorem counted {write : α → Bytes} {xs : List α} {width : Nat} (hlen : xs.length ≤ Read.maxCount)
    (hwidth : ∀ x ∈ xs, width ≤ (write x).length) (h : ∀ x ∈ xs, Reads read (write x) x) :
    Reads (Read.counted width read) (writeCount xs.length ++ xs.flatMap write) xs := by
  have hbytes : xs.length * width ≤ (xs.flatMap write).length := by
    rw [List.length_flatMap]
    have hsum := List.card_nsmul_le_sum (xs.map fun x => (write x).length) width
      (List.forall_mem_map.2 hwidth)
    rwa [List.length_map, smul_eq_mul] at hsum
  exact (count hlen).bind (ensure hbytes (many h))

end Reads

/-! ## What is returned -/

/-- Whatever the reader returns satisfies `P`. -/
def Returns {α : Type} (read : Read α) (P : α → Prop) : Prop :=
  ∀ input out, read.run input = .ok out → P out.1

namespace Returns

variable {α β : Type} {read : Read α} {next : α → Read β} {P : α → Prop} {Q : β → Prop}

theorem pure {x : α} (h : P x) : Returns (Pure.pure x) P := by
  intro input out hout
  cases hout
  exact h

theorem trivial (read : Read α) : Returns read fun _ => True := fun _ _ _ => True.intro

theorem throw (e : CodecError) : Returns (MonadExcept.throw e : Read α) P := by
  intro input out hout
  cases hout

theorem throw_bind (e : CodecError) : Returns (MonadExcept.throw e >>= next) Q := by
  intro input out hout
  cases hout

theorem mono {P' : α → Prop} (h : Returns read P) (hP : ∀ x, P x → P' x) : Returns read P' :=
  fun input out hout => hP out.1 (h input out hout)

theorem bind (hread : Returns read P) (hnext : ∀ x, P x → Returns (next x) Q) :
    Returns (read >>= next) Q := by
  intro input out hout
  obtain ⟨mid, hmid, hrest⟩ := Read.of_bind_run_eq_ok hout
  exact hnext mid.1 (hread input mid hmid) mid.2 out hrest

/-- What the refusal lets through has passed it. -/
theorem guard {c : Prop} [Decidable c] {e : CodecError} {next : Unit → Read β}
    (hnext : ¬ c → Returns (next ()) Q) :
    Returns (if c then MonadExcept.throw e >>= next else next ()) Q := by
  by_cases hc : c
  · rw [if_pos hc]
    exact throw_bind e
  · rw [if_neg hc]
    exact hnext hc

theorem take (n : Nat) : Returns (Read.take n) fun bytes => bytes.length = n := by
  intro input out hout
  obtain ⟨bytes, size, rfl⟩ := input
  rw [Read.run_take] at hout
  split at hout
  · cases hout
  · next hsize =>
      cases hout
      rw [List.length_take, Nat.min_eq_left (not_lt.1 hsize)]

theorem count : Returns Read.count (· ≤ Read.maxCount) := by
  refine (take 8).bind fun bytes hbytes => pure ?_
  have hlt := Bytes.ofLittleEndian_lt bytes
  rw [hbytes] at hlt
  exact Nat.le_of_lt_succ (lt_of_lt_of_eq hlt (by decide))

theorem many (h : Returns read P) (n : Nat) :
    Returns (Read.many read n) fun xs => xs.length = n ∧ ∀ x ∈ xs, P x := by
  induction n with
  | zero => exact pure ⟨rfl, by simp⟩
  | succ n ih =>
      refine h.bind fun x hx => ih.bind fun xs hxs => pure ⟨?_, ?_⟩
      · rw [List.length_cons, hxs.1]
      · exact List.forall_mem_cons.2 ⟨hx, hxs.2⟩

theorem counted (h : Returns read P) (width : Nat) :
    Returns (Read.counted width read) fun xs => xs.length ≤ Read.maxCount ∧ ∀ x ∈ xs, P x :=
  count.bind fun n hn => (trivial _).bind fun _ _ => (h.many n).mono fun _ hxs =>
    ⟨hxs.1.trans_le hn, hxs.2⟩

end Returns

/-! ## What is taken -/

/-- Of whatever the reader returns and the bytes it took for it, `P` holds. -/
def Takes {α : Type} (read : Read α) (P : α → Bytes → Prop) : Prop :=
  ∀ input out, read.run input = .ok out →
    ∃ front, input.bytes = front ++ out.2.bytes ∧ P out.1 front

namespace Takes

variable {α β : Type} {read : Read α} {next : α → Read β} {P : α → Bytes → Prop}
  {Q : β → Bytes → Prop}

theorem pure {x : α} (h : P x []) : Takes (Pure.pure x) P := by
  intro input out hout
  cases hout
  exact ⟨[], rfl, h⟩

theorem throw (e : CodecError) : Takes (MonadExcept.throw e : Read α) P := by
  intro input out hout
  cases hout

theorem throw_bind (e : CodecError) : Takes (MonadExcept.throw e >>= next) Q := by
  intro input out hout
  cases hout

theorem mono {P' : α → Bytes → Prop} (h : Takes read P)
    (hP : ∀ x front, P x front → P' x front) : Takes read P' := by
  intro input out hout
  obtain ⟨front, hfront, hout⟩ := h input out hout
  exact ⟨front, hfront, hP out.1 front hout⟩

theorem bind (hread : Takes read P)
    (hnext : ∀ x front, P x front → Takes (next x) fun y back => Q y (front ++ back)) :
    Takes (read >>= next) Q := by
  intro input out hout
  obtain ⟨mid, hmid, hrest⟩ := Read.of_bind_run_eq_ok hout
  obtain ⟨front, hfront, hP⟩ := hread input mid hmid
  obtain ⟨back, hback, hQ⟩ := hnext mid.1 front hP mid.2 out hrest
  refine ⟨front ++ back, ?_, hQ⟩
  rw [hfront, hback, List.append_assoc]

theorem guard {c : Prop} [Decidable c] {e : CodecError} {next : Unit → Read β}
    (hnext : ¬ c → Takes (next ()) Q) :
    Takes (if c then MonadExcept.throw e >>= next else next ()) Q := by
  by_cases hc : c
  · rw [if_pos hc]
    exact throw_bind e
  · rw [if_neg hc]
    exact hnext hc

theorem take (n : Nat) :
    Takes (Read.take n) fun bytes front => front = bytes ∧ bytes.length = n := by
  intro input out hout
  have hlen := Returns.take n input out hout
  rw [Read.run_take] at hout
  split at hout
  · cases hout
  · cases hout
    exact ⟨_, (List.take_append_drop n input.bytes).symm, rfl, hlen⟩

/-- Eight bytes are the writing of the count they are read as. -/
theorem count : Takes Read.count fun n front => front = writeCount n := by
  refine (take 8).bind fun bytes front hfront => pure ?_
  obtain ⟨rfl, hlen⟩ := hfront
  rw [List.append_nil, writeCount, ← hlen, Bytes.littleEndian_ofLittleEndian]

theorem ensure (n width : Nat) : Takes (Read.ensure n width) fun _ front => front = [] := by
  intro input out hout
  rw [Read.run_ensure] at hout
  split at hout
  · cases hout
  · cases hout
    exact ⟨[], rfl, rfl⟩

theorem many {write : α → Bytes} (h : Takes read fun x front => front = write x) (n : Nat) :
    Takes (Read.many read n) fun xs front => xs.length = n ∧ front = xs.flatMap write := by
  induction n with
  | zero => exact pure ⟨rfl, rfl⟩
  | succ n ih =>
      refine h.bind fun x front hfront => ih.bind fun xs back hback => pure ⟨?_, ?_⟩
      · rw [List.length_cons, hback.1]
      · rw [hfront, hback.2, List.append_nil, List.flatMap_cons]

theorem counted {write : α → Bytes} (h : Takes read fun x front => front = write x)
    (width : Nat) : Takes (Read.counted width read) fun xs front =>
      front = writeCount xs.length ++ xs.flatMap write := by
  refine count.bind fun n front hfront => (ensure n width).bind fun _ none hnone => ?_
  refine (h.many n).mono fun xs back hxs => ?_
  rw [hfront, hnone, hxs.1, hxs.2, List.nil_append]

end Takes

end PreimageProof
