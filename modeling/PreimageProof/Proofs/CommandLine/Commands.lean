import Mathlib
import PreimageProof.CommandLine.Program
import PreimageProof.Proofs.Mimc.StandardKeys

/-!
# What a command does to the files

A command is followed through its operations once, in whatever surroundings
keep the six files of a folder: saving succeeds and replaces one file, reading
gives what is there, and nothing else changes any. What comes out is a table
with a line for each way a command can end, and everything about sequences of
commands is read off that table.

The files are followed along, not the state of the surroundings. Of the
scalars that a command draws nothing is known, which is why the table has a
line for a setup that is refused.
-/

namespace PreimageProof

namespace CommandLine

open Artifact (encode decode)
open SourceOps (isValid)

theorem run_bind_eq {τ α β : Type} {x : StateM τ α} {next : α → StateM τ β} {s s' : τ} {a : α}
    (h : x.run s = (a, s')) : (x >>= next).run s = (next a).run s' := by
  rw [StateT.run_bind, h]
  rfl

/-! ## Files that can be relied on -/

/-- What the six files of a folder contain, where there are any. -/
abbrev Files : Type := Stored → Option Bytes

/-- A folder whose files can be saved and read, and which nobody else writes to. -/
structure Folder (τ : Type) [Surroundings (StateM τ)] where
  path : String
  /-- The states in which operations on the folder succeed. -/
  sound : τ → Prop
  files : τ → Files
  save : ∀ {s : τ}, sound s → ∀ file bytes, ∃ s',
    (saveBytes path file bytes : Attempt (StateM τ) Unit).run.run s = (.ok (), s') ∧ sound s' ∧
      files s' = Function.update (files s) file (some bytes)
  read : ∀ {s : τ}, sound s → ∀ file : Stored, ∃ answer s',
    (Surroundings.read (file.path path) : StateM τ (Except FileError Bytes)).run s = (answer, s') ∧
      answer.toOption = files s file ∧ sound s' ∧ files s' = files s
  print : ∀ {s : τ}, sound s → ∀ text, ∃ s',
    (Surroundings.print text : StateM τ Unit).run s = ((), s') ∧ sound s' ∧ files s' = files s
  scalar : ∀ {s : τ}, sound s → ∃ x s',
    (Surroundings.scalar : StateM τ Fr).run s = (x, s') ∧ sound s' ∧ files s' = files s

namespace Folder

section

variable {τ : Type} [Surroundings (StateM τ)] (F : Folder τ) {s : τ} {fs mid left : Files}

/-- In a state the folder is sound and contains these files. -/
def Holds (s : τ) (fs : Files) : Prop := F.sound s ∧ F.files s = fs

/-- From a state the program ends like this and leaves these files. -/
def Ends {α : Type} (program : Attempt (StateM τ) α) (s : τ) (out : Except Failure α)
    (left : Files) : Prop :=
  ∃ s', program.run.run s = (out, s') ∧ F.Holds s' left

variable {F} {α β ε : Type} {program : Attempt (StateM τ) α} {next : α → Attempt (StateM τ) β}

theorem Ends.unique {out out' : Except Failure α} (h : F.Ends program s out left)
    (h' : F.Ends program s out' mid) : out = out' := by
  obtain ⟨s₁, hrun, -⟩ := h
  obtain ⟨s₂, hrun', -⟩ := h'
  exact congrArg Prod.fst (hrun.symm.trans hrun')

theorem ends_bind_of_run {s' : τ} {a : α} {out : Except Failure β}
    (hrun : program.run.run s = (.ok a, s')) (hnext : F.Ends (next a) s' out left) :
    F.Ends (program >>= next) s out left := by
  obtain ⟨s₁, hrun', hs₁⟩ := hnext
  refine ⟨s₁, ?_, hs₁⟩
  rw [ExceptT.run_bind, run_bind_eq hrun]
  exact hrun'

theorem Ends.bind {a : α} {out : Except Failure β} (h : F.Ends program s (.ok a) mid)
    (hnext : ∀ s', F.Holds s' mid → F.Ends (next a) s' out left) :
    F.Ends (program >>= next) s out left := by
  obtain ⟨s₁, hrun, hs₁⟩ := h
  exact ends_bind_of_run hrun (hnext s₁ hs₁)

theorem Ends.bind_error {failure : Failure} (h : F.Ends program s (.error failure) left) :
    F.Ends (program >>= next) s (.error failure) left := by
  obtain ⟨s₁, hrun, hs₁⟩ := h
  refine ⟨s₁, ?_, hs₁⟩
  rw [ExceptT.run_bind, run_bind_eq hrun]
  rfl

/-- Programs that leave the files as they are, one after the other. -/
theorem exists_ends_bind (h : ∃ out, F.Ends program s out fs)
    (hnext : ∀ a s', F.Holds s' fs → ∃ out, F.Ends (next a) s' out fs) :
    ∃ out, F.Ends (program >>= next) s out fs := by
  obtain ⟨out, hout⟩ := h
  cases out with
  | error failure => exact ⟨_, hout.bind_error⟩
  | ok a =>
      obtain ⟨s₁, hrun, hs₁⟩ := hout
      obtain ⟨out, hnext⟩ := hnext a s₁ hs₁
      exact ⟨out, ends_bind_of_run hrun hnext⟩

/-! ## Operations -/

theorem ends_pure (h : F.Holds s fs) (a : α) : F.Ends (pure a) s (.ok a) fs := ⟨s, rfl, h⟩

theorem ends_lift {x : StateM τ α} {a : α} {s' : τ} (hrun : x.run s = (a, s'))
    (h : F.Holds s' fs) : F.Ends (ExceptT.lift x) s (.ok a) fs := by
  refine ⟨s', ?_, h⟩
  rw [ExceptT.run_lift, StateT.run_map, hrun]
  rfl

theorem ends_print (h : F.Holds s fs) (text : String) :
    F.Ends (CommandLine.print text) s (.ok ()) fs := by
  obtain ⟨hsound, rfl⟩ := h
  obtain ⟨s', hrun, hs', hfiles⟩ := F.print hsound text
  exact ends_lift hrun ⟨hs', hfiles⟩

theorem ends_saveBytes (h : F.Holds s fs) (file : Stored) (bytes : Bytes) :
    F.Ends (saveBytes F.path file bytes) s (.ok ()) (Function.update fs file (some bytes)) := by
  obtain ⟨hsound, rfl⟩ := h
  exact F.save hsound file bytes

theorem ends_save [Artifact α] (h : F.Holds s fs) (file : Stored) (x : α) :
    F.Ends (CommandLine.save F.path file x) s (.ok ())
      (Function.update fs file (some (encode x))) :=
  ends_saveBytes h file _

theorem ends_saveText (h : F.Holds s fs) (file : Stored) (text : String) :
    F.Ends (saveText F.path file text) s (.ok ())
      (Function.update fs file (some (Bytes.ofString text))) :=
  ends_saveBytes h file _

theorem ends_attempt (context : ε → Failure) {outcome : StateM τ (Except ε α)}
    {answer : Except ε α} {s' : τ} (hrun : outcome.run s = (answer, s')) (h : F.Holds s' fs) :
    F.Ends (attempt context outcome) s (answer.mapError context) fs := by
  refine ⟨s', ?_, h⟩
  rw [attempt, ExceptT.run_mk, run_bind_eq hrun]
  rfl

theorem ends_attempt_pure (h : F.Holds s fs) (context : ε → Failure) (answer : Except ε α) :
    F.Ends (attempt context (pure answer)) s (answer.mapError context) fs :=
  ends_attempt context rfl h

theorem ends_attempt_of_ok (h : F.Holds s fs) (context : ε → Failure) {answer : Except ε α} {a : α}
    (hanswer : answer = .ok a) : F.Ends (attempt context (pure answer)) s (.ok a) fs := by
  subst hanswer
  exact ends_attempt_pure h context _

theorem ends_attempt_of_error (h : F.Holds s fs) (context : ε → Failure) {answer : Except ε α}
    {e : ε} (hanswer : answer = .error e) :
    F.Ends (attempt context (pure answer)) s (.error (context e)) fs := by
  subst hanswer
  exact ends_attempt_pure h context _

/-- Loading leaves the files as they are, and succeeds with what the bytes of the
file are an encoding of. -/
theorem ends_load [Artifact α] (h : F.Holds s fs) (file : Stored) :
    ∃ out, F.Ends (load F.path file : Attempt (StateM τ) α) s out fs ∧
      ∀ x, out = .ok x ↔ ∃ bytes, fs file = some bytes ∧ decode bytes = .ok x := by
  obtain ⟨hsound, rfl⟩ := h
  obtain ⟨answer, s', hrun, hanswer, hs', hfiles⟩ := F.read hsound file
  rw [load, ← hanswer]
  have hread := ends_attempt (.reading (file.path F.path)) hrun ⟨hs', hfiles⟩
  cases answer with
  | error error =>
      refine ⟨_, hread.bind_error, fun x => ?_⟩
      simp [Except.toOption]
  | ok bytes =>
      refine ⟨_, hread.bind fun s₁ hs₁ => ends_attempt_pure hs₁ _ _, fun x => ?_⟩
      rw [mapError_eq_ok_iff]
      simp [Except.toOption]

theorem ends_load_of_decode [Artifact α] (h : F.Holds s fs) {file : Stored} {bytes : Bytes}
    (hfile : fs file = some bytes) {x : α} (hdecode : decode bytes = .ok x) :
    F.Ends (load F.path file) s (.ok x) fs := by
  obtain ⟨out, hout, hok⟩ := ends_load (α := α) h file
  rwa [(hok x).2 ⟨bytes, hfile, hdecode⟩] at hout

theorem exists_ends_load (α : Type) [Artifact α] (h : F.Holds s fs) (file : Stored) :
    ∃ out, F.Ends (load F.path file : Attempt (StateM τ) α) s out fs := by
  obtain ⟨out, hout, -⟩ := ends_load (α := α) h file
  exact ⟨out, hout⟩

/-! ## Secrets

The secrets of a setup are named, because whether it is refused depends on
them alone. -/

/-- The secrets that a setup draws in a state. -/
def trapdoorAt (s : τ) : Trapdoor :=
  ((Trapdoor.draw Surroundings.scalar : StateM τ Trapdoor).run s).1

theorem exists_scalar (h : F.Holds s fs) : ∃ x s',
    (Surroundings.scalar : StateM τ Fr).run s = (x, s') ∧ F.Holds s' fs := by
  obtain ⟨hsound, rfl⟩ := h
  exact F.scalar hsound

theorem ends_trapdoor (h : F.Holds s fs) :
    F.Ends (ExceptT.lift (Trapdoor.draw Surroundings.scalar)) s (.ok (trapdoorAt s)) fs := by
  obtain ⟨alpha, s₁, halpha, h₁⟩ := exists_scalar h
  obtain ⟨beta, s₂, hbeta, h₂⟩ := exists_scalar h₁
  obtain ⟨gamma, s₃, hgamma, h₃⟩ := exists_scalar h₂
  obtain ⟨delta, s₄, hdelta, h₄⟩ := exists_scalar h₃
  obtain ⟨tau, s₅, htau, h₅⟩ := exists_scalar h₄
  have hrun : (Trapdoor.draw Surroundings.scalar : StateM τ Trapdoor).run s =
      (⟨alpha, beta, gamma, delta, tau⟩, s₅) := by
    rw [Trapdoor.draw, run_bind_eq halpha, run_bind_eq hbeta, run_bind_eq hgamma,
      run_bind_eq hdelta, run_bind_eq htau]
    rfl
  rw [trapdoorAt, hrun]
  exact ends_lift hrun h₅

theorem ends_blinding (h : F.Holds s fs) : ∃ blind : Blinding,
    F.Ends (ExceptT.lift (Blinding.draw Surroundings.scalar)) s (.ok blind) fs := by
  obtain ⟨r, s₁, hr, h₁⟩ := exists_scalar h
  obtain ⟨r', s₂, hr', h₂⟩ := exists_scalar h₁
  have hrun : (Blinding.draw Surroundings.scalar : StateM τ Blinding).run s = (⟨r, r'⟩, s₂) := by
    rw [Blinding.draw, run_bind_eq hr, run_bind_eq hr']
    rfl
  exact ⟨_, ends_lift hrun h₂⟩

end

end Folder

/-! ## Keys and proofs on file -/

section

variable {G₁ G₂ GT : Type} [SourceOps G₁] [SourceOps G₂] [PairingOps G₁ G₂ GT] [DecidableEq GT]
  [ElementCodec G₁] [ElementCodec G₂]

/-- A proof that can be stored, with its public inputs, and that the keys accept. -/
structure Accepts (keys : Keys G₁ G₂) (proof : Proof G₁ G₂) (publics : PublicWitness) : Prop where
  valid : proof.Valid
  counted : publics.Counted
  accepted : keys.verifying.verify publics proof = .ok true

namespace Files

def HoldKeys (fs : Files) (keys : Keys G₁ G₂) : Prop :=
  fs .provingKey = some (encode keys.proving) ∧ fs .verifyingKey = some (encode keys.verifying)

def HoldProof (fs : Files) (proof : Proof G₁ G₂) (publics : PublicWitness) : Prop :=
  fs .proof = some (encode proof) ∧ fs .publicWitness = some (encode publics)

variable (G₁ G₂)

/-- There are no keys, or those of one setup. -/
def KeysKept (fs : Files) : Prop :=
  (fs .provingKey = none ∧ fs .verifyingKey = none) ∨
    ∃ keys : Keys G₁ G₂, Preimage.Makes keys ∧ fs.HoldKeys keys

/-- There are keys of one setup, and a proof that these keys accept. -/
def Fresh (fs : Files) : Prop :=
  ∃ (keys : Keys G₁ G₂) (proof : Proof G₁ G₂) (publics : PublicWitness),
    Preimage.Makes keys ∧ fs.HoldKeys keys ∧ fs.HoldProof proof publics ∧
      Accepts keys proof publics

end Files

/-! ## Verifying -/

namespace Folder

variable {τ : Type} [Surroundings (StateM τ)] {F : Folder τ} {s : τ} {fs : Files}

omit [ElementCodec G₁] [ElementCodec G₂] in
theorem exists_ends_checkProof (h : F.Holds s fs) (vk : VerifyingKey G₁ G₂)
    (publics : PublicWitness) (proof : Proof G₁ G₂) :
    ∃ out, F.Ends (checkProof vk publics proof) s out fs :=
  exists_ends_bind ⟨_, ends_attempt_pure h .verifying (vk.verify publics proof)⟩
    fun valid _ h₁ => ⟨_, (ends_print h₁ _).bind fun _ h₂ => ends_pure h₂ valid⟩

omit [ElementCodec G₁] [ElementCodec G₂] in
theorem ends_checkProof (h : F.Holds s fs) {keys : Keys G₁ G₂} {proof : Proof G₁ G₂}
    {publics : PublicWitness} (haccepts : Accepts keys proof publics) :
    F.Ends (checkProof keys.verifying publics proof) s (.ok true) fs := by
  refine (ends_attempt_of_ok h .verifying haccepts.accepted).bind fun s₁ h₁ => ?_
  exact (ends_print h₁ _).bind fun s₂ h₂ => ends_pure h₂ true

variable (G₁ G₂) in
theorem exists_ends_verifyStored (h : F.Holds s fs) :
    ∃ out, F.Ends (verifyStored G₁ G₂ F.path) s out fs := by
  rw [verifyStored]
  refine exists_ends_bind (exists_ends_load _ h _) fun vk s₁ h₁ => ?_
  refine exists_ends_bind (exists_ends_load _ h₁ _) fun proof s₂ h₂ => ?_
  refine exists_ends_bind (exists_ends_load _ h₂ _) fun publics s₃ h₃ => ?_
  exact exists_ends_checkProof h₃ vk publics proof

theorem ends_verifyStored_of_fresh [ClosedSource G₁] [ClosedSource G₂]
    (hG₁ : ElementCodec.Lawful G₁ (isValid · = true))
    (hG₂ : ElementCodec.Lawful G₂ (isValid · = true)) (h : F.Holds s fs)
    (hfresh : fs.Fresh G₁ G₂) : F.Ends (verifyStored G₁ G₂ F.path) s (.ok true) fs := by
  obtain ⟨keys, proof, publics, hkeys, hheld, hheld', haccepts⟩ := hfresh
  have hvk := (faithful_verifyingKey hG₁ hG₂).decode_encode _ hkeys.valid_verifying trivial
  have hproof := (faithful_proof hG₁ hG₂).decode_encode _ haccepts.valid trivial
  have hpublics := faithful_publicWitness.decode_encode _ trivial haccepts.counted
  rw [verifyStored]
  refine (ends_load_of_decode h hheld.2 hvk).bind fun s₁ h₁ => ?_
  refine (ends_load_of_decode h₁ hheld'.1 hproof).bind fun s₂ h₂ => ?_
  refine (ends_load_of_decode h₂ hheld'.2 hpublics).bind fun s₃ h₃ => ?_
  exact ends_checkProof h₃ haccepts

end Folder

/-! ## Making keys and proofs -/

variable [Exported G₁ G₂]

namespace Files

/-- The files after keys were saved. -/
def withKeys (fs : Files) (keys : Keys G₁ G₂) : Files :=
  Function.update (Function.update
    (Function.update fs .provingKey (some (encode keys.proving)))
      .verifyingKey (some (encode keys.verifying)))
        .contract (some (Bytes.ofString (Exported.contract keys.verifying)))

/-- The files after a proof was saved. -/
def withProof (fs : Files) (proof : Proof G₁ G₂) (publics : PublicWitness) : Files :=
  Function.update (Function.update
    (Function.update fs .proof (some (encode proof)))
      .publicWitness (some (encode publics)))
        .calldata (some (Bytes.ofString (Exported.document proof publics)))

end Files

namespace Folder

variable {τ : Type} [Surroundings (StateM τ)] {F : Folder τ} {s : τ} {fs : Files}
  {keys : Keys G₁ G₂} {x y : Fr}

theorem ends_makeKeys_of_ok (h : F.Holds s fs) {compiled : CompiledCircuit}
    (hsetup : Preimage.setup (trapdoorAt s) = .ok (compiled, keys)) :
    F.Ends (makeKeys F.path) s (.ok keys) (fs.withKeys keys) := by
  refine (ends_trapdoor h).bind fun s₁ h₁ => ?_
  refine (ends_attempt_of_ok h₁ .setup hsetup).bind fun s₂ h₂ => ?_
  refine (ends_save h₂ .provingKey keys.proving).bind fun s₃ h₃ => ?_
  refine (ends_save h₃ .verifyingKey keys.verifying).bind fun s₄ h₄ => ?_
  refine (ends_saveText h₄ .contract _).bind fun s₅ h₅ => ?_
  refine (ends_print h₅ _).bind fun s₆ h₆ => ?_
  exact (ends_print h₆ _).bind fun s₇ h₇ => ends_pure h₇ keys

theorem ends_makeKeys_of_error (h : F.Holds s fs) {error : Error}
    (hsetup : (Preimage.setup (trapdoorAt s) : Except Error (CompiledCircuit × Keys G₁ G₂)) =
      .error error) :
    F.Ends (makeKeys F.path : Attempt (StateM τ) (Keys G₁ G₂)) s (.error (.setup error)) fs := by
  refine (ends_trapdoor h).bind fun s₁ h₁ => ?_
  exact (ends_attempt_of_error h₁ .setup hsetup).bind_error

theorem ends_makeProof_of_ne (h : F.Holds s fs) (hkeys : Preimage.Makes keys)
    (hne : mimcHash x ≠ y) :
    F.Ends (makeProof F.path keys.proving x y) s
      (.error (.notPreimage x y (.unsatisfied 330))) fs := by
  obtain ⟨blind, hblind⟩ := ends_blinding h
  refine hblind.bind fun s₁ h₁ => ?_
  exact (ends_attempt_of_error h₁ (provingFailure x y) (hkeys.prove_of_ne hne blind)).bind_error

theorem ends_makeProof_of_eq [LawfulSource G₁] [LawfulSource G₂] [BilinearPairing G₁ G₂]
    (h : F.Holds s fs) (hkeys : Preimage.Makes keys) (heq : mimcHash x = y) :
    ∃ proof, Accepts keys proof ⟨[y]⟩ ∧
      F.Ends (makeProof F.path keys.proving x y) s (.ok (proof, ⟨[y]⟩))
        (fs.withProof proof ⟨[y]⟩) := by
  -- Which proof it is depends on the blinding, that there is one does not.
  obtain ⟨blind, hblind⟩ := ends_blinding h
  obtain ⟨proof, hproof, hvalid, haccepted⟩ := hkeys.prove_of_eq heq blind
  have hcounted : (⟨[y]⟩ : PublicWitness).Counted := show 1 ≤ Read.maxCount by decide
  refine ⟨proof, ⟨hvalid, hcounted, haccepted⟩, hblind.bind fun s₁ h₁ => ?_⟩
  refine (ends_attempt_of_ok h₁ (provingFailure x y) hproof).bind fun s₂ h₂ => ?_
  refine (ends_save h₂ .proof proof).bind fun s₃ h₃ => ?_
  refine (ends_save h₃ .publicWitness (⟨[y]⟩ : PublicWitness)).bind fun s₄ h₄ => ?_
  refine (ends_saveText h₄ .calldata _).bind fun s₅ h₅ => ?_
  refine (ends_print h₅ _).bind fun s₆ h₆ => ?_
  exact (ends_print h₆ _).bind fun s₇ h₇ => ends_pure h₇ _

variable (G₁ G₂) in
theorem ends_proveStored_of_missing (h : F.Holds s fs) (hmissing : fs .provingKey = none)
    (x y : Fr) :
    ∃ failure, F.Ends (proveStored G₁ G₂ F.path x y) s (.error failure) fs := by
  obtain ⟨out, hload, hout⟩ := ends_load (α := ProvingKey G₁ G₂) h .provingKey
  rw [proveStored]
  cases out with
  | error failure => exact ⟨failure, hload.bind_error⟩
  | ok pk =>
      obtain ⟨bytes, hbytes, -⟩ := (hout pk).1 rfl
      rw [hmissing] at hbytes
      cases hbytes

/-- With keys on file proving is what it is with keys in memory. -/
theorem ends_proveStored_of_held [ClosedSource G₁] [ClosedSource G₂]
    (hG₁ : ElementCodec.Lawful G₁ (isValid · = true))
    (hG₂ : ElementCodec.Lawful G₂ (isValid · = true)) (h : F.Holds s fs)
    (hkeys : Preimage.Makes keys) (hheld : fs.HoldKeys keys) :
    ∃ s', F.Holds s' fs ∧ ∀ out left,
      F.Ends (makeProof F.path keys.proving x y >>= fun _ => pure ()) s' out left →
        F.Ends (proveStored G₁ G₂ F.path x y) s out left := by
  obtain ⟨hvalid, hcounted⟩ := hkeys.valid_proving
  obtain ⟨s₁, hload, h₁⟩ := ends_load_of_decode h hheld.1
    ((faithful_provingKey hG₁ hG₂).decode_encode _ hvalid hcounted)
  refine ⟨s₁, h₁, fun out left hproof => ?_⟩
  rw [proveStored]
  exact ends_bind_of_run hload hproof

end Folder

/-! ## The table -/

section

variable (G₁ G₂)

/-- What a command does that draws the secrets `t` where it needs some and finds
the files `fs`: how it ends, and the files it leaves. -/
inductive Effect (t : Trapdoor) (fs : Files) : Task → Except Failure Bool → Files → Prop where
  | hash (x : Fr) : Effect t fs (.hash x) (.ok true) fs
  | setup {compiled : CompiledCircuit} {keys : Keys G₁ G₂}
      (hsetup : Preimage.setup t = .ok (compiled, keys)) :
      Effect t fs .setup (.ok true) (fs.withKeys keys)
  | setupRefused {error : Error}
      (hsetup : (Preimage.setup t : Except Error (CompiledCircuit × Keys G₁ G₂)) = .error error) :
      Effect t fs .setup (.error (.setup error)) fs
  | prove {keys : Keys G₁ G₂} {x y : Fr} {proof : Proof G₁ G₂} (hkeys : Preimage.Makes keys)
      (hheld : fs.HoldKeys keys) (heq : mimcHash x = y) (haccepts : Accepts keys proof ⟨[y]⟩) :
      Effect t fs (.prove x y) (.ok true) (fs.withProof proof ⟨[y]⟩)
  | proveRefused {x y : Fr} (failure : Failure)
      (h : fs .provingKey = none ∨ mimcHash x ≠ y) :
      Effect t fs (.prove x y) (.error failure) fs
  | verify {out : Except Failure Bool} (hfresh : fs.Fresh G₁ G₂ → out = .ok true) :
      Effect t fs .verify out fs
  | run {compiled : CompiledCircuit} {keys : Keys G₁ G₂} {x y : Fr} {proof : Proof G₁ G₂}
      (hsetup : Preimage.setup t = .ok (compiled, keys)) (haccepts : Accepts keys proof ⟨[y]⟩) :
      Effect t fs (.run x y) (.ok true) ((fs.withKeys keys).withProof proof ⟨[y]⟩)
  | runStopped {compiled : CompiledCircuit} {keys : Keys G₁ G₂} {x y : Fr} (failure : Failure)
      (hsetup : Preimage.setup t = .ok (compiled, keys)) :
      Effect t fs (.run x y) (.error failure) (fs.withKeys keys)
  | runRefused {x y : Fr} {error : Error}
      (hsetup : (Preimage.setup t : Except Error (CompiledCircuit × Keys G₁ G₂)) = .error error) :
      Effect t fs (.run x y) (.error (.setup error)) fs

end

namespace Folder

variable [PrimeOrder G₁] [PrimeOrder G₂] [BilinearPairing G₁ G₂] {τ : Type}
  [Surroundings (StateM τ)] {F : Folder τ} {s : τ} {fs : Files} {x y : Fr}

theorem exists_prove_effect (hG₁ : ElementCodec.Lawful G₁ (isValid · = true))
    (hG₂ : ElementCodec.Lawful G₂ (isValid · = true)) (h : F.Holds s fs)
    (hkept : fs.KeysKept G₁ G₂) :
    ∃ out left, F.Ends (Invocation.perform G₁ G₂ ⟨F.path, .prove x y⟩) s out left ∧
      Effect G₁ G₂ (trapdoorAt s) fs (.prove x y) out left := by
  rw [Invocation.perform]
  rcases hkept with ⟨hmissing, -⟩ | ⟨keys, hkeys, hheld⟩
  · obtain ⟨failure, hrefused⟩ := ends_proveStored_of_missing G₁ G₂ h hmissing x y
    exact ⟨_, _, hrefused.bind_error, .proveRefused failure (.inl hmissing)⟩
  obtain ⟨s₁, h₁, hstored⟩ := ends_proveStored_of_held hG₁ hG₂ h hkeys hheld
  by_cases heq : mimcHash x = y
  · obtain ⟨proof, haccepts, hproof⟩ := ends_makeProof_of_eq h₁ hkeys heq
    have hproved := hstored _ _ (hproof.bind fun s₂ h₂ => ends_pure h₂ ())
    exact ⟨_, _, hproved.bind fun s₂ h₂ => ends_pure h₂ true, .prove hkeys hheld heq haccepts⟩
  · have hrefused := hstored _ _ (ends_makeProof_of_ne h₁ hkeys heq).bind_error
    exact ⟨_, _, hrefused.bind_error, .proveRefused _ (.inr heq)⟩

theorem exists_run_effect (h : F.Holds s fs) :
    ∃ out left, F.Ends (Invocation.perform G₁ G₂ ⟨F.path, .run x y⟩) s out left ∧
      Effect G₁ G₂ (trapdoorAt s) fs (.run x y) out left := by
  rw [Invocation.perform]
  cases hsetup : (Preimage.setup (trapdoorAt s) : Except Error (CompiledCircuit × Keys G₁ G₂)) with
  | error error =>
      exact ⟨_, _, (ends_makeKeys_of_error h hsetup).bind_error, .runRefused hsetup⟩
  | ok made =>
      obtain ⟨compiled, keys⟩ := made
      obtain ⟨s₁, hrun, h₁⟩ := ends_makeKeys_of_ok h hsetup
      have hkeys : Preimage.Makes keys := ⟨_, _, hsetup⟩
      by_cases heq : mimcHash x = y
      · obtain ⟨proof, haccepts, hproof⟩ := ends_makeProof_of_eq h₁ hkeys heq
        refine ⟨_, _, ends_bind_of_run hrun (hproof.bind fun s₂ h₂ => ?_), .run hsetup haccepts⟩
        exact ends_checkProof h₂ haccepts
      · -- The keys were written before, and stay.
        have hrefused := ends_makeProof_of_ne h₁ hkeys heq
        exact ⟨_, _, ends_bind_of_run hrun hrefused.bind_error, .runStopped _ hsetup⟩

omit [PrimeOrder G₁] [PrimeOrder G₂] [BilinearPairing G₁ G₂] in
theorem ends_setup_of_ok (h : F.Holds s fs) {compiled : CompiledCircuit} {keys : Keys G₁ G₂}
    (hsetup : Preimage.setup (trapdoorAt s) = .ok (compiled, keys)) :
    F.Ends (Invocation.perform G₁ G₂ ⟨F.path, .setup⟩) s (.ok true) (fs.withKeys keys) := by
  rw [Invocation.perform]
  exact (ends_makeKeys_of_ok h hsetup).bind fun s₁ h₁ => ends_pure h₁ true

/-- Every command does what the table says. -/
theorem exists_effect (hG₁ : ElementCodec.Lawful G₁ (isValid · = true))
    (hG₂ : ElementCodec.Lawful G₂ (isValid · = true)) (h : F.Holds s fs)
    (hkept : fs.KeysKept G₁ G₂) (task : Task) :
    ∃ out left, F.Ends (Invocation.perform G₁ G₂ ⟨F.path, task⟩) s out left ∧
      Effect G₁ G₂ (trapdoorAt s) fs task out left := by
  cases task with
  | hash x =>
      rw [Invocation.perform]
      exact ⟨_, _, (ends_print h _).bind fun s₁ h₁ => ends_pure h₁ true, .hash x⟩
  | setup =>
      cases hsetup : (Preimage.setup (trapdoorAt s) :
        Except Error (CompiledCircuit × Keys G₁ G₂)) with
      | error error =>
          rw [Invocation.perform]
          exact ⟨_, _, (ends_makeKeys_of_error h hsetup).bind_error, .setupRefused hsetup⟩
      | ok made => exact ⟨_, _, ends_setup_of_ok h hsetup, .setup hsetup⟩
  | prove x y => exact exists_prove_effect hG₁ hG₂ h hkept
  | verify =>
      obtain ⟨out, hout⟩ := exists_ends_verifyStored G₁ G₂ h
      rw [Invocation.perform]
      exact ⟨out, fs, hout, .verify fun hfresh =>
        hout.unique (ends_verifyStored_of_fresh hG₁ hG₂ h hfresh)⟩
  | run x y => exact exists_run_effect h

end Folder

end

end CommandLine

end PreimageProof
