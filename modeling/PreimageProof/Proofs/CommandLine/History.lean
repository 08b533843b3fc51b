import Mathlib
import PreimageProof.Proofs.CommandLine.Commands

/-!
# Histories of a folder

Commands leave nothing for each other but files, so what is true of a folder
has to be true whatever came before. Two things are. The keys in it come from
one setup and can be read, as can the proof and its inputs; every command
keeps this. And the proof in it belongs to the keys in it, from the moment a
proof is made to the moment keys are next written: a setup replaces both keys
before anything else can fail, and leaves a proof behind that is stale.
-/

namespace PreimageProof

namespace CommandLine

open Artifact (encode decode)
open SourceOps (isValid)

/-! ## Commands in a row -/

namespace Folder

section

variable {τ : Type} [Surroundings (StateM τ)] (F : Folder τ) (G₁ G₂ : Type) {GT : Type}
  [SourceOps G₁] [SourceOps G₂] [PairingOps G₁ G₂ GT] [DecidableEq GT] [ElementCodec G₁]
  [ElementCodec G₂] [Exported G₁ G₂]

/-- How a command ends in the folder, and the state after it. -/
def run (task : Task) (s : τ) : Ending × τ :=
  let (outcome, after) := (Invocation.perform G₁ G₂ ⟨F.path, task⟩ :
    Attempt (StateM τ) Bool).run.run s
  (.ofOutcome outcome, after)

/-- The state after a history. -/
def runAll (history : List Task) (s : τ) : τ :=
  history.foldl (fun s task => (F.run G₁ G₂ task s).2) s

theorem runAll_append_cons (before : List Task) (task : Task) (after : List Task) (s : τ) :
    F.runAll G₁ G₂ (before ++ task :: after) s =
      F.runAll G₁ G₂ after (F.run G₁ G₂ task (F.runAll G₁ G₂ before s)).2 := by
  rw [runAll, List.foldl_append, List.foldl_cons]
  rfl

/-- The command writes keys: it is a setup or begins with one, and the setup succeeds. -/
def WritesKeys (task : Task) (s : τ) : Prop :=
  (task = .setup ∨ ∃ x y, task = .run x y) ∧ (F.run G₁ G₂ .setup s).1.code = 0

/-- No command of a history writes keys. -/
def KeepsKeys : List Task → τ → Prop
  | [], _ => True
  | task :: rest, s => ¬ F.WritesKeys G₁ G₂ task s ∧ KeepsKeys rest (F.run G₁ G₂ task s).2

end

end Folder

/-- The command is one that makes a proof. -/
def Task.Proves (task : Task) : Prop := ∃ x y, task = .prove x y ∨ task = .run x y

theorem Ending.code_eq_zero_iff {out : Except Failure Bool} :
    (Ending.ofOutcome out).code = 0 ↔ out = .ok true := by
  rcases out with failure | ⟨- | -⟩ <;> simp [ofOutcome]

/-! ## What every command keeps -/

section

variable (G₁ G₂ : Type) {GT : Type} [SourceOps G₁] [SourceOps G₂] [PairingOps G₁ G₂ GT]
  [DecidableEq GT] [ElementCodec G₁] [ElementCodec G₂] [Exported G₁ G₂]

/-- The bytes are an artifact of the kind that the file is for. The contract and
the calldata are texts for other programs. -/
def Readable : Stored → Bytes → Prop
  | .provingKey, bytes => ∃ pk : ProvingKey G₁ G₂, decode bytes = .ok pk
  | .verifyingKey, bytes => ∃ vk : VerifyingKey G₁ G₂, decode bytes = .ok vk
  | .proof, bytes => ∃ proof : Proof G₁ G₂, decode bytes = .ok proof
  | .publicWitness, bytes => ∃ publics : PublicWitness, decode bytes = .ok publics
  | .contract, _ => True
  | .calldata, _ => True

/-- What is true of the files after every history. -/
structure Kept (fs : Files) : Prop where
  keys : fs.KeysKept G₁ G₂
  readable : ∀ {file bytes}, fs file = some bytes → Readable G₁ G₂ file bytes

variable {G₁ G₂} {fs left : Files} {t : Trapdoor} {task : Task} {out : Except Failure Bool}

omit [Exported G₁ G₂] in
theorem kept_empty : Kept G₁ G₂ fun _ => none := ⟨.inl ⟨rfl, rfl⟩, fun h => by cases h⟩

omit [SourceOps G₁] [SourceOps G₂] [Exported G₁ G₂] in
theorem readable_update (h : ∀ {file bytes}, fs file = some bytes → Readable G₁ G₂ file bytes)
    (file : Stored) {bytes : Bytes} (hnew : Readable G₁ G₂ file bytes) {file' : Stored}
    {bytes' : Bytes} (h' : Function.update fs file (some bytes) file' = some bytes') :
    Readable G₁ G₂ file' bytes' := by
  by_cases hfile : file' = file
  · subst hfile
    rw [Function.update_self, Option.some.injEq] at h'
    exact h' ▸ hnew
  · rw [Function.update_of_ne hfile] at h'
    exact h h'

section

variable [PrimeOrder G₁] [PrimeOrder G₂]
  (hG₁ : ElementCodec.Lawful G₁ (isValid · = true))
  (hG₂ : ElementCodec.Lawful G₂ (isValid · = true))

include hG₁ hG₂

theorem Kept.withKeys (h : Kept G₁ G₂ fs) {keys : Keys G₁ G₂} (hkeys : Preimage.Makes keys) :
    Kept G₁ G₂ (fs.withKeys keys) := by
  obtain ⟨hvalid, hcounted⟩ := hkeys.valid_proving
  have hpk := (faithful_provingKey hG₁ hG₂).decode_encode _ hvalid hcounted
  have hvk := (faithful_verifyingKey hG₁ hG₂).decode_encode _ hkeys.valid_verifying trivial
  refine ⟨.inr ⟨keys, hkeys, rfl, rfl⟩, fun hfile => ?_⟩
  exact readable_update (readable_update (readable_update h.readable
    .provingKey ⟨_, hpk⟩) .verifyingKey ⟨_, hvk⟩) .contract trivial hfile

omit [PrimeOrder G₁] [PrimeOrder G₂] in
theorem Kept.withProof (h : Kept G₁ G₂ fs) {keys : Keys G₁ G₂} {proof : Proof G₁ G₂}
    {publics : PublicWitness} (haccepts : Accepts keys proof publics) :
    Kept G₁ G₂ (fs.withProof proof publics) := by
  have hproof := (faithful_proof hG₁ hG₂).decode_encode _ haccepts.valid trivial
  have hpublics := faithful_publicWitness.decode_encode _ trivial haccepts.counted
  refine ⟨h.keys, fun hfile => ?_⟩
  exact readable_update (readable_update (readable_update h.readable
    .proof ⟨_, hproof⟩) .publicWitness ⟨_, hpublics⟩) .calldata trivial hfile

theorem Kept.effect (h : Kept G₁ G₂ fs) (heffect : Effect G₁ G₂ t fs task out left) :
    Kept G₁ G₂ left := by
  cases heffect with
  | hash x => exact h
  | setup hsetup => exact h.withKeys hG₁ hG₂ ⟨_, _, hsetup⟩
  | setupRefused hsetup => exact h
  | prove hkeys hheld heq haccepts => exact h.withProof hG₁ hG₂ haccepts
  | proveRefused failure hrefused => exact h
  | verify hfresh => exact h
  | run hsetup haccepts => exact (h.withKeys hG₁ hG₂ ⟨_, _, hsetup⟩).withProof hG₁ hG₂ haccepts
  | runStopped failure hsetup => exact h.withKeys hG₁ hG₂ ⟨_, _, hsetup⟩
  | runRefused hsetup => exact h

end

/-! ## Proofs that belong to the keys -/

theorem fresh_of_proved (heffect : Effect G₁ G₂ t fs task (.ok true) left) (hproves : task.Proves) :
    left.Fresh G₁ G₂ := by
  obtain ⟨x, y, rfl | rfl⟩ := hproves
  · cases heffect with
    | prove hkeys hheld heq haccepts => exact ⟨_, _, _, hkeys, hheld, ⟨rfl, rfl⟩, haccepts⟩
  · cases heffect with
    | run hsetup haccepts =>
        exact ⟨_, _, _, ⟨_, _, hsetup⟩, ⟨rfl, rfl⟩, ⟨rfl, rfl⟩, haccepts⟩

/-- Where no setup succeeds, files change only by a proof made with the keys there are. -/
theorem Effect.of_no_setup (h : Effect G₁ G₂ t fs task out left)
    (hno : (task = .setup ∨ ∃ x y, task = .run x y) →
      ∀ compiled (keys : Keys G₁ G₂), Preimage.setup t ≠ .ok (compiled, keys)) :
    left = fs ∨ ∃ (keys : Keys G₁ G₂) (proof : Proof G₁ G₂) (publics : PublicWitness),
      left = fs.withProof proof publics ∧ Preimage.Makes keys ∧ fs.HoldKeys keys ∧
        Accepts keys proof publics := by
  cases h with
  | hash x => exact .inl rfl
  | setup hsetup => exact absurd hsetup (hno (.inl rfl) _ _)
  | setupRefused hsetup => exact .inl rfl
  | prove hkeys hheld heq haccepts => exact .inr ⟨_, _, _, rfl, hkeys, hheld, haccepts⟩
  | proveRefused failure hrefused => exact .inl rfl
  | verify hfresh => exact .inl rfl
  | run hsetup haccepts => exact absurd hsetup (hno (.inr ⟨_, _, rfl⟩) _ _)
  | runStopped failure hsetup => exact absurd hsetup (hno (.inr ⟨_, _, rfl⟩) _ _)
  | runRefused hsetup => exact .inl rfl

/-! ## Every history -/

namespace Folder

variable [PrimeOrder G₁] [PrimeOrder G₂] [BilinearPairing G₁ G₂] {τ : Type}
  [Surroundings (StateM τ)] {F : Folder τ} {s : τ}

/-- The folder can be relied on and contains what histories lead to. -/
structure InOrder (G₁ G₂ : Type) [SourceOps G₁] [SourceOps G₂] [ElementCodec G₁] [ElementCodec G₂]
    (F : Folder τ) (s : τ) : Prop where
  sound : F.sound s
  kept : Kept G₁ G₂ (F.files s)

omit [PrimeOrder G₁] [PrimeOrder G₂] [BilinearPairing G₁ G₂] in
theorem run_eq_of_ends (h : F.Ends (Invocation.perform G₁ G₂ ⟨F.path, task⟩) s out left) :
    (F.run G₁ G₂ task s).1 = .ofOutcome out ∧ F.Holds (F.run G₁ G₂ task s).2 left := by
  obtain ⟨s', hrun, hs'⟩ := h
  rw [Folder.run, hrun]
  exact ⟨rfl, hs'⟩

variable (hG₁ : ElementCodec.Lawful G₁ (isValid · = true))
  (hG₂ : ElementCodec.Lawful G₂ (isValid · = true))

include hG₁ hG₂

theorem InOrder.run_effect (h : InOrder G₁ G₂ F s) (task : Task) :
    ∃ out left, (F.run G₁ G₂ task s).1 = .ofOutcome out ∧
      F.files (F.run G₁ G₂ task s).2 = left ∧ InOrder G₁ G₂ F (F.run G₁ G₂ task s).2 ∧
        Effect G₁ G₂ (trapdoorAt s) (F.files s) task out left := by
  obtain ⟨out, left, hends, heffect⟩ := exists_effect hG₁ hG₂ ⟨h.sound, rfl⟩ h.kept.keys task
  obtain ⟨hending, hsound, hfiles⟩ := run_eq_of_ends hends
  have hkept := h.kept.effect hG₁ hG₂ heffect
  rw [← hfiles] at hkept
  exact ⟨out, left, hending, hfiles, ⟨hsound, hkept⟩, heffect⟩

theorem InOrder.runAll (h : InOrder G₁ G₂ F s) (history : List Task) :
    InOrder G₁ G₂ F (F.runAll G₁ G₂ history s) := by
  induction history generalizing s with
  | nil => exact h
  | cons task rest ih =>
      obtain ⟨-, -, -, -, hnext, -⟩ := h.run_effect hG₁ hG₂ task
      exact ih hnext

/-- What fails changes nothing, unless it is a run. -/
theorem files_run_of_code_ne (h : InOrder G₁ G₂ F s) {task : Task}
    (htask : ∀ x y, task ≠ .run x y) (hcode : (F.run G₁ G₂ task s).1.code ≠ 0) :
    F.files (F.run G₁ G₂ task s).2 = F.files s := by
  obtain ⟨out, left, hending, hfiles, -, heffect⟩ := h.run_effect hG₁ hG₂ task
  rw [hending, Ne, Ending.code_eq_zero_iff] at hcode
  rw [hfiles]
  cases heffect with
  | hash x => rfl
  | setup hsetup => exact absurd rfl hcode
  | setupRefused hsetup => rfl
  | prove hkeys hheld heq haccepts => exact absurd rfl hcode
  | proveRefused failure hrefused => rfl
  | verify hfresh => rfl
  | run hsetup haccepts => exact absurd rfl hcode
  | runStopped failure hsetup => exact absurd rfl (htask _ _)
  | runRefused hsetup => rfl

theorem prove_code_iff (h : InOrder G₁ G₂ F s) (x y : Fr) :
    (F.run G₁ G₂ (.prove x y) s).1.code = 0 ↔
      (F.files s .provingKey).isSome ∧ (F.files s .verifyingKey).isSome ∧ mimcHash x = y := by
  obtain ⟨out, left, hending, -, -, heffect⟩ := h.run_effect hG₁ hG₂ (.prove x y)
  rw [hending, Ending.code_eq_zero_iff]
  cases heffect with
  | prove hkeys hheld heq haccepts => simp [hheld.1, hheld.2, heq]
  | proveRefused failure hrefused =>
      refine iff_of_false (by simp) ?_
      rintro ⟨hpk, hvk, heq⟩
      rcases hrefused with hmissing | hne
      · simp [hmissing] at hpk
      · exact hne heq

theorem setup_code_iff (h : InOrder G₁ G₂ F s) :
    (F.run G₁ G₂ .setup s).1.code = 0 ↔
      ∃ compiled, ∃ keys : Keys G₁ G₂, Preimage.setup (trapdoorAt s) = .ok (compiled, keys) := by
  obtain ⟨out, left, hending, -, -, heffect⟩ := h.run_effect hG₁ hG₂ .setup
  rw [hending, Ending.code_eq_zero_iff]
  cases heffect with
  | setup hsetup => exact iff_of_true rfl ⟨_, _, hsetup⟩
  | setupRefused hrefused =>
      refine iff_of_false (by simp) ?_
      rintro ⟨compiled, keys, hsetup⟩
      rw [hrefused] at hsetup
      cases hsetup

theorem fresh_run_of_proves (h : InOrder G₁ G₂ F s) {task : Task} (hproves : task.Proves)
    (hcode : (F.run G₁ G₂ task s).1.code = 0) :
    (F.files (F.run G₁ G₂ task s).2).Fresh G₁ G₂ := by
  obtain ⟨out, left, hending, hfiles, -, heffect⟩ := h.run_effect hG₁ hG₂ task
  rw [hending, Ending.code_eq_zero_iff] at hcode
  subst hcode
  rw [hfiles]
  exact fresh_of_proved heffect hproves

/-- A command that writes no keys leaves them as they are, and the proof at worst
is replaced by another that belongs to them. -/
theorem run_of_not_writesKeys (h : InOrder G₁ G₂ F s) {task : Task}
    (hkeeps : ¬ F.WritesKeys G₁ G₂ task s) :
    let files := F.files (F.run G₁ G₂ task s).2
    files .provingKey = F.files s .provingKey ∧ files .verifyingKey = F.files s .verifyingKey ∧
      ((F.files s).Fresh G₁ G₂ → files.Fresh G₁ G₂) := by
  obtain ⟨out, left, -, hfiles, -, heffect⟩ := h.run_effect hG₁ hG₂ task
  dsimp only
  rw [hfiles]
  have hno : (task = .setup ∨ ∃ x y, task = .run x y) →
      ∀ compiled (keys : Keys G₁ G₂), Preimage.setup (trapdoorAt s) ≠ .ok (compiled, keys) :=
    fun htask compiled keys hsetup =>
      hkeeps ⟨htask, (setup_code_iff hG₁ hG₂ h).2 ⟨compiled, keys, hsetup⟩⟩
  rcases heffect.of_no_setup hno with
    rfl | ⟨keys, proof, publics, rfl, hkeys, hheld, haccepts⟩
  · exact ⟨rfl, rfl, id⟩
  · exact ⟨rfl, rfl, fun _ => ⟨keys, proof, publics, hkeys, hheld, ⟨rfl, rfl⟩, haccepts⟩⟩

theorem fresh_runAll {history : List Task} (h : InOrder G₁ G₂ F s)
    (hfresh : (F.files s).Fresh G₁ G₂) (hkeeps : F.KeepsKeys G₁ G₂ history s) :
    (F.files (F.runAll G₁ G₂ history s)).Fresh G₁ G₂ := by
  induction history generalizing s with
  | nil => exact hfresh
  | cons task rest ih =>
      obtain ⟨hkeeps, hrest⟩ := hkeeps
      obtain ⟨-, -, -, -, hnext, -⟩ := h.run_effect hG₁ hG₂ task
      obtain ⟨-, -, hkept⟩ := run_of_not_writesKeys hG₁ hG₂ h hkeeps
      exact ih hnext (hkept hfresh) hrest

theorem verify_code (h : InOrder G₁ G₂ F s) (hfresh : (F.files s).Fresh G₁ G₂) :
    (F.run G₁ G₂ .verify s).1.code = 0 := by
  obtain ⟨out, left, hending, -, -, heffect⟩ := h.run_effect hG₁ hG₂ .verify
  rw [hending, Ending.code_eq_zero_iff]
  cases heffect with
  | verify hverified => exact hverified hfresh

end Folder

end

/-- After every history of a folder that was empty at first, what fails and what
only looks changes no file, what is there can be read, exactly the pairs of a
preimage and its hash are proved with the keys there are, and a proof made
since keys were last written verifies. -/
theorem artifact_histories {G₁ G₂ GT : Type} [SourceOps G₁] [SourceOps G₂] [PairingOps G₁ G₂ GT]
    [DecidableEq GT] [PrimeOrder G₁] [PrimeOrder G₂] [BilinearPairing G₁ G₂] [ElementCodec G₁]
    [ElementCodec G₂] [Exported G₁ G₂] (hG₁ : ElementCodec.Lawful G₁ (isValid · = true))
    (hG₂ : ElementCodec.Lawful G₂ (isValid · = true)) {τ : Type} [Surroundings (StateM τ)]
    (F : Folder τ) {start : τ} (hsound : F.sound start) (hempty : ∀ file, F.files start file = none)
    (history : List Task) :
    let run := F.run G₁ G₂
    let s := F.runAll G₁ G₂ history start
    (∀ x, F.files (run (.hash x) s).2 = F.files s) ∧
    F.files (run .verify s).2 = F.files s ∧
    ((run .setup s).1.code ≠ 0 → F.files (run .setup s).2 = F.files s) ∧
    (∀ x y, (run (.prove x y) s).1.code ≠ 0 → F.files (run (.prove x y) s).2 = F.files s) ∧
    (∀ file bytes, F.files s file = some bytes → Readable G₁ G₂ file bytes) ∧
    (∀ x y, (run (.prove x y) s).1.code = 0 ↔
      (F.files s .provingKey).isSome ∧ (F.files s .verifyingKey).isSome ∧ mimcHash x = y) ∧
    (∀ task, ¬ F.WritesKeys G₁ G₂ task s →
      F.files (run task s).2 .provingKey = F.files s .provingKey ∧
        F.files (run task s).2 .verifyingKey = F.files s .verifyingKey) ∧
    ∀ before task after, history = before ++ task :: after → task.Proves →
      (run task (F.runAll G₁ G₂ before start)).1.code = 0 →
      F.KeepsKeys G₁ G₂ after (run task (F.runAll G₁ G₂ before start)).2 →
      (run .verify s).1.code = 0 := by
  have hstart : Folder.InOrder G₁ G₂ F start := by
    refine ⟨hsound, ?_⟩
    rw [show F.files start = fun _ => none from funext hempty]
    exact kept_empty
  have hs := hstart.runAll hG₁ hG₂ history
  dsimp only
  refine ⟨fun x => ?hash, ?verify, Folder.files_run_of_code_ne hG₁ hG₂ hs (by simp),
    fun x y => Folder.files_run_of_code_ne hG₁ hG₂ hs (by simp),
    fun file bytes => hs.kept.readable, Folder.prove_code_iff hG₁ hG₂ hs,
    fun task hkeeps => ?keys, ?fresh⟩
  case hash =>
    obtain ⟨out, left, -, hfiles, -, heffect⟩ := hs.run_effect hG₁ hG₂ (.hash x)
    cases heffect
    exact hfiles
  case verify =>
    obtain ⟨out, left, -, hfiles, -, heffect⟩ := hs.run_effect hG₁ hG₂ .verify
    cases heffect
    exact hfiles
  case keys =>
    obtain ⟨hpk, hvk, -⟩ := Folder.run_of_not_writesKeys hG₁ hG₂ hs hkeeps
    exact ⟨hpk, hvk⟩
  case fresh =>
    rintro before task after rfl hproves hcode hkeeps
    -- The proof belongs to the keys after `task`, and the commands after it keep that so.
    have hbefore := hstart.runAll hG₁ hG₂ before
    obtain ⟨-, -, -, -, hnext, -⟩ := hbefore.run_effect hG₁ hG₂ task
    have hfresh := Folder.fresh_run_of_proves hG₁ hG₂ hbefore hproves hcode
    have hlast := Folder.fresh_runAll hG₁ hG₂ hnext hfresh hkeeps
    rw [← Folder.runAll_append_cons] at hlast
    exact Folder.verify_code hG₁ hG₂ hs hlast

/-! Surroundings in which every operation succeeds, and a history in them: of two
attempts to prove, the one that fails comes last. -/

theorem Stored.fileName_injective : Function.Injective Stored.fileName := by
  intro a b h
  cases a <;> cases b <;> first | rfl | exact absurd h (by decide)

theorem Stored.path_injective (folder : String) : Function.Injective (Stored.path folder) := by
  intro a b h
  refine Stored.fileName_injective ?_
  rw [Stored.path, Stored.path] at h
  split at h <;> simpa using h

/-- Files by their paths, and scalars to draw. -/
structure Shelf where
  files : String → Option Bytes
  scalars : ScalarCycle

namespace Shelf

instance : Surroundings (StateM Shelf) where
  makeFolder _ := pure (.ok ())
  write path bytes := fun shelf =>
    (.ok (), { shelf with files := Function.update shelf.files path (some bytes) })
  read path := fun shelf => ((shelf.files path).elim (.error .notFound) .ok, shelf)
  print _ := pure ()
  scalar := fun shelf => (shelf.scalars.next.1, { shelf with scalars := shelf.scalars.next.2 })

theorem run_makeFolders (path : String) (above : List String) (shelf : Shelf) :
    (makeFolders path above : StateM Shelf (Except FileError Unit)).run shelf =
      (.ok (), shelf) := by
  cases above <;> rw [makeFolders] <;> rfl

def folder (path : String) : Folder Shelf where
  path := path
  sound _ := True
  files shelf file := shelf.files (file.path path)
  save {shelf} _ file bytes := by
    refine ⟨{ shelf with files := Function.update shelf.files (file.path path) (some bytes) }, ?_,
      trivial, Function.update_comp_eq_of_injective shelf.files (Stored.path_injective path) file
        (some bytes)⟩
    have hmade : (attempt (.creating path) (makeFolders path (ancestors path)) :
        Attempt (StateM Shelf) Unit).run.run shelf = (.ok (), shelf) := by
      rw [attempt, ExceptT.run_mk, run_bind_eq (run_makeFolders path _ shelf)]
      rfl
    rw [saveBytes, ExceptT.run_bind, run_bind_eq hmade]
    rfl
  read {shelf} _ file := by
    refine ⟨_, shelf, rfl, ?_, trivial, rfl⟩
    cases shelf.files (file.path path) <;> rfl
  print {shelf} _ text := ⟨shelf, rfl, trivial, rfl⟩
  scalar {shelf} _ := ⟨_, _, rfl, trivial, rfl⟩

/-- Nothing on the shelf yet, and the scalars that will be drawn. -/
def empty (scalars : List Fr) : Shelf := ⟨fun _ => none, .ofList scalars⟩

end Shelf

instance : Exported Exponent Exponent where
  contract _ := ""
  document _ _ := ""

theorem exists_small_setup : ∃ compiled, ∃ keys : Keys Exponent Exponent,
    Preimage.setup ⟨2, 3, 5, 7, Fr.generator⟩ = .ok (compiled, keys) := by
  obtain ⟨compiled, b, last, hcircuit⟩ := Preimage.exists_isCircuit
  refine ⟨compiled, _, (Preimage.setup_ok_iff hcircuit).2 ⟨rfl, ?_, rfl⟩⟩
  exact ⟨by decide, by decide, Domain.vanishing_generator_ne_zero _⟩

/-- A proof of the right hash of 35 is followed by a refused one of a wrong hash. -/
theorem shelf_history :
    let folder := Shelf.folder defaultFolder
    let shelf := Shelf.empty [2, 3, 5, 7, Fr.generator]
    let proved := folder.runAll Exponent Exponent [.setup, .prove 35 (mimcHash 35)] shelf
    let refused := folder.runAll Exponent Exponent
      [.setup, .prove 35 (mimcHash 35), .prove 35 (mimcHash 35 + 1)] shelf
    folder.sound shelf ∧ (∀ file, folder.files shelf file = none) ∧
      (folder.run Exponent Exponent (.prove 35 (mimcHash 35 + 1)) proved).1.code ≠ 0 ∧
      (folder.run Exponent Exponent .verify refused).1.code = 0 := by
  dsimp only
  have hsound : (Shelf.folder defaultFolder).sound
      (Shelf.empty [2, 3, 5, 7, Fr.generator]) := trivial
  have hempty : ∀ file, (Shelf.folder defaultFolder).files
      (Shelf.empty [2, 3, 5, 7, Fr.generator]) file = none := fun _ => rfl
  have hhistory :=
    artifact_histories Exponent.lawful Exponent.lawful (Shelf.folder defaultFolder) hsound hempty
  dsimp only at hhistory
  obtain ⟨-, -, -, -, -, hfirst, -⟩ := hhistory [.setup]
  obtain ⟨-, -, -, -, -, hsecond, -⟩ := hhistory [.setup, .prove 35 (mimcHash 35)]
  obtain ⟨-, -, -, -, -, -, -, hlast⟩ :=
    hhistory [.setup, .prove 35 (mimcHash 35), .prove 35 (mimcHash 35 + 1)]
  obtain ⟨compiled, keys, hsetup⟩ := exists_small_setup
  have hdrawn : Folder.trapdoorAt (Shelf.empty [2, 3, 5, 7, Fr.generator]) =
      ⟨2, 3, 5, 7, Fr.generator⟩ := rfl
  rw [← hdrawn] at hsetup
  obtain ⟨-, -, hfiles⟩ := Folder.run_eq_of_ends
    (Folder.ends_setup_of_ok (F := Shelf.folder defaultFolder) ⟨hsound, rfl⟩ hsetup)
  have hproved := (hfirst 35 (mimcHash 35)).2
    ⟨by rw [Folder.runAll, List.foldl_cons, List.foldl_nil, hfiles]; rfl,
      by rw [Folder.runAll, List.foldl_cons, List.foldl_nil, hfiles]; rfl, rfl⟩
  refine ⟨hsound, hempty, fun hcode => ?_, ?_⟩
  · obtain ⟨-, -, heq⟩ := (hsecond 35 (mimcHash 35 + 1)).1 hcode
    exact absurd (left_eq_add.1 heq) (by decide)
  · refine hlast [.setup] (.prove 35 (mimcHash 35)) [.prove 35 (mimcHash 35 + 1)] rfl
      ⟨_, _, .inl rfl⟩ hproved ⟨?_, trivial⟩
    rintro ⟨h | ⟨x, y, h⟩, -⟩ <;> cases h

end CommandLine

end PreimageProof
