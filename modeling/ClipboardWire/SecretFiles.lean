import ClipboardWire.SelfSignedCert
import ClipboardWire.SettingsCrash

namespace ClipboardWire

open FileScript

/-!
# Who can read a secret while it is written

`write_toml` of `cli/src/settings.rs`, which writes passwords, and
`write_file_with_mode` of `core/src/server/tls.rs`, which writes the TLS key.
Both create the file with the default mode and change the mode only when
everything is written.
-/

/-- The operations of `write_file_with_mode` on the file: those of
`File::create`, `write_all` and `sync_all` and, on Unix, `metadata` and
`set_permissions`. -/
def writeFileWithModeScript
    (platform : Platform)
    (contents : List UInt8)
    (mode : Mode) :
    List Operation :=
  [.create 0o666, .write contents, .attempt] ++
    match platform with
    | .unix => [.prepare, .chmod mode]
    | .other => []

/-- `write_file_with_mode`, which may be cut off. -/
def writeFileWithModeRun
    (platform : Platform)
    (umask : Mode)
    (contents : List UInt8)
    (mode : Mode)
    (fault : Option Fault)
    (file : Option File) :
    Run :=
  run umask (writeFileWithModeScript platform contents mode) fault file

/-- Nobody but the owner can read a secret, in no state of the file and
wherever the call is cut off. -/
def HidesSecret (secret : List UInt8) (call : Option Fault → Run) : Prop :=
  ∀ fault, ∀ state ∈ (call fault).states, ¬ Exposes secret state

/-- The group and others cannot read the file, or the umask does not let them
read a new one. -/
def IsShielded (umask : Mode) : Option File → Prop
  | some file => IsPrivate file.mode
  | none => umask &&& 0o044 = 0o044

/-! ## The key in the state directory -/

/-- A key that is cut off behind its last byte is complete. -/
theorem key_insideKey
    {sha256 : List UInt8 → List UInt8}
    {dir : StateDir}
    {pair : CertifiedKey} :
    (dir.generate sha256
        ⟨some (.insideKey pair.keyPem.length), pair⟩).1.key.map
          StoredFile.bytes =
      some pair.keyPem := by
  simp [StateDir.generate]

/-- Every run that writes the key of a pair is one of the calls as the state
directory sees them. -/
theorem exists_cutOff_of_run
    {sha256 : List UInt8 → List UInt8}
    {platform : Platform}
    {umask mode : Mode}
    {dir : StateDir}
    {pair : CertifiedKey}
    {file : Option File}
    (fault : Option Fault)
    (before : dir.key.map StoredFile.bytes = file.map File.bytes) :
    ∃ cutOff,
      (dir.generate sha256 ⟨cutOff, pair⟩).1.key.map StoredFile.bytes =
          (writeFileWithModeRun platform umask pair.keyPem mode fault
            file).final.map File.bytes ∧
        (cutOff = none ↔
          (writeFileWithModeRun platform umask pair.keyPem mode fault
            file).ending = .finished) := by
  match fault with
  | none =>
      refine ⟨none, ?_, iff_of_true rfl ?_⟩
      all_goals cases platform <;> cases file <;> rfl
  | some ⟨0, cutOff, written⟩ =>
      refine ⟨some (.insideCert 0), ?_, iff_of_false nofun ?_⟩
      · cases cutOff <;> exact before
      · cases cutOff <;> exact nofun
  | some ⟨1, cutOff, written⟩ =>
      refine ⟨some (.insideKey written), ?_, iff_of_false nofun ?_⟩
      · cases cutOff <;> cases file <;> rfl
      · cases cutOff <;> exact nofun
  | some ⟨2, .fails, written⟩ =>
      refine ⟨none, ?_, iff_of_true rfl ?_⟩
      all_goals cases platform <;> cases file <;> rfl
  | some ⟨2, .dies, written⟩ =>
      refine
        ⟨some (.insideKey pair.keyPem.length), ?_, iff_of_false nofun ?_⟩
      · rw [key_insideKey]
        cases file <;> rfl
      · exact nofun
  | some ⟨3, cutOff, written⟩ | some ⟨4, cutOff, written⟩ =>
      cases platform with
      | unix =>
          refine ⟨some (.insideKey pair.keyPem.length), ?_,
            iff_of_false nofun ?_⟩
          · rw [key_insideKey]
            cases cutOff <;> cases file <;> rfl
          · cases cutOff <;> exact nofun
      | other =>
          refine ⟨none, ?_, iff_of_true rfl ?_⟩
          all_goals cases file <;> rfl
  | some ⟨position + 5, cutOff, written⟩ =>
      refine ⟨none, ?_, iff_of_true rfl ?_⟩
      all_goals cases platform <;> cases file <;> rfl

/-! ## Private files -/

/-- A mask takes some bits away exactly if it has them. -/
theorem not_and_eq_zero_iff
    {width : Nat}
    {mask bits : BitVec width} :
    ~~~mask &&& bits = 0 ↔ mask &&& bits = bits := by
  rw [BitVec.eq_of_getElem_eq_iff, BitVec.eq_of_getElem_eq_iff]
  refine forall₂_congr fun index bound => ?_
  rw [BitVec.getElem_and, BitVec.getElem_and, BitVec.getElem_not]
  cases mask[index] <;> cases bits[index] <;> simp

/-- A new file is private exactly if the umask takes the read bits away. -/
theorem isPrivate_create_iff {umask : Mode} :
    IsPrivate (0o666 &&& ~~~umask) ↔ umask &&& 0o044 = 0o044 := by
  have reads : (0o666 &&& ~~~umask) &&& 0o044 = ~~~umask &&& 0o044 := by
    rw [BitVec.and_comm 0o666, BitVec.and_assoc]
    rfl
  rw [IsPrivate, reads]
  exact not_and_eq_zero_iff

/-- The file that is written is private exactly if it is shielded. -/
theorem startsPrivate_iff {umask : Mode} {file : Option File} :
    StartsPrivate umask 0o666 file ↔ IsShielded umask file := by
  cases file with
  | some existing => exact Iff.rfl
  | none => exact isPrivate_create_iff

section

variable {umask : Mode} {file : Option File} {secret : List UInt8}

/-- A part of the new settings is hidden exactly if the file is shielded. -/
theorem writeTomlRun_hidesSecret_iff
    {toml : Toml.Format}
    {form : FormState}
    {settings : List UInt8}
    (isWritten : settingsBytes toml form = .ok settings)
    (part : secret <:+: settings) :
    HidesSecret secret
        (fun fault => writeTomlRun .unix toml umask fault form file) ↔
      IsShielded umask file := by
  have idle : ∀ operation ∈ [Operation.prepare], operation.IsIdle := by
    simp [Operation.IsIdle]
  have closing :
      ∀ operation ∈ [.prepare, Operation.chmod 0o600],
        operation.IsClosing := by
    simp only [List.forall_mem_cons, List.not_mem_nil, false_implies,
      implies_true, and_true]
    exact ⟨trivial, show IsPrivate 0o600 by decide⟩
  unfold writeTomlRun
  rw [isWritten]
  exact (keepsSecret_iff idle closing part).trans startsPrivate_iff

/-- A part of what is written with a private mode is hidden exactly if the
file is shielded. -/
theorem writeFileWithModeRun_hidesSecret_iff
    {contents : List UInt8}
    {mode : Mode}
    (isPrivate : IsPrivate mode)
    (part : secret <:+: contents) :
    HidesSecret secret
        (fun fault =>
          writeFileWithModeRun .unix umask contents mode fault file) ↔
      IsShielded umask file := by
  have idle : ∀ operation ∈ ([] : List Operation), operation.IsIdle := by
    simp
  have closing :
      ∀ operation ∈ [.attempt, .prepare, Operation.chmod mode],
        operation.IsClosing := by
    simp only [List.forall_mem_cons, List.not_mem_nil, false_implies,
      implies_true, and_true]
    exact ⟨trivial, trivial, isPrivate⟩
  exact (keepsSecret_iff idle closing part).trans startsPrivate_iff

end

/-- The passwords of the settings and the TLS key are hidden exactly if the
file is private before the call, or the umask makes it so. -/
theorem secrets_hidden_iff
    {toml : Toml.Format}
    {form : FormState}
    {settings keyPem password key : List UInt8}
    (umask : Mode)
    (config keyFile : Option File)
    (isWritten : settingsBytes toml form = .ok settings)
    (inSettings : password <:+: settings)
    (inKey : key <:+: keyPem) :
    (HidesSecret password
        (fun fault => writeTomlRun .unix toml umask fault form config) ↔
      IsShielded umask config) ∧
    (HidesSecret key
        (fun fault =>
          writeFileWithModeRun .unix umask keyPem 0o600 fault keyFile) ↔
      IsShielded umask keyFile) :=
  ⟨writeTomlRun_hidesSecret_iff isWritten inSettings,
    writeFileWithModeRun_hidesSecret_iff (by decide) inKey⟩

/-- A new config file under a strict umask, and a key file that is private
already. -/
theorem secrets_hidden_filledForm :
    (HidesSecret (asBytes "hunter2")
        (fun fault =>
          writeTomlRun .unix filledToml 0o077 fault filledForm none) ↔
      IsShielded 0o077 none) ∧
    (HidesSecret (asBytes "key")
        (fun fault =>
          writeFileWithModeRun .unix 0o077 (asBytes "key") 0o600 fault
            (some ⟨0o600, []⟩)) ↔
      IsShielded 0o077 (some ⟨0o600, []⟩)) :=
  secrets_hidden_iff 0o077 none (some ⟨0o600, []⟩) settingsBytes_filledForm
    (by decide +kernel) (List.infix_refl _)

/-- Under a usual umask the permissions of a new config file cannot be set:
everybody can read the password from then on, and the same with the key. -/
theorem secrets_exposed :
    ((writeTomlRun .unix filledToml 0o022 (some ⟨4, .fails, 0⟩) filledForm
          none).final =
        some ⟨0o644,
          asBytes (Toml.comment settingsComment ++ filledText)⟩ ∧
      ¬ HidesSecret (asBytes "hunter2")
        (fun fault =>
          writeTomlRun .unix filledToml 0o022 fault filledForm none)) ∧
    ((writeFileWithModeRun .unix 0o022 (asBytes "key") 0o600
          (some ⟨4, .fails, 0⟩) none).final =
        some ⟨0o644, asBytes "key"⟩ ∧
      ¬ HidesSecret (asBytes "key")
        (fun fault =>
          writeFileWithModeRun .unix 0o022 (asBytes "key") 0o600 fault
            none)) := by
  have readable : ¬ IsShielded 0o022 none := by
    unfold IsShielded
    decide
  refine ⟨⟨?_, ?_⟩, ⟨by decide +kernel, ?_⟩⟩
  · unfold writeTomlRun
    rw [settingsBytes_filledForm]
    rfl
  · rw [writeTomlRun_hidesSecret_iff settingsBytes_filledForm
      (by decide +kernel)]
    exact readable
  · rw [writeFileWithModeRun_hidesSecret_iff (by decide) (List.infix_refl _)]
    exact readable

end ClipboardWire
