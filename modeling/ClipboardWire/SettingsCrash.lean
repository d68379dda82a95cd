import ClipboardWire.BasicAuth
import ClipboardWire.FileScript
import ClipboardWire.SettingsForm

namespace ClipboardWire

open FileScript

/-!
# Saving the settings over failures and crashes

`write_toml` of `cli/src/settings.rs`, one operation on the config file after
the other.  The file is emptied before it is written and there is no other
copy of it, so the old configuration is lost as soon as it is opened.
-/

/-- What `write_toml` writes. -/
def settingsBytes
    (toml : Toml.Format)
    (form : FormState) :
    Except String (List UInt8) :=
  match toml.serialize form.writable.table with
  | .error _ => .error "serializing config as TOML"
  | .ok text => .ok (asBytes (Toml.comment settingsComment ++ text))

/-- The operations of `write_toml` on the file: `create_dir_all`, the two of
`fs::write` and, on Unix, `metadata` and `set_permissions`. -/
def writeTomlScript (platform : Platform) (bytes : List UInt8) :
    List Operation :=
  [.prepare, .create 0o666, .write bytes] ++
    match platform with
    | .unix => [.prepare, .chmod 0o600]
    | .other => []

/-- `write_toml`, which may be cut off. -/
def writeTomlRun
    (platform : Platform)
    (toml : Toml.Format)
    (umask : Mode)
    (fault : Option Fault)
    (form : FormState)
    (file : Option File) :
    Run :=
  match settingsBytes toml form with
  | .error _ =>
      .ended file .failed
  | .ok bytes =>
      run umask (writeTomlScript platform bytes) fault file

/-- The file as the dialog reads it. -/
def toConfigFile (file : File) : ConfigFile where
  mode := file.mode.toNat
  text := fromUtf8 file.bytes

/-- The file has the old configuration or the new one, and after an error it
has the old one. -/
def KeepsConfig
    (toml : Toml.Format)
    (form : FormState)
    (old : File)
    (run : Run) :
    Prop :=
  ∃ left,
    run.final = some left ∧
      (left.bytes = old.bytes ∨ settingsBytes toml form = .ok left.bytes) ∧
      (run.ending = .failed → left.bytes = old.bytes)

/-- A call that is cut off leaves a whole configuration nevertheless. -/
structure SparesConfig
    (platform : Platform)
    (old new : List UInt8)
    (fault : Fault) :
    Prop where
  /-- Cut off while it writes, it has written what the file had before, or it
  dies with everything written. -/
  writing :
    fault.position = 2 →
      new.take fault.written = old ∨
        fault.cutOff = .dies ∧ new.length ≤ fault.written
  /-- It does not fail once it has written anything new. -/
  written :
    platform = .unix →
      fault.position = 3 ∨ fault.position = 4 →
        fault.cutOff = .dies ∨ new = old

/-! ## What a call leaves -/

/-- The mode of the file while it is written. -/
def openedMode (umask : Mode) : Option File → Mode
  | some file => file.mode
  | none => 0o666 &&& ~~~umask

/-- What a call leaves at the path, and how it ends. -/
inductive Leaves
    (platform : Platform)
    (umask : Mode)
    (bytes : List UInt8)
    (file : Option File) :
    Option Fault → Option File → Ending → Prop where
  | nothing {fault : Fault}
      (early : fault.position ≤ 1) :
      Leaves platform umask bytes file fault file fault.cutOff.ending
  | part {fault : Fault}
      (inside : fault.position = 2) :
      Leaves platform umask bytes file fault
        (some ⟨openedMode umask file, bytes.take fault.written⟩)
        fault.cutOff.ending
  | all {fault : Fault}
      (isUnix : platform = .unix)
      (behind : fault.position = 3 ∨ fault.position = 4) :
      Leaves platform umask bytes file fault
        (some ⟨openedMode umask file, bytes⟩) fault.cutOff.ending
  | saved {fault : Option Fault}
      (late :
        ∀ cut, fault = some cut →
          5 ≤ cut.position ∨ platform = .other ∧ 3 ≤ cut.position) :
      Leaves platform umask bytes file fault
        (some
          ⟨if platform = .unix then 0o600 else openedMode umask file,
            bytes⟩)
        .finished

theorem leaves_run
    (platform : Platform)
    (umask : Mode)
    (bytes : List UInt8)
    (fault : Option Fault)
    (file : Option File) :
    Leaves platform umask bytes file fault
      (run umask (writeTomlScript platform bytes) fault file).final
      (run umask (writeTomlScript platform bytes) fault file).ending := by
  match fault with
  | none =>
      cases platform <;> cases file <;> exact .saved (by simp)
  | some ⟨0, cutOff, written⟩ =>
      cases platform <;> cases file <;> exact .nothing (by simp)
  | some ⟨1, cutOff, written⟩ =>
      cases platform <;> cases file <;> exact .nothing (by simp)
  | some ⟨2, cutOff, written⟩ =>
      cases platform <;> cases file <;> exact .part rfl
  | some ⟨3, cutOff, written⟩ =>
      cases platform with
      | unix => cases file <;> exact .all rfl (.inl rfl)
      | other => cases file <;> exact .saved (by simp)
  | some ⟨4, cutOff, written⟩ =>
      cases platform with
      | unix => cases file <;> exact .all rfl (.inr rfl)
      | other => cases file <;> exact .saved (by simp)
  | some ⟨position + 5, cutOff, written⟩ =>
      cases platform <;> cases file <;> exact .saved (by simp)

/-- Every run that does not die is a call as the dialog sees it, with some
answers of the file system. -/
theorem exists_writeToml_of_run
    {platform : Platform}
    {toml : Toml.Format}
    {umask : Mode}
    {fault : Option Fault}
    {form : FormState}
    {file : Option File}
    (returns :
      (writeTomlRun platform toml umask fault form file).ending ≠ .died) :
    ∃ disk,
      (writeToml platform toml disk (file.map toConfigFile) form).2 =
          (writeTomlRun platform toml umask fault form file).final.map
            toConfigFile ∧
        ((writeToml platform toml disk (file.map toConfigFile) form).1 =
            .ok () ↔
          (writeTomlRun platform toml umask fault form file).ending =
            .finished) := by
  unfold writeTomlRun settingsBytes at returns ⊢
  unfold writeToml
  cases toml.serialize form.writable.table with
  | error message =>
      exact ⟨⟨.ok (), .ok (), 0, .ok ()⟩, rfl, by simp [Run.ended]⟩
  | ok text =>
      have leaves :=
        leaves_run platform umask
          (asBytes (Toml.comment settingsComment ++ text)) fault file
      simp only at returns ⊢
      generalize run umask _ fault file = run at leaves returns ⊢
      obtain ⟨earlier, final, ending⟩ := run
      simp only at leaves returns ⊢
      have created :
          (((file.map toConfigFile).map ConfigFile.mode).getD
              (openedMode umask none).toNat) =
            (openedMode umask file).toNat := by
        cases file <;> rfl
      cases leaves with
      | @nothing cut early =>
          refine ⟨⟨.error "", .ok (), 0, .ok ()⟩, rfl, ?_⟩
          cases cut.cutOff <;> simp [CutOff.ending]
      | @part cut inside =>
          refine ⟨⟨.ok (), .error ("", _), 0, .ok ()⟩, rfl, ?_⟩
          cases cut.cutOff <;> simp [CutOff.ending]
      | @all cut isUnix behind =>
          refine ⟨⟨.ok (), .ok (), (openedMode umask none).toNat,
            .error ""⟩, ?_, ?_⟩
          · simp [isUnix, toConfigFile, ← created]
          · cases cut.cutOff <;> simp [isUnix, CutOff.ending]
      | saved late =>
          refine ⟨⟨.ok (), .ok (), (openedMode umask none).toNat,
            .ok ()⟩, ?_, ?_⟩
          · cases platform <;> simp [toConfigFile, ← created]
          · cases platform <;> simp

/-- When the file that is left is a whole configuration. -/
theorem keepsConfig_iff
    {toml : Toml.Format}
    {form : FormState}
    {old left : File}
    {run : Run}
    {new : List UInt8}
    (isNew : settingsBytes toml form = .ok new)
    (leaves : run.final = some left) :
    KeepsConfig toml form old run ↔
      (left.bytes = old.bytes ∨ left.bytes = new) ∧
        (run.ending = .failed → left.bytes = old.bytes) := by
  simp only [KeepsConfig, leaves, isNew, Option.some.injEq, Except.ok.injEq,
    exists_eq_left', eq_comm (a := new)]

section

variable {platform : Platform} {old new : List UInt8} {fault : Fault}

/-- Nothing is lost in front of the write, and nothing behind the call. -/
theorem sparesConfig_of_other
    (notWriting : fault.position ≠ 2)
    (notWritten :
      platform = .unix → fault.position ≠ 3 ∧ fault.position ≠ 4) :
    SparesConfig platform old new fault where
  writing inside := absurd inside notWriting
  written isUnix behind :=
    absurd behind (not_or.mpr (notWritten isUnix))

/-- What it takes to spare the configuration while it is written. -/
theorem sparesConfig_iff_writing (inside : fault.position = 2) :
    SparesConfig platform old new fault ↔
      new.take fault.written = old ∨
        fault.cutOff = .dies ∧ new.length ≤ fault.written := by
  constructor
  · intro spares
    exact spares.writing inside
  · intro writing
    exact ⟨fun _ => writing, by omega⟩

/-- What it takes to spare the configuration once it is written. -/
theorem sparesConfig_iff_written
    (isUnix : platform = .unix)
    (behind : fault.position = 3 ∨ fault.position = 4) :
    SparesConfig platform old new fault ↔
      fault.cutOff = .dies ∨ new = old := by
  constructor
  · intro spares
    exact spares.written isUnix behind
  · intro written
    exact ⟨by omega, fun _ _ => written⟩

end

/-- The file at the path has a whole configuration, and the old one after an
error, exactly if the call is not cut off with the file emptied or fails with
new content in it. -/
theorem writeTomlRun_keepsConfig_iff
    (platform : Platform)
    (toml : Toml.Format)
    (umask : Mode)
    (fault : Option Fault)
    (form : FormState)
    (old : File) :
    KeepsConfig toml form old
        (writeTomlRun platform toml umask fault form (some old)) ↔
      ∀ new,
        settingsBytes toml form = .ok new →
        ∀ cut,
          fault = some cut → SparesConfig platform old.bytes new cut := by
  unfold writeTomlRun
  cases isNew : settingsBytes toml form with
  | error message =>
      exact iff_of_true ⟨old, rfl, .inl rfl, fun _ => rfl⟩ (by simp)
  | ok new =>
      have leaves := leaves_run platform umask new fault (some old)
      simp only [Except.ok.injEq, forall_eq']
      generalize run umask (writeTomlScript platform new) fault (some old) =
        run at leaves ⊢
      obtain ⟨earlier, final, ending⟩ := run
      simp only at leaves
      cases leaves with
      | nothing early =>
          refine iff_of_true
            ((keepsConfig_iff isNew rfl).mpr ⟨.inl rfl, fun _ => rfl⟩) ?_
          rintro cut same
          cases same
          exact sparesConfig_of_other (by omega) (by omega)
      | @part cut inside =>
          rw [keepsConfig_iff isNew rfl]
          simp only [Option.some.injEq, forall_eq',
            sparesConfig_iff_writing inside, List.take_eq_self_iff]
          cases cut.cutOff with
          | fails =>
              simp only [CutOff.ending, reduceCtorEq, false_and, or_false,
                forall_const, and_iff_right_iff_imp]
              exact .inl
          | dies =>
              simp [CutOff.ending]
      | @all cut isUnix behind =>
          rw [keepsConfig_iff isNew rfl]
          simp only [Option.some.injEq, forall_eq',
            sparesConfig_iff_written isUnix behind, or_true, true_and]
          cases cut.cutOff with
          | fails =>
              simp [CutOff.ending]
          | dies =>
              simp [CutOff.ending]
      | saved late =>
          refine iff_of_true
            ((keepsConfig_iff isNew rfl).mpr ⟨.inr rfl, fun ends => ?_⟩) ?_
          · cases ends
          · intro cut isFault
            rcases late cut isFault with behind | ⟨rfl, behind⟩
            · exact sparesConfig_of_other (by omega) (by omega)
            · exact sparesConfig_of_other (by omega) nofun

/-- A form with a server and a user. -/
def filledForm : FormState :=
  { FormState.empty with
    server := "wss://nas.lan:8484/sync"
    user := "alice"
    password := "hunter2"
    pollMs := 300 }

/-- The text that is written for it. -/
def filledText : String :=
  "server = \"wss://nas.lan:8484/sync\"\n" ++
    "user = \"alice\"\npassword = \"hunter2\"\npoll_ms = 300\n"

/-- The format of that text. -/
def filledToml : Toml.Format :=
  .single filledForm.writable.table filledText .error

/-- The text comes behind the comment. -/
theorem settingsBytes_filledForm :
    settingsBytes filledToml filledForm =
      .ok (asBytes (Toml.comment settingsComment ++ filledText)) := by
  have serialized :
      filledToml.serialize filledForm.writable.table = .ok filledText :=
    Toml.Format.serialize_single
  rw [settingsBytes, serialized]

/-- The process dies right after it has opened the file. -/
theorem writeTomlRun_truncates :
    (writeTomlRun .unix filledToml 0o022 (some ⟨2, .dies, 0⟩) filledForm
        (some ⟨0o600, asBytes filledText⟩)).final = some ⟨0o600, []⟩ ∧
      ¬ KeepsConfig filledToml filledForm ⟨0o600, asBytes filledText⟩
        (writeTomlRun .unix filledToml 0o022 (some ⟨2, .dies, 0⟩) filledForm
          (some ⟨0o600, asBytes filledText⟩)) := by
  have isNew := settingsBytes_filledForm
  have final :
      (writeTomlRun .unix filledToml 0o022 (some ⟨2, .dies, 0⟩) filledForm
          (some ⟨0o600, asBytes filledText⟩)).final =
        some ⟨0o600, []⟩ := by
    unfold writeTomlRun
    rw [isNew]
    rfl
  refine ⟨final, fun keeps => ?_⟩
  rcases ((keepsConfig_iff isNew final).mp keeps).1 with isOld | isWhole
  · have filled : asBytes filledText ≠ [] := by
      decide +kernel
    exact filled isOld.symm
  · have filled :
        asBytes (Toml.comment settingsComment ++ filledText) ≠ [] := by
      decide +kernel
    exact filled isWhole.symm

end ClipboardWire
