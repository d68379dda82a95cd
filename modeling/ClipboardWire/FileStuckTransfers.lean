import ClipboardWire.FileReceiverSteps

namespace ClipboardWire

open FileStore

/-!
# Transfers that cannot go on

An entry of the map that misses no chunk is stuck: it ignores every further
chunk as a duplicate.  The code removes an entry only when the hash disagrees
or the file has been renamed, so every entry can go on exactly in the runs in
which no other call fails that completes a transfer.
-/

/-- Some chunk of a transfer is still missing. -/
def Transfer.Unfinished (transfer : Transfer) : Prop :=
  transfer.received.length = transfer.totalChunks.toNat ∧
    false ∈ transfer.received

/-- Every transfer in the map can go on. -/
def FileReceiver.CanGoOn (receiver : FileReceiver) : Prop :=
  ∀ fileId transfer,
    receiver.transfers.lookup fileId = some transfer →
    transfer.Unfinished

namespace FileReceiver

variable {receiver : FileReceiver}

/-- Recording an unfinished transfer keeps the others able to go on. -/
theorem CanGoOn.setTransfer
    {fileId : Uuid}
    {transfer : Transfer}
    (goesOn : receiver.CanGoOn)
    (unfinished : transfer.Unfinished) :
    (receiver.setTransfer fileId transfer).CanGoOn := by
  intro other found lookup
  by_cases same : other = fileId
  · subst other
    simp only [FileReceiver.setTransfer, AList.lookup_insert,
      Option.some.injEq] at lookup
    subst found
    exact unfinished
  · simp only [FileReceiver.setTransfer, AList.lookup_insert_ne same] at lookup
    exact goesOn other found lookup

/-- A transfer that is forgotten does not matter. -/
theorem CanGoOn.dropTransfer
    {fileId : Uuid}
    {transfer : Transfer}
    (goesOn : receiver.CanGoOn) :
    ((receiver.setTransfer fileId transfer).dropTransfer fileId).CanGoOn := by
  intro other found lookup
  by_cases same : other = fileId
  · subst other
    simp [FileReceiver.dropTransfer] at lookup
  · simp only [FileReceiver.dropTransfer, AList.lookup_erase_ne same,
      FileReceiver.setTransfer, AList.lookup_insert_ne same] at lookup
    exact goesOn other found lookup

end FileReceiver

namespace ReceiverState

/--
Afterwards every transfer can go on, and one whose completion has failed is
gone together with its partial file.
-/
structure LeavesProgress
    (codec : Codec)
    (io : IoAnswers)
    (state : ReceiverState)
    (chunk : FileChunkFrame)
    (received : Received) : Prop where
  goesOn : received.state.receiver.CanGoOn
  cleaned :
    ∀ bytes message,
      Completes codec io state chunk bytes →
      received.result = .error (.error message) →
      received.state.receiver.transfers.lookup chunk.fileId = none ∧
        received.state.store.exists?
            (state.receiver.partialPath chunk.fileId) = false

/-- A call leaves every transfer able to go on. -/
def MakesProgress
    (codec : Codec)
    (state : ReceiverState)
    (call : ReceiverCall) :
    Prop :=
  LeavesProgress codec call.io state call.chunk
    (receiveChunk codec call.io state call.chunk)

/--
If a call completes a transfer, the file is synced and hashed, and then renamed
if the hash agrees and removed if it does not.
-/
def CompletesCleanly
    (codec : Codec)
    (state : ReceiverState)
    (call : ReceiverCall) :
    Prop :=
  ∀ bytes,
    Completes codec call.io state call.chunk bytes →
    call.io.syncAll = none ∧
      call.io.hash = none ∧
        (state.Matches codec call.chunk bytes → call.io.rename = none) ∧
          (¬ state.Matches codec call.chunk bytes → call.io.remove = none)

variable {codec : Codec} {io : IoAnswers} {state : ReceiverState}
  {chunk : FileChunkFrame} {bytes : List UInt8}

/-- The transfer of a valid chunk misses some chunk. -/
theorem unfinished_transferOf
    (goesOn : state.receiver.CanGoOn)
    (valid : chunk.validate = .ok ()) :
    (state.transferOf chunk).Unfinished := by
  unfold transferOf
  cases found : state.receiver.transfers.lookup chunk.fileId with
  | some transfer =>
      exact goesOn chunk.fileId transfer found
  | none =>
      have some : chunk.totalChunks ≠ 0 :=
        (FileChunkFrame.validate_eq_ok.mp valid).2.2.1
      refine ⟨List.length_replicate, List.mem_replicate.mpr ⟨?_, rfl⟩⟩
      intro none
      exact some (UInt32.toNat_inj.mp none)

/-- Opening the transfer of a valid chunk lets every transfer go on. -/
theorem canGoOn_arrived
    (goesOn : state.receiver.CanGoOn)
    (valid : chunk.validate = .ok ()) :
    (state.arrived chunk).receiver.CanGoOn := by
  have unfinished := unfinished_transferOf goesOn valid
  unfold arrived
  unfold transferOf at unfinished
  cases found : state.receiver.transfers.lookup chunk.fileId with
  | some transfer =>
      exact goesOn
  | none =>
      rw [found] at unfinished
      exact goesOn.setTransfer unfinished

/-- A chunk that is not the last leaves its transfer unfinished. -/
theorem unfinished_marked
    (unfinished : (state.transferOf chunk).Unfinished)
    (more : ¬ (state.markedTransfer chunk).received.all id = true) :
    (state.markedTransfer chunk).Unfinished := by
  refine ⟨?_, ?_⟩
  · simp only [markedTransfer, Transfer.mark, List.length_set]
    exact unfinished.1
  · simpa using more

/-- A call that completes no transfer lets every transfer go on. -/
theorem Ends.canGoOn
    {received : Received}
    (goesOn : state.receiver.CanGoOn)
    (early : ∀ bytes, ¬ Completes codec io state chunk bytes)
    (ends : Ends codec io state chunk received) :
    received.state.receiver.CanGoOn := by
  cases ends with
  | rejected problem =>
      exact goesOn
  | notSized valid decoded new created failed =>
      exact goesOn
  | inconsistent arrives differs =>
      exact canGoOn_arrived goesOn arrives.valid
  | duplicate arrives same received =>
      exact canGoOn_arrived goesOn arrives.valid
  | notSought wanted failed =>
      exact canGoOn_arrived goesOn wanted.arrives.valid
  | notWritten wanted sought failed =>
      exact canGoOn_arrived goesOn wanted.arrives.valid
  | pending writes more =>
      have valid := writes.wanted.arrives.valid
      exact (canGoOn_arrived goesOn valid).setTransfer
        (unfinished_marked (unfinished_transferOf goesOn valid) more)
  | finished completes ending =>
      exact (early _ completes).elim

/-- A completed transfer that stays in the map is stuck. -/
theorem not_canGoOn_written
    (completes : Completes codec io state chunk bytes) :
    ¬ (state.written chunk bytes).receiver.CanGoOn := by
  intro goesOn
  have missing := (goesOn _ _ (lookup_written state chunk bytes)).2
  have all := List.all_eq_true.mp completes.last false missing
  cases all

/-- A completion lets every transfer go on exactly if it is clean. -/
theorem Finished.leavesProgress_iff
    {received : Received}
    (sound : state.Sound)
    (goesOn : state.receiver.CanGoOn)
    (completes : Completes codec io state chunk bytes)
    (ending : Finished codec io state chunk bytes received) :
    LeavesProgress codec io state chunk received ↔
      io.syncAll = none ∧
        io.hash = none ∧
          (state.Matches codec chunk bytes → io.rename = none) ∧
            (¬ state.Matches codec chunk bytes → io.remove = none) := by
  have stuck := not_canGoOn_written completes
  have dropped :
      ((state.written chunk bytes).receiver.dropTransfer
        chunk.fileId).CanGoOn :=
    (canGoOn_arrived goesOn
      completes.writes.wanted.arrives.valid).dropTransfer
  cases ending with
  | notHashed failed =>
      constructor
      · exact fun progress => (stuck progress.goesOn).elim
      · exact fun clean => (failed ⟨clean.1, clean.2.1⟩).elim
  | @mismatched message synced hashed differs =>
      constructor
      · intro progress
        refine
          ⟨synced, hashed, fun same => (differs same).elim, fun _ => ?_⟩
        have gone := (progress.cleaned bytes message completes rfl).2
        by_contra kept
        have there := (keepsNames_written sound chunk bytes).own
        simp only [fail, Option.isNone_iff_eq_none, kept, if_false] at gone
        rw [there] at gone
        cases gone
      · rintro ⟨-, -, -, removed⟩
        refine ⟨dropped, fun _ _ _ _ => ⟨AList.lookup_erase _ _, ?_⟩⟩
        simp [fail, removed differs, tempPath_transferOf sound, Store.exists?,
          Store.remove]
  | notRenamed synced hashed same failed =>
      constructor
      · exact fun progress => (stuck progress.goesOn).elim
      · exact fun clean => (failed (clean.2.2.1 same)).elim
  | saved synced hashed same renamed =>
      constructor
      · exact fun _ =>
          ⟨synced, hashed, fun _ => renamed,
            fun differs => (differs same).elim⟩
      · refine fun _ => ⟨dropped, fun _ _ _ isError => ?_⟩
        cases isError

/-- A call lets every transfer go on exactly if it completes cleanly. -/
theorem makesProgress_iff
    (sound : state.Sound)
    (goesOn : state.receiver.CanGoOn)
    (call : ReceiverCall) :
    MakesProgress codec state call ↔ CompletesCleanly codec state call := by
  have ends := ends_receiveChunk codec call.io sound call.chunk
  by_cases completing :
    ∃ bytes, Completes codec call.io state call.chunk bytes
  · obtain ⟨bytes, completes⟩ := completing
    rw [MakesProgress,
      (ends.of_completes completes).leavesProgress_iff sound goesOn completes]
    constructor
    · intro clean other otherCompletes
      rw [completes.writes.wanted.arrives.unique
        otherCompletes.writes.wanted.arrives]
      exact clean
    · exact fun clean => clean bytes completes
  · have early := not_exists.mp completing
    constructor
    · exact fun _ bytes completes => (early bytes completes).elim
    · exact fun _ =>
        ⟨ends.canGoOn goesOn early,
          fun bytes _ completes => (early bytes completes).elim⟩

/--
In every run from an empty map, each call leaves every transfer able to go on
exactly if each completion is clean.
-/
theorem makesProgress_along_iff
    (codec : Codec)
    (saveDir : Path)
    (store : Store Path)
    (calls : List ReceiverCall) :
    StepRun.Along (step? codec) (MakesProgress codec) (start saveDir store)
        calls ↔
      StepRun.Along (step? codec) (CompletesCleanly codec)
        (start saveDir store) calls := by
  refine StepRun.Along.congr_of_kept
    (motive := fun state => state.Sound ∧ state.receiver.CanGoOn) ?_
    (fun _ holds => makesProgress_iff holds.1 holds.2 _) ?_
  · refine ⟨sound_start saveDir store, ?_⟩
    intro fileId transfer found
    simp [start, FileReceiver.withSaveDir] at found
  · intro state call next _ holds clean stepped
    have sound :=
      (receives_receiveChunk codec call.io holds.1 call.chunk).evolves.sound
    have progress := (makesProgress_iff holds.1 holds.2 call).mpr clean
    simp only [step?, Option.some.injEq] at stepped
    subst next
    exact ⟨sound, progress.goesOn⟩

/-- The sample, when the rename of its file is refused. -/
def refusedRename : ReceiverCall where
  chunk := sampleChunk
  io := { IoAnswers.success ⟨3⟩ with rename := some "Permission denied" }

/-- The entry of the sample is left behind with every chunk received. -/
theorem refusedRename_not_makesProgress :
    ¬ StepRun.Along (step? sampleCodec) (MakesProgress sampleCodec)
        (start sampleDir Store.empty) [refusedRename] := by
  intro progress
  have goesOn := progress.1.goesOn
  have stuck :
      ((receiveChunk sampleCodec refusedRename.io (start sampleDir Store.empty)
          sampleChunk).state.receiver.transfers.lookup sampleChunk.fileId).map
        Transfer.received = some [true] := by
    decide +kernel
  obtain ⟨transfer, found, received⟩ := Option.map_eq_some_iff.mp stuck
  have missing := (goesOn _ transfer found).2
  rw [received] at missing
  exact absurd missing (by decide)

end ReceiverState

end ClipboardWire
