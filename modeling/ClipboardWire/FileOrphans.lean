import ClipboardWire.FileReceiverSteps

namespace ClipboardWire

open FileStore

/-!
# Partial files without a transfer

Nobody removes a partial file whose transfer is not in the map.  Two kinds of
calls leave one behind: the file is created before its size is set and the
entry is made, and a file whose sender calls it like a partial file is moved to
that name.  In every other run the partial files in the directory are those of
the transfers in progress.
-/

namespace ReceiverState

/-- The partial files are those of the transfers in progress. -/
def Tidy (state : ReceiverState) : Prop :=
  ∀ fileId,
    state.store.exists? (state.receiver.partialPath fileId) =
      (state.receiver.transfers.lookup fileId).isSome

/-- A call leaves no partial file without a transfer. -/
def LeavesTidy
    (codec : Codec)
    (state : ReceiverState)
    (call : ReceiverCall) :
    Prop :=
  (receiveChunk codec call.io state call.chunk).state.Tidy

/-- A partial file that is created gets its size. -/
def Sizes
    (codec : Codec)
    (state : ReceiverState)
    (call : ReceiverCall) : Prop :=
  ∀ bytes,
    call.chunk.validate = .ok () →
    codec.decode call.chunk.payloadB64 = .ok bytes →
    state.receiver.transfers.lookup call.chunk.fileId = none →
    call.io.openFile = none →
    call.io.setLen = none

/--
A file that is delivered is not called like the partial file of a transfer,
unless that transfer is in progress.
-/
def NamesApart
    (codec : Codec)
    (state : ReceiverState)
    (call : ReceiverCall) :
    Prop :=
  ∀ bytes other,
    Delivers codec call.io state call.chunk bytes →
    (state.transferOf call.chunk).name = partialName other →
    other = call.chunk.fileId ∨
      (state.receiver.transfers.lookup other).isSome

/-- A call creates no partial file that does not belong to a transfer. -/
def KeepsApart
    (codec : Codec)
    (state : ReceiverState)
    (call : ReceiverCall) :
    Prop :=
  Sizes codec state call ∧ NamesApart codec state call

variable {codec : Codec} {io : IoAnswers} {state : ReceiverState}
  {chunk : FileChunkFrame} {bytes : List UInt8}

/-- A call that keeps its transfer open, and its partial file, stays tidy. -/
theorem Tidy.of_keeps
    {fileId : Uuid}
    {before after : ReceiverState}
    (tidy : before.Tidy)
    (evolves : Evolves fileId before after)
    (keeps : KeepsNames fileId before after)
    (inMap : (after.receiver.transfers.lookup fileId).isSome) :
    after.Tidy := by
  intro other
  have place := evolves.partialPath other
  by_cases same : other = fileId
  · subst other
    rw [place, keeps.own, inMap]
  · have named := keeps.others _ (partialPath_ne before.receiver same)
    rw [place, evolves.others other same, ← tidy other, Store.exists?,
      Store.exists?, named]

/-- Opening the transfer of a chunk stays tidy. -/
theorem tidy_arrived
    (sound : state.Sound)
    (tidy : state.Tidy)
    (chunk : FileChunkFrame) :
    (state.arrived chunk).Tidy :=
  tidy.of_keeps (evolves_arrived sound chunk) (keepsNames_arrived sound chunk)
    (by rw [lookup_arrived, Option.isSome_some])

/-- Writing a chunk stays tidy. -/
theorem tidy_written
    (sound : state.Sound)
    (tidy : state.Tidy)
    (chunk : FileChunkFrame)
    (bytes : List UInt8) :
    (state.written chunk bytes).Tidy :=
  tidy.of_keeps (evolves_written sound chunk bytes)
    (keepsNames_written sound chunk bytes)
    (by rw [lookup_written, Option.isSome_some])

/-- Forgetting a transfer stays tidy if its partial file goes as well. -/
theorem Tidy.dropTransfer
    {fileId : Uuid}
    {store : Store Path}
    (tidy : state.Tidy)
    (gone : store.exists? (state.receiver.partialPath fileId) = false)
    (others :
      ∀ other, other ≠ fileId →
        store.exists? (state.receiver.partialPath other) =
          state.store.exists? (state.receiver.partialPath other)) :
    Tidy
      { receiver := state.receiver.dropTransfer fileId
        store := store } := by
  intro other
  by_cases same : other = fileId
  · subst other
    rw [FileReceiver.dropTransfer, AList.lookup_erase]
    exact gone
  · rw [FileReceiver.dropTransfer, AList.lookup_erase_ne same, ← tidy other]
    exact others other same

/-- A partial file is created by opening it. -/
theorem exists_leftover (state : ReceiverState) (chunk : FileChunkFrame) :
    (state.leftover chunk).store.exists?
        (state.receiver.partialPath chunk.fileId) = true := by
  have refers :=
    Store.refers_openTruncate state.store
      (state.receiver.partialPath chunk.fileId)
  rw [Store.Refers, Store.path_openTruncate] at refers
  rw [leftover, Store.exists?, refers, Option.isSome_some]

/-- A delivered file gets the name of a partial file only if it is asked to. -/
theorem place_eq_partialPath_iff
    (sound : state.Sound)
    (tidy : state.Tidy)
    (random : Uuid)
    (chunk : FileChunkFrame)
    (bytes : List UInt8)
    (other : Uuid) :
    state.place random chunk bytes = state.receiver.partialPath other ↔
      (state.transferOf chunk).name = partialName other ∧
        ¬ (other = chunk.fileId ∨
          (state.receiver.transfers.lookup other).isSome) := by
  have isName := (transferSound_arrived sound chunk).name
  rw [place, FileReceiver.partialPath,
    uniquePath_eq_partialName_iff _ _ isName random other]
  refine and_congr_right fun _ => ?_
  have inMap := tidy_written sound tidy chunk bytes other
  rw [(evolves_written sound chunk bytes).partialPath,
    FileReceiver.partialPath] at inMap
  rw [inMap]
  by_cases same : other = chunk.fileId
  · subst other
    simp [lookup_written]
  · rw [(evolves_written sound chunk bytes).others other same]
    simp [same]

/-- Moving a completed file stays tidy unless it gets a partial file's name. -/
theorem tidy_saved_iff
    (sound : state.Sound)
    (tidy : state.Tidy)
    (random : Uuid)
    (chunk : FileChunkFrame)
    (bytes : List UInt8) :
    Tidy
        { receiver :=
            (state.written chunk bytes).receiver.dropTransfer chunk.fileId
          store :=
            (state.written chunk bytes).store.rename
              (state.transferOf chunk).tempPath
              (state.place random chunk bytes) } ↔
      ∀ other,
        state.place random chunk bytes ≠
          state.receiver.partialPath other := by
  have tidyWritten := tidy_written sound tidy chunk bytes
  have evolves := evolves_written sound chunk bytes
  have samePath := evolves.partialPath
  obtain ⟨inode, named⟩ :=
    Option.isSome_iff_exists.mp (keepsNames_written sound chunk bytes).own
  rw [tempPath_transferOf sound]
  constructor
  · intro tidyAfter other isPlace
    have free :=
      ((place_eq_partialPath_iff sound tidy random chunk bytes other).mp
        isPlace).2
    obtain ⟨different, absent⟩ := not_or.mp free
    have there :
        ((state.written chunk bytes).store.rename
            (state.receiver.partialPath chunk.fileId)
            (state.place random chunk bytes)).exists?
          ((state.written chunk bytes).receiver.partialPath other) = true := by
      rw [samePath, ← isPlace, Store.exists?, Store.names_rename_target named,
        Option.isSome_some]
    have inMap := there.symm.trans (tidyAfter other)
    rw [FileReceiver.dropTransfer, AList.lookup_erase_ne different,
      evolves.others other different] at inMap
    exact absent inMap.symm
  · intro apart
    refine tidyWritten.dropTransfer ?_ ?_
    · rw [samePath, Store.exists?,
        Store.names_rename_source _ (apart chunk.fileId).symm,
        Option.isSome_none]
    · intro other different
      rw [samePath, Store.exists?, Store.exists?,
        Store.names_rename_other _ (partialPath_ne state.receiver different)
          (apart other).symm]

/-- A chunk that arrives has not created a partial file without a size. -/
theorem Arrives.sizes
    {call : ReceiverCall}
    (arrives : Arrives codec call.io state call.chunk bytes) :
    Sizes codec state call :=
  fun _ _ _ new _ => (arrives.opened new).2

/-- A call that delivers nothing stays tidy if it sizes what it creates. -/
theorem Ends.tidy_iff_sizes
    {call : ReceiverCall}
    {received : Received}
    (sound : state.Sound)
    (tidy : state.Tidy)
    (removes : call.io.remove = none)
    (delivers : ∀ bytes, ¬ Delivers codec call.io state call.chunk bytes)
    (ends : Ends codec call.io state call.chunk received) :
    received.state.Tidy ↔ Sizes codec state call := by
  have tidyArrived := tidy_arrived sound tidy call.chunk
  cases ends with
  | rejected problem =>
      refine iff_of_true tidy ?_
      intro bytes valid decoded new created
      exact (not_rejected valid decoded (fun _ => created) problem).elim
  | @notSized bytes message valid decoded new created failed =>
      refine iff_of_false ?_ ?_
      · intro tidyAfter
        have inMap :=
          (exists_leftover state call.chunk).symm.trans
            (tidyAfter call.chunk.fileId)
        rw [leftover, fail, new] at inMap
        cases inMap
      · exact fun sizes => failed (sizes bytes valid decoded new created)
  | inconsistent arrives differs =>
      exact iff_of_true tidyArrived arrives.sizes
  | duplicate arrives same received =>
      exact iff_of_true tidyArrived arrives.sizes
  | notSought wanted failed =>
      exact iff_of_true tidyArrived wanted.arrives.sizes
  | notWritten wanted sought failed =>
      exact iff_of_true tidyArrived wanted.arrives.sizes
  | @pending bytes writes more =>
      exact iff_of_true (tidy_written sound tidy call.chunk bytes)
        writes.wanted.arrives.sizes
  | @finished bytes received completes ending =>
      have tidyWritten := tidy_written sound tidy call.chunk bytes
      have sizes := completes.writes.wanted.arrives.sizes
      cases ending with
      | notHashed failed =>
          exact iff_of_true tidyWritten sizes
      | mismatched synced hashed differs =>
          refine iff_of_true (tidyWritten.dropTransfer ?_ ?_) sizes
          all_goals
            have samePath :=
              (evolves_written sound call.chunk bytes).partialPath
          · simp [removes, samePath, tempPath_transferOf sound, Store.exists?,
              Store.remove]
          · intro other different
            have elsewhere := partialPath_ne state.receiver different
            simp [removes, samePath, tempPath_transferOf sound, Store.exists?,
              Store.names_remove_other _ elsewhere]
      | notRenamed synced hashed same failed =>
          exact iff_of_true tidyWritten sizes
      | saved synced hashed same renamed =>
          exact (delivers bytes
            ⟨completes, synced, hashed, same, renamed⟩).elim

/-- A call stays tidy exactly if it keeps partial files apart. -/
theorem leavesTidy_iff
    (sound : state.Sound)
    (tidy : state.Tidy)
    (call : ReceiverCall)
    (removes : call.io.remove = none) :
    LeavesTidy codec state call ↔ KeepsApart codec state call := by
  have ends := ends_receiveChunk codec call.io sound call.chunk
  unfold LeavesTidy KeepsApart
  by_cases delivering : ∃ bytes, Delivers codec call.io state call.chunk bytes
  · obtain ⟨bytes, delivers⟩ := delivering
    have arrives := delivers.completes.writes.wanted.arrives
    rw [(ends.of_delivers delivers), tidy_saved_iff sound tidy,
      and_iff_right arrives.sizes]
    have apart (other : Uuid) :=
      (place_eq_partialPath_iff sound tidy call.io.random call.chunk bytes
        other).not
    simp only [apart, not_and, not_not]
    constructor
    · exact fun names other bytes' _ named => names bytes' named
    · exact fun names other named => names bytes other delivers named
  · have none := not_exists.mp delivering
    rw [ends.tidy_iff_sizes sound tidy removes none]
    exact (and_iff_left fun bytes _ delivers => (none bytes delivers).elim).symm

/--
In every run from an empty directory in which removing a file succeeds, each
call leaves no partial file without a transfer exactly if it keeps them apart.
-/
theorem leavesTidy_along_iff
    {saveDir : Path}
    {store : Store Path}
    {calls : List ReceiverCall}
    (empty :
      ∀ name, IsFileName name → store.exists? (saveDir.join name) = false)
    (removes : ∀ call ∈ calls, call.io.remove = none) :
    StepRun.Along (step? codec) (LeavesTidy codec) (start saveDir store)
        calls ↔
      StepRun.Along (step? codec) (KeepsApart codec) (start saveDir store)
        calls := by
  refine StepRun.Along.congr_of_kept
    (motive := fun state => state.Sound ∧ state.Tidy) ?_
    (fun member holds => leavesTidy_iff holds.1 holds.2 _ (removes _ member)) ?_
  · refine ⟨sound_start saveDir store, fun fileId => ?_⟩
    exact empty (partialName fileId) (isFileName_partialName fileId)
  · intro state call next member holds apart stepped
    have sound :=
      (receives_receiveChunk codec call.io holds.1 call.chunk).evolves.sound
    have tidy :=
      (leavesTidy_iff holds.1 holds.2 call (removes call member)).mpr apart
    simp only [step?, Option.some.injEq] at stepped
    subst next
    exact ⟨sound, tidy⟩

/-- The sample, delivered to an empty directory. -/
theorem sampleCall_leavesTidy :
    StepRun.Along (step? sampleCodec) (LeavesTidy sampleCodec)
        (start sampleDir Store.empty) [sampleCall] ↔
      StepRun.Along (step? sampleCodec) (KeepsApart sampleCodec)
        (start sampleDir Store.empty) [sampleCall] :=
  leavesTidy_along_iff (fun _ _ => rfl) (by decide)

/-- The sample, when there is no room for its partial file. -/
def fullDisk : ReceiverCall where
  chunk := sampleChunk
  io :=
    { IoAnswers.success ⟨3⟩ with
      setLen := some "No space left on device" }

/-- The partial file of the sample is left behind without an entry. -/
theorem fullDisk_not_leavesTidy :
    ¬ StepRun.Along (step? sampleCodec) (LeavesTidy sampleCodec)
        (start sampleDir Store.empty) [fullDisk] := by
  intro tidy
  have orphan := tidy.1 sampleChunk.fileId
  revert orphan
  decide +kernel

end ReceiverState

end ClipboardWire
