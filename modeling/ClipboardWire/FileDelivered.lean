import ClipboardWire.FileReceiverSteps

namespace ClipboardWire

open FileStore

/-!
# Delivered files

Once `receive_chunk` has returned the path of a file, later calls should not
touch that file.  Final names never meet the partial file of a transfer that is
in progress, but a file may be delivered under the name of a partial file to
come: a chunk with that identifier opens it and empties it.
-/

namespace ReceiverState

/-- A call leaves the file at a path alone. -/
def LeavesFile
    (codec : Codec)
    (path : Path)
    (state : ReceiverState)
    (call : ReceiverCall) :
    Prop :=
  Store.LeavesAlone path state.store
    (receiveChunk codec call.io state call.chunk).state.store

/-- A call does not open the path as the partial file of a new transfer. -/
def Spares
    (codec : Codec)
    (path : Path)
    (state : ReceiverState)
    (call : ReceiverCall) :
    Prop :=
  ∀ bytes,
    call.chunk.validate = .ok () →
    codec.decode call.chunk.payloadB64 = .ok bytes →
    state.receiver.transfers.lookup call.chunk.fileId = none →
    call.io.openFile = none →
    state.receiver.partialPath call.chunk.fileId ≠ path

/-- There is a file at a path, and no transfer in progress works on it. -/
structure Settled (path : Path) (state : ReceiverState) : Prop where
  sound : state.Sound
  there : state.store.exists? path = true
  apart :
    ∀ fileId,
      (state.receiver.transfers.lookup fileId).isSome →
      state.receiver.partialPath fileId ≠ path

/-- The random part of a last-resort name is not that of a path. -/
def IsFresh (saveDir path : Path) (random : Uuid) : Prop :=
  ∀ name,
    IsFileName name → saveDir.join (fallbackName name random) ≠ path

variable {codec : Codec} {io : IoAnswers} {state : ReceiverState}
  {chunk : FileChunkFrame} {bytes : List UInt8} {path : Path}

/-- Opening the transfer of a chunk leaves the paths of the others alone. -/
theorem leavesAlone_arrived
    (chunk : FileChunkFrame)
    (different : path ≠ state.receiver.partialPath chunk.fileId) :
    Store.LeavesAlone path state.store (state.arrived chunk).store := by
  unfold arrived
  cases found : state.receiver.transfers.lookup chunk.fileId with
  | some transfer =>
      exact .refl path state.store
  | none =>
      have refers :=
        Store.refers_openTruncate state.store
          (state.receiver.partialPath chunk.fileId)
      refine (Store.leavesAlone_openTruncate state.store different).trans
        (refers.leavesAlone_setContent _ ?_)
      rw [Store.path_openTruncate]
      exact different

/-- A write to the partial file of a chunk leaves the other paths alone. -/
theorem leavesAlone_setContent
    (sound : state.Sound)
    (chunk : FileChunkFrame)
    (different : path ≠ state.receiver.partialPath chunk.fileId)
    (content : List UInt8) :
    Store.LeavesAlone path state.store
      ((state.arrived chunk).store.setContent (state.transferOf chunk).file
        content) := by
  have own := transferSound_arrived sound chunk
  refine (leavesAlone_arrived chunk different).trans
    (own.refers.leavesAlone_setContent content ?_)
  rw [own.path, tempPath_transferOf sound]
  exact different

/-- A completed file is moved to a place where there is no file. -/
theorem ne_place
    (sound : state.Sound)
    (there : state.store.exists? path = true)
    (different : path ≠ state.receiver.partialPath chunk.fileId)
    {random : Uuid}
    (fresh : IsFresh state.receiver.saveDir path random)
    (bytes : List UInt8) :
    path ≠ state.place random chunk bytes := by
  have isName := (transferSound_arrived sound chunk).name
  obtain ⟨chosen, isFile, isPlace, free | last⟩ :=
    uniquePath_eq (state.written chunk bytes).store.exists?
      state.receiver.saveDir isName random
  · intro same
    rw [place, isPlace] at same
    rw [← same, Store.exists?,
      (keepsNames_written sound chunk bytes).others path different] at free
    rw [Store.exists?, free] at there
    cases there
  · rw [place, isPlace, last]
    exact (fresh _ isName).symm

/-- A call leaves alone whatever is not the partial file of its chunk. -/
theorem Ends.leavesAlone
    {received : Received}
    (sound : state.Sound)
    (there : state.store.exists? path = true)
    (different : path ≠ state.receiver.partialPath chunk.fileId)
    (fresh : IsFresh state.receiver.saveDir path io.random)
    (ends : Ends codec io state chunk received) :
    Store.LeavesAlone path state.store received.state.store := by
  have arrived := leavesAlone_arrived chunk different
  have written (bytes : List UInt8) :
      Store.LeavesAlone path state.store (state.written chunk bytes).store :=
    leavesAlone_setContent sound chunk different _
  cases ends with
  | rejected problem =>
      exact .refl path state.store
  | notSized valid decoded new created failed =>
      exact Store.leavesAlone_openTruncate state.store different
  | inconsistent arrives differs =>
      exact arrived
  | duplicate arrives same received =>
      exact arrived
  | notSought wanted failed =>
      exact arrived
  | notWritten wanted sought failed =>
      exact leavesAlone_setContent sound chunk different _
  | @pending bytes writes more =>
      exact written bytes
  | @finished bytes received completes ending =>
      have notTemp : path ≠ (state.transferOf chunk).tempPath := by
        rw [tempPath_transferOf sound]
        exact different
      cases ending with
      | notHashed failed =>
          exact written bytes
      | mismatched synced hashed differs =>
          dsimp only [fail]
          split
          · exact (written bytes).trans (Store.leavesAlone_remove _ notTemp)
          · exact written bytes
      | notRenamed synced hashed same failed =>
          exact written bytes
      | saved synced hashed same renamed =>
          exact (written bytes).trans
            (Store.leavesAlone_rename _ notTemp
              (ne_place sound there different fresh bytes))

/-- The first chunk of a file touches its partial file. -/
theorem Ends.touches
    {received : Received}
    (valid : chunk.validate = .ok ())
    (decoded : codec.decode chunk.payloadB64 = .ok bytes)
    (new : state.receiver.transfers.lookup chunk.fileId = none)
    (created : io.openFile = none)
    (ends : Ends codec io state chunk received) :
    state.store.touched ++ [state.receiver.partialPath chunk.fileId] <+:
      received.state.store.touched := by
  have arrived :
      state.store.touched ++ [state.receiver.partialPath chunk.fileId] <+:
        (state.arrived chunk).store.touched := by
    have isOpened : state.arrived chunk = state.opened chunk := by
      simp [ReceiverState.arrived, new]
    rw [isOpened, opened, Store.setLen, Store.touched_setContent,
      Store.touched_openTruncate]
    exact List.prefix_append _ _
  have written (bytes : List UInt8) :
      state.store.touched ++ [state.receiver.partialPath chunk.fileId] <+:
        (state.written chunk bytes).store.touched :=
    arrived.trans (List.prefix_append _ _)
  cases ends with
  | rejected problem =>
      exact (not_rejected valid decoded (fun _ => created) problem).elim
  | notSized valid decoded new created failed =>
      rw [fail, leftover, Store.touched_openTruncate]
  | inconsistent arrives differs =>
      exact arrived
  | duplicate arrives same received =>
      exact arrived
  | notSought wanted failed =>
      exact arrived
  | notWritten wanted sought failed =>
      exact arrived.trans (List.prefix_append _ _)
  | @pending bytes writes more =>
      exact written bytes
  | @finished bytes received completes ending =>
      cases ending with
      | notHashed failed =>
          exact written bytes
      | mismatched synced hashed differs =>
          dsimp only [fail]
          split
          · rw [Store.touched_remove]
            exact written bytes
          · exact written bytes
      | notRenamed synced hashed same failed =>
          exact written bytes
      | saved synced hashed same renamed =>
          exact (written bytes).trans (Store.touched_prefix_rename _ _ _)

/-- A call whose chunk belongs to no transfer and opens none changes nothing. -/
theorem Ends.state_of_not_opened
    {received : Received}
    (new : state.receiver.transfers.lookup chunk.fileId = none)
    (closed :
      ∀ bytes,
        chunk.validate = .ok () →
        codec.decode chunk.payloadB64 = .ok bytes →
        io.openFile ≠ none)
    (ends : Ends codec io state chunk received) :
    received.state = state := by
  have absent (bytes : List UInt8) : ¬ Arrives codec io state chunk bytes :=
    fun arrives =>
      closed bytes arrives.valid arrives.decoded (arrives.opened new).1
  cases ends with
  | rejected problem =>
      rfl
  | notSized valid decoded new created failed =>
      exact (closed _ valid decoded created).elim
  | inconsistent arrives differs =>
      exact (absent _ arrives).elim
  | duplicate arrives same received =>
      exact (absent _ arrives).elim
  | notSought wanted failed =>
      exact (absent _ wanted.arrives).elim
  | notWritten wanted sought failed =>
      exact (absent _ wanted.arrives).elim
  | pending writes more =>
      exact (absent _ writes.wanted.arrives).elim
  | finished completes ending =>
      exact (absent _ completes.writes.wanted.arrives).elim

/-- A call leaves a delivered file alone exactly if it does not open it. -/
theorem leavesFile_iff
    (settled : Settled path state)
    (call : ReceiverCall)
    (fresh : IsFresh state.receiver.saveDir path call.io.random) :
    LeavesFile codec path state call ↔ Spares codec path state call := by
  have ends := ends_receiveChunk codec call.io settled.sound call.chunk
  by_cases own : state.receiver.partialPath call.chunk.fileId = path
  · have new : state.receiver.transfers.lookup call.chunk.fileId = none := by
      rw [← Option.not_isSome_iff_eq_none]
      exact fun inMap => settled.apart _ inMap own
    constructor
    · intro alone bytes valid decoded _ created _
      refine Store.not_leavesAlone_of_touched ?_ alone
      rw [← own]
      exact ends.touches valid decoded new created
    · intro spares
      have unchanged :=
        ends.state_of_not_opened new fun bytes valid decoded created =>
          spares bytes valid decoded new created own
      rw [LeavesFile, unchanged]
      exact .refl path state.store
  · refine iff_of_true ?_ fun _ _ _ _ _ => own
    exact ends.leavesAlone settled.sound settled.there (Ne.symm own) fresh

theorem Settled.step
    {call : ReceiverCall}
    (settled : Settled path state)
    (fresh : IsFresh state.receiver.saveDir path call.io.random)
    (spares : Spares codec path state call) :
    Settled path (receiveChunk codec call.io state call.chunk).state := by
  have evolves :=
    (receives_receiveChunk codec call.io settled.sound call.chunk).evolves
  have alone := (leavesFile_iff settled call fresh).mpr spares
  refine ⟨evolves.sound, ?_, ?_⟩
  · rw [Store.exists?, alone.names]
    exact settled.there
  · intro fileId inMap
    rw [FileReceiver.partialPath, evolves.saveDir]
    by_cases same : fileId = call.chunk.fileId
    · intro own
      subst fileId
      have new : state.receiver.transfers.lookup call.chunk.fileId = none := by
        rw [← Option.not_isSome_iff_eq_none]
        exact fun before => settled.apart _ before own
      have unchanged :=
        (ends_receiveChunk codec call.io settled.sound
          call.chunk).state_of_not_opened new
          fun bytes valid decoded created =>
            spares bytes valid decoded new created own
      rw [unchanged, new] at inMap
      cases inMap
    · rw [evolves.others fileId same] at inMap
      exact settled.apart fileId inMap

/-- A file is settled once it has been delivered. -/
theorem settled_of_saved
    (sound : state.Sound)
    (call : ReceiverCall)
    (saved :
      (receiveChunk codec call.io state call.chunk).result =
        .ok (some path)) :
    Settled path (receiveChunk codec call.io state call.chunk).state := by
  have evolves :=
    (receives_receiveChunk codec call.io sound call.chunk).evolves
  have ends := ends_receiveChunk codec call.io sound call.chunk
  obtain ⟨bytes, delivers⟩ := ends.exists_delivers saved
  rw [ends.of_delivers delivers] at evolves saved ⊢
  cases saved
  have written := evolves_written sound call.chunk bytes
  have isName := (transferSound_arrived sound call.chunk).name
  obtain ⟨inode, named⟩ :=
    Option.isSome_iff_exists.mp (keepsNames_written sound call.chunk bytes).own
  rw [tempPath_transferOf sound] at evolves ⊢
  refine ⟨evolves.sound, ?_, ?_⟩
  · rw [Store.exists?, Store.names_rename_target named, Option.isSome_some]
  · intro fileId inMap isPlace
    by_cases own : fileId = call.chunk.fileId
    · subst fileId
      simp [FileReceiver.dropTransfer] at inMap
    · rw [FileReceiver.dropTransfer, AList.lookup_erase_ne own] at inMap
      obtain ⟨transfer, found⟩ := Option.isSome_iff_exists.mp inMap
      have apart :=
        saved_place_ne_partialPath written.sound isName call.io.random found
      have owns := written.sound fileId transfer found
      rw [owns.path, owns.tempPath, written.saveDir] at apart
      exact apart isPlace

/--
After a call has delivered a file, every later call of a run leaves that file
alone exactly if none of them opens it as the partial file of a new transfer.
-/
theorem leavesFile_along_iff
    {saveDir : Path}
    {store : Store Path}
    {past later : List ReceiverCall}
    {call : ReceiverCall}
    (ran :
      StepRun.run? (step? codec) (start saveDir store) past = some state)
    (saved :
      (receiveChunk codec call.io state call.chunk).result =
        .ok (some path))
    (fresh : ∀ call ∈ later, IsFresh saveDir path call.io.random) :
    StepRun.Along (step? codec) (LeavesFile codec path)
        (receiveChunk codec call.io state call.chunk).state later ↔
      StepRun.Along (step? codec) (Spares codec path)
        (receiveChunk codec call.io state call.chunk).state later := by
  have confined := confined_of_run ran
  have evolves :=
    (receives_receiveChunk codec call.io confined.sound call.chunk).evolves
  refine StepRun.Along.congr_of_kept
    (motive := fun state =>
      state.receiver.saveDir = saveDir ∧ Settled path state)
    ⟨evolves.saveDir.trans confined.savesTo,
      settled_of_saved confined.sound call saved⟩ ?_ ?_
  · rintro state next member ⟨savesTo, settled⟩
    exact leavesFile_iff settled next (savesTo ▸ fresh next member)
  · rintro state next after member ⟨savesTo, settled⟩ spares stepped
    have isFresh : IsFresh state.receiver.saveDir path next.io.random :=
      savesTo ▸ fresh next member
    have evolves :=
      (receives_receiveChunk codec next.io settled.sound next.chunk).evolves
    simp only [step?, Option.some.injEq] at stepped
    subst after
    exact ⟨evolves.saveDir.trans savesTo, settled.step isFresh spares⟩

/-- The name of the sample does not end in the random identifier. -/
theorem isFresh_sample :
    IsFresh sampleDir (sampleDir.join ".._hi.txt") ⟨3⟩ := by
  intro name isName same
  have isLast :=
    Path.join_injective (isFileName_fallbackName isName ⟨3⟩)
      (isFileName_sanitizeFilename "../hi.txt")
      (same.trans (by decide +kernel))
  have ending :
      (Uuid.hyphenated ⟨3⟩).toList <:+
        (sanitizeFilename "../hi.txt").toList := by
    rw [← isLast]
    simp [fallbackName, List.suffix_append_of_suffix]
  revert ending
  decide +kernel

/-- The sample is delivered, and then delivered again. -/
theorem leavesFile_sample :
    StepRun.Along (step? sampleCodec)
        (LeavesFile sampleCodec (sampleDir.join ".._hi.txt"))
        (receiveChunk sampleCodec sampleCall.io (start sampleDir Store.empty)
          sampleCall.chunk).state [sampleCall] ↔
      StepRun.Along (step? sampleCodec)
        (Spares sampleCodec (sampleDir.join ".._hi.txt"))
        (receiveChunk sampleCodec sampleCall.io (start sampleDir Store.empty)
          sampleCall.chunk).state [sampleCall] :=
  leavesFile_along_iff (StepRun.run?_nil _ _) (by decide +kernel)
    (by
      intro call member
      rw [List.mem_singleton] at member
      rw [member]
      exact isFresh_sample)

/-- The sample, called like the partial file of another transfer. -/
def calledPartial : ReceiverCall where
  chunk := { sampleChunk with name := partialName ⟨9⟩ }
  io := .success ⟨3⟩

/-- The sample, sent as that other transfer. -/
def otherTransfer : ReceiverCall where
  chunk := { sampleChunk with fileId := ⟨9⟩ }
  io := .success ⟨3⟩

/-- The file that was delivered first is emptied and moved away. -/
theorem calledPartial_not_leavesFile :
    (receiveChunk sampleCodec calledPartial.io (start sampleDir Store.empty)
        calledPartial.chunk).result =
        .ok (some (sampleDir.join (partialName ⟨9⟩))) ∧
      ¬ StepRun.Along (step? sampleCodec)
          (LeavesFile sampleCodec (sampleDir.join (partialName ⟨9⟩)))
          (receiveChunk sampleCodec calledPartial.io
            (start sampleDir Store.empty) calledPartial.chunk).state
          [otherTransfer] := by
  refine ⟨by decide +kernel, fun alone => ?_⟩
  have kept := congrArg Option.isSome alone.1.names
  revert kept
  decide +kernel

end ReceiverState

end ClipboardWire
