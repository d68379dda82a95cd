import ClipboardWire.FileReceiver

namespace ClipboardWire

open FileStore

/-!
# What one call of the receiver does

Every transfer in progress has its own partial file, named after its
identifier, and an open file that refers to it.  A call about one transfer
keeps this, leaves the other transfers and their files alone, and only touches
direct children of the directory it saves to.  Each phase of `receive_chunk`
evolves the state in this sense, and so does the whole call.
-/

namespace ReceiverState

/-- A transfer in progress has its own partial file and a file name. -/
structure TransferSound
    (state : ReceiverState)
    (fileId : Uuid)
    (transfer : Transfer) : Prop where
  tempPath : transfer.tempPath = state.receiver.partialPath fileId
  path : transfer.file.path = transfer.tempPath
  refers : state.store.Refers transfer.file
  length : transfer.received.length = transfer.totalChunks.toNat
  name : IsFileName transfer.name

/-- Every transfer in progress is sound. -/
def Sound (state : ReceiverState) : Prop :=
  ∀ fileId transfer,
    state.receiver.transfers.lookup fileId = some transfer →
    state.TransferSound fileId transfer

/-- What a call about one transfer may do to the state. -/
structure Evolves
    (fileId : Uuid)
    (before after : ReceiverState) : Prop where
  saveDir : after.receiver.saveDir = before.receiver.saveDir
  others :
    ∀ other, other ≠ fileId →
      after.receiver.transfers.lookup other =
        before.receiver.transfers.lookup other
  data :
    ∀ other transfer, other ≠ fileId →
      before.receiver.transfers.lookup other = some transfer →
      after.store.data transfer.file.inode =
        before.store.data transfer.file.inode
  touched :
    ∀ path ∈ after.store.touched,
      path ∈ before.store.touched ∨
        before.receiver.saveDir.DirectChild path
  sound : after.Sound

theorem Evolves.refl
    {fileId : Uuid}
    {state : ReceiverState}
    (sound : state.Sound) :
    Evolves fileId state state where
  saveDir := rfl
  others := fun _ _ => rfl
  data := fun _ _ _ _ => rfl
  touched := fun _ member => .inl member
  sound := sound

theorem Evolves.trans
    {fileId : Uuid}
    {before middle after : ReceiverState}
    (first : Evolves fileId before middle)
    (second : Evolves fileId middle after) :
    Evolves fileId before after where
  saveDir := second.saveDir.trans first.saveDir
  others := fun other different =>
    (second.others other different).trans (first.others other different)
  data := by
    intro other transfer different found
    have later :
        middle.receiver.transfers.lookup other = some transfer := by
      rw [first.others other different]
      exact found
    exact (second.data other transfer different later).trans
      (first.data other transfer different found)
  touched := by
    intro path member
    rcases second.touched path member with earlier | child
    · exact first.touched path earlier
    · rw [first.saveDir] at child
      exact .inr child
  sound := second.sound

/-- The partial files of two transfers have different paths. -/
theorem partialPath_ne
    (receiver : FileReceiver)
    {fileId other : Uuid}
    (different : other ≠ fileId) :
    receiver.partialPath other ≠ receiver.partialPath fileId := by
  intro same
  exact different (partialName_injective
    (Path.join_injective (isFileName_partialName other)
      (isFileName_partialName fileId) same))

theorem partialPath_congr
    {before after : FileReceiver}
    (saveDir : after.saveDir = before.saveDir)
    (fileId : Uuid) :
    after.partialPath fileId = before.partialPath fileId := by
  rw [FileReceiver.partialPath, FileReceiver.partialPath, saveDir]

/-- A call leaves the partial files where they are. -/
theorem Evolves.partialPath
    {fileId : Uuid}
    {before after : ReceiverState}
    (evolves : Evolves fileId before after)
    (other : Uuid) :
    after.receiver.partialPath other = before.receiver.partialPath other :=
  partialPath_congr evolves.saveDir other

/-- A sound transfer has no partial file but its own. -/
theorem TransferSound.path_ne
    {state : ReceiverState}
    {fileId other : Uuid}
    {transfer : Transfer}
    (own : state.TransferSound other transfer)
    (different : other ≠ fileId) :
    transfer.file.path ≠ state.receiver.partialPath fileId := by
  rw [own.path, own.tempPath]
  exact partialPath_ne state.receiver different

/-- A partial file is a direct child of the directory. -/
theorem directChild_partialPath
    (receiver : FileReceiver)
    (fileId : Uuid) :
    receiver.saveDir.DirectChild (receiver.partialPath fileId) :=
  Path.directChild_join _ (isFileName_partialName fileId)

private theorem TransferSound.of_names
    {before after : ReceiverState}
    {fileId : Uuid}
    {transfer : Transfer}
    (sound : before.TransferSound fileId transfer)
    (saveDir : after.receiver.saveDir = before.receiver.saveDir)
    (names :
      after.store.names transfer.file.path =
        before.store.names transfer.file.path) :
    after.TransferSound fileId transfer where
  tempPath := sound.tempPath.trans (partialPath_congr saveDir fileId).symm
  path := sound.path
  refers := by
    rw [Store.Refers, names]
    exact sound.refers
  length := sound.length
  name := sound.name

/-- Writing through the file of a transfer evolves the state. -/
theorem evolves_setContent
    {state : ReceiverState}
    (fileId : Uuid)
    {handle : Handle Path}
    (sound : state.Sound)
    (refers : state.store.Refers handle)
    (path : handle.path = state.receiver.partialPath fileId)
    (content : List UInt8) :
    Evolves fileId state
      { state with store := state.store.setContent handle content } where
  saveDir := rfl
  others := fun _ _ => rfl
  data := by
    intro other transfer different found
    have own := sound other transfer found
    refine state.store.data_setContent_other handle content
      (refers.inode_ne own.refers ?_)
    rw [path]
    exact own.path_ne different
  touched := by
    intro touchedPath member
    simp only [Store.touched_setContent, List.mem_append,
      List.mem_singleton] at member
    refine member.imp id fun isTouched => ?_
    rw [isTouched, path]
    exact directChild_partialPath state.receiver fileId
  sound := fun other transfer found =>
    (sound other transfer found).of_names rfl rfl

/-- Recording the progress of a sound transfer evolves the state. -/
theorem evolves_setTransfer
    {state : ReceiverState}
    {fileId : Uuid}
    {transfer : Transfer}
    (sound :
      ∀ other found,
        other ≠ fileId →
        state.receiver.transfers.lookup other = some found →
        state.TransferSound other found)
    (own : state.TransferSound fileId transfer) :
    Evolves fileId state
      { state with
        receiver := state.receiver.setTransfer fileId transfer } where
  saveDir := rfl
  others := fun other different =>
    AList.lookup_insert_ne different
  data := fun _ _ _ _ => rfl
  touched := fun _ member => .inl member
  sound := by
    intro other found lookup
    by_cases same : other = fileId
    · subst other
      simp only [FileReceiver.setTransfer, AList.lookup_insert,
        Option.some.injEq] at lookup
      subst found
      exact own.of_names rfl rfl
    · simp only [FileReceiver.setTransfer,
        AList.lookup_insert_ne same] at lookup
      exact (sound other found same lookup).of_names rfl rfl

/-- Forgetting a transfer evolves the state, whatever happens to its file. -/
theorem evolves_dropTransfer
    {state : ReceiverState}
    {fileId : Uuid}
    {store : Store Path}
    (sound : state.Sound)
    (data : store.data = state.store.data)
    (names :
      ∀ other transfer,
        other ≠ fileId →
        state.receiver.transfers.lookup other = some transfer →
        store.names transfer.file.path =
          state.store.names transfer.file.path)
    (touched :
      ∀ path ∈ store.touched,
        path ∈ state.store.touched ∨
          state.receiver.saveDir.DirectChild path) :
    Evolves fileId state
      { receiver := state.receiver.dropTransfer fileId
        store := store } where
  saveDir := rfl
  others := fun other different =>
    AList.lookup_erase_ne different
  data := fun _ _ _ _ => congrFun data _
  touched := touched
  sound := by
    intro other transfer lookup
    by_cases same : other = fileId
    · subst other
      simp [FileReceiver.dropTransfer] at lookup
    · simp only [FileReceiver.dropTransfer,
        AList.lookup_erase_ne same] at lookup
      exact (sound other transfer lookup).of_names rfl
        (names other transfer same lookup)

/-- Opening the partial file of a transfer that is not in progress. -/
private theorem evolves_openTruncate
    {state : ReceiverState}
    {fileId : Uuid}
    (sound : state.Sound)
    (absent : state.receiver.transfers.lookup fileId = none) :
    Evolves fileId state
      { state with
        store :=
          (state.store.openTruncate
            (state.receiver.partialPath fileId)).2 } where
  saveDir := rfl
  others := fun _ _ => rfl
  data := by
    intro other transfer different found
    have own := sound other transfer found
    have elsewhere :
        transfer.file.path ≠ state.receiver.partialPath fileId :=
      own.path_ne different
    have named :
        (state.store.openTruncate
            (state.receiver.partialPath fileId)).2.Refers
          transfer.file := by
      rw [Store.Refers, Store.names_openTruncate_other _ elsewhere]
      exact own.refers
    have content :=
      state.store.read_openTruncate_other elsewhere
    rw [named.read, own.refers.read, Option.some.injEq] at content
    exact content
  touched := by
    intro path member
    simp only [Store.touched_openTruncate, List.mem_append,
      List.mem_singleton] at member
    refine member.imp id fun isOpened => ?_
    subst path
    exact directChild_partialPath state.receiver fileId
  sound := by
    intro other transfer found
    have own := sound other transfer found
    have different : other ≠ fileId := by
      intro same
      subst other
      rw [absent] at found
      cases found
    exact own.of_names rfl
      (Store.names_openTruncate_other _ (own.path_ne different))

/-- The entry that the first chunk of a file creates. -/
def openedTransfer
    (state : ReceiverState)
    (chunk : FileChunkFrame) :
    Transfer where
  name := sanitizeFilename chunk.name
  tempPath := state.receiver.partialPath chunk.fileId
  file :=
    (state.store.openTruncate
      (state.receiver.partialPath chunk.fileId)).1
  totalChunks := chunk.totalChunks
  received := List.replicate chunk.totalChunks.toNat false
  expectedSha256 := chunk.fileSha256
  expectedSize := chunk.fileSize

/-- The state once the first chunk of a file has opened its transfer. -/
def opened
    (state : ReceiverState)
    (chunk : FileChunkFrame) :
    ReceiverState where
  receiver :=
    state.receiver.setTransfer chunk.fileId (state.openedTransfer chunk)
  store :=
    (state.store.openTruncate
      (state.receiver.partialPath chunk.fileId)).2.setLen
        (state.openedTransfer chunk).file chunk.fileSize.toNat

/-- A transfer that has just been opened is sound. -/
private theorem transferSound_opened
    (state : ReceiverState)
    (chunk : FileChunkFrame)
    {store : Store Path}
    (names :
      store.names =
        (state.store.openTruncate
          (state.receiver.partialPath chunk.fileId)).2.names) :
    TransferSound { state with store := store } chunk.fileId
      (state.openedTransfer chunk) where
  tempPath := rfl
  path := Store.path_openTruncate _ _
  refers := by
    rw [Store.Refers, names]
    exact Store.refers_openTruncate _ _
  length := List.length_replicate
  name := isFileName_sanitizeFilename chunk.name

/-- Opening a transfer evolves the state. -/
theorem evolves_opened
    {state : ReceiverState}
    {chunk : FileChunkFrame}
    (sound : state.Sound)
    (absent : state.receiver.transfers.lookup chunk.fileId = none) :
    Evolves chunk.fileId state (state.opened chunk) := by
  have created := evolves_openTruncate sound absent
  have grown :=
    evolves_setContent chunk.fileId
      created.sound
      (Store.refers_openTruncate _ _)
      (Store.path_openTruncate _ _)
      (resize
        ((state.store.openTruncate
            (state.receiver.partialPath chunk.fileId)).2.data
          (state.store.openTruncate
            (state.receiver.partialPath chunk.fileId)).1.inode)
        chunk.fileSize.toNat)
  have recorded :=
    evolves_setTransfer
      (fun other found _ lookup => grown.sound other found lookup)
      (transferSound_opened state chunk rfl)
  exact (created.trans grown).trans recorded

/-- Every answer to the first chunk of a file. -/
private theorem openTransfer_cases
    (io : IoAnswers)
    {state : ReceiverState}
    {chunk : FileChunkFrame}
    (absent : state.receiver.transfers.lookup chunk.fileId = none) :
    (∃ message, openTransfer io state chunk = (.error message, state)) ∨
      (∃ message,
        openTransfer io state chunk =
          (.error message,
            { state with
              store :=
                (state.store.openTruncate
                  (state.receiver.partialPath chunk.fileId)).2 })) ∨
      openTransfer io state chunk = (.ok (), state.opened chunk) := by
  simp only [openTransfer, absent, Option.isSome_none, Bool.false_eq_true,
    ↓reduceIte]
  cases io.openFile with
  | some reason =>
      exact .inl ⟨_, rfl⟩
  | none =>
      cases io.setLen with
      | some reason =>
          exact .inr (.inl ⟨_, rfl⟩)
      | none =>
          exact .inr (.inr rfl)

/-- A later chunk of a file in progress opens nothing. -/
theorem openTransfer_of_isSome
    (io : IoAnswers)
    {state : ReceiverState}
    {chunk : FileChunkFrame}
    {transfer : Transfer}
    (found :
      state.receiver.transfers.lookup chunk.fileId = some transfer) :
    openTransfer io state chunk = (.ok (), state) := by
  simp [openTransfer, found]

/-- A saved file: where it is, that the place was free, and its hash. -/
structure Saved
    (codec : Codec)
    (random : Uuid)
    (expected : String)
    (before after : ReceiverState)
    (path : Path) : Prop where
  child : ∃ name, IsFileName name ∧ path = before.receiver.saveDir.join name
  free :
    (∀ name, IsFileName name →
      before.store.exists?
        (before.receiver.saveDir.join (fallbackName name random)) =
        false) →
    before.store.exists? path = false
  content :
    ∃ content,
      after.store.read path = some content ∧
        codec.fingerprint content = expected

/-- What the phases after opening a transfer may do. -/
structure Finishes
    (codec : Codec)
    (random : Uuid)
    (fileId : Uuid)
    (expected : String)
    (before : ReceiverState)
    (after : Received) : Prop where
  evolves : Evolves fileId before after.state
  kept :
    ∀ transfer,
      after.state.receiver.transfers.lookup fileId = some transfer →
      transfer.expectedSha256 = expected
  pending :
    after.result = .ok none →
    (after.state.receiver.transfers.lookup fileId).isSome
  saved :
    ∀ path,
      after.result = .ok (some path) →
      Saved codec random expected before after.state path
  noPanic : after.result ≠ .error .panic

/-- A phase before the last only adds the partial file to the names. -/
structure KeepsNames
    (fileId : Uuid)
    (before middle : ReceiverState) : Prop where
  others :
    ∀ path, path ≠ before.receiver.partialPath fileId →
      middle.store.names path = before.store.names path
  own : middle.store.exists? (before.receiver.partialPath fileId) = true

/-- A transfer in progress has its partial file already. -/
theorem keepsNames_self
    {state : ReceiverState}
    {fileId : Uuid}
    {transfer : Transfer}
    (own : state.TransferSound fileId transfer) :
    KeepsNames fileId state state where
  others := fun _ _ => rfl
  own := by
    have named := own.refers
    rw [Store.Refers, own.path, own.tempPath] at named
    rw [Store.exists?, named, Option.isSome_some]

private theorem KeepsNames.free
    {fileId : Uuid}
    {before middle : ReceiverState}
    (keeps : KeepsNames fileId before middle)
    {path : Path}
    (free : middle.store.exists? path = false) :
    before.store.exists? path = false := by
  by_cases isOwn : path = before.receiver.partialPath fileId
  · subst path
    rw [keeps.own] at free
    cases free
  · rw [Store.exists?, ← keeps.others path isOwn]
    exact free

/-- The last resort of `unique_path` stays free through such a phase. -/
private theorem KeepsNames.fallback
    {fileId : Uuid}
    {before middle : ReceiverState}
    (keeps : KeepsNames fileId before middle)
    {name : String}
    {random : Uuid}
    (isName : IsFileName name)
    (free :
      before.store.exists?
        (before.receiver.saveDir.join (fallbackName name random)) =
        false) :
    middle.store.exists?
        (before.receiver.saveDir.join (fallbackName name random)) =
      false := by
  have notOwn :
      before.receiver.saveDir.join (fallbackName name random) ≠
        before.receiver.partialPath fileId := by
    intro same
    exact fallbackName_ne_partialName name random fileId
      (Path.join_injective (isFileName_fallbackName isName random)
        (isFileName_partialName fileId) same)
  rw [Store.exists?, keeps.others _ notOwn]
  exact free

private theorem Finishes.after
    {codec : Codec}
    {random fileId : Uuid}
    {expected : String}
    {before middle : ReceiverState}
    {after : Received}
    (finishes : Finishes codec random fileId expected middle after)
    (evolves : Evolves fileId before middle)
    (keeps : KeepsNames fileId before middle) :
    Finishes codec random fileId expected before after where
  evolves := evolves.trans finishes.evolves
  kept := finishes.kept
  pending := finishes.pending
  saved := by
    intro path completed
    have saved := finishes.saved path completed
    refine ⟨?_, ?_, saved.content⟩
    · rw [← evolves.saveDir]
      exact saved.child
    · intro fresh
      refine keeps.free (saved.free ?_)
      intro name isName
      rw [evolves.saveDir]
      exact keeps.fallback isName (fresh name isName)
  noPanic := finishes.noPanic

private theorem Finishes.fail
    {codec : Codec}
    {random fileId : Uuid}
    {expected : String}
    {before after : ReceiverState}
    (evolves : Evolves fileId before after)
    (kept :
      ∀ transfer,
        after.receiver.transfers.lookup fileId = some transfer →
        transfer.expectedSha256 = expected)
    (message : String) :
    Finishes codec random fileId expected before
      (after.fail message) where
  evolves := evolves
  kept := kept
  pending := by
    intro completed
    cases completed
  saved := by
    intro path completed
    cases completed
  noPanic := by
    intro panicked
    cases panicked

/-- The path that a completed transfer is saved at. -/
private theorem saved_place
    (state : ReceiverState)
    {transfer : Transfer}
    (isName : IsFileName transfer.name)
    (random : Uuid) :
    ∃ chosen,
      IsFileName chosen ∧
        uniquePath state.store.exists? state.receiver.saveDir
            transfer.name random =
          state.receiver.saveDir.join chosen ∧
        (state.store.exists? (state.receiver.saveDir.join chosen) =
            false ∨
          chosen = fallbackName transfer.name random) :=
  uniquePath_eq _ _ isName random

/-- A completed transfer is never saved over a partial file in progress. -/
theorem saved_place_ne_partialPath
    {state : ReceiverState}
    (sound : state.Sound)
    {name : String}
    (isName : IsFileName name)
    (random : Uuid)
    {other : Uuid}
    {transfer : Transfer}
    (found : state.receiver.transfers.lookup other = some transfer) :
    transfer.file.path ≠
      uniquePath state.store.exists? state.receiver.saveDir name
        random := by
  have own := sound other transfer found
  obtain ⟨chosen, isFile, place, reason⟩ :=
    uniquePath_eq state.store.exists? state.receiver.saveDir isName random
  intro same
  have isPartial :
      state.receiver.partialPath other =
        state.receiver.saveDir.join chosen := by
    rw [← own.tempPath, ← own.path, same, place]
  rcases reason with free | fallback
  · have named : state.store.exists? transfer.file.path = true := by
      rw [Store.exists?, own.refers, Option.isSome_some]
    rw [own.path, own.tempPath, isPartial, free] at named
    cases named
  · subst chosen
    exact fallbackName_ne_partialName name random other
      (Path.join_injective isFile (isFileName_partialName other)
        isPartial.symm)

section LastPhase

variable
  {codec : Codec}
  {io : IoAnswers}
  {state : ReceiverState}
  {fileId : Uuid}
  {transfer : Transfer}

/-- A transfer that is dropped has no entry left. -/
private theorem kept_dropTransfer
    {expected : String}
    (other : Transfer)
    (found :
      (state.receiver.dropTransfer fileId).transfers.lookup fileId =
        some other) :
    other.expectedSha256 = expected := by
  simp [FileReceiver.dropTransfer] at found

/-- A verified file that is moved to its place finishes. -/
private theorem finishes_saved
    (sound : state.Sound)
    (own : state.TransferSound fileId transfer)
    {content : List UInt8}
    (readBack : state.store.read transfer.tempPath = some content)
    (verified : codec.fingerprint content = transfer.expectedSha256) :
    Finishes codec io.random fileId transfer.expectedSha256 state
      { result :=
          .ok
            (some
              (uniquePath state.store.exists? state.receiver.saveDir
                transfer.name io.random))
        state :=
          { receiver := state.receiver.dropTransfer fileId
            store :=
              state.store.rename transfer.tempPath
                (uniquePath state.store.exists? state.receiver.saveDir
                  transfer.name io.random) } } := by
  obtain ⟨chosen, isFile, place, reason⟩ :=
    saved_place state own.name io.random
  refine
    { evolves := ?_
      kept := kept_dropTransfer
      pending := ?_
      saved := ?_
      noPanic := ?_ }
  · refine evolves_dropTransfer sound (Store.data_rename _ _ _) ?_ ?_
    · intro other otherTransfer different lookup
      refine Store.names_rename_other _ ?_
        (saved_place_ne_partialPath sound own.name io.random lookup)
      rw [own.tempPath]
      exact (sound other otherTransfer lookup).path_ne different
    · intro path member
      refine (Store.touched_rename _ _ _ _ member).imp id ?_
      intro isTarget
      rw [isTarget, place]
      exact Path.directChild_join _ isFile
  · intro pending
    cases pending
  · intro path completed
    have isPlace :
        uniquePath state.store.exists? state.receiver.saveDir
          transfer.name io.random = path := by
      simpa using completed
    rw [isPlace]
    refine ⟨⟨chosen, isFile, isPlace.symm.trans place⟩, ?_,
      content, Store.read_rename_target readBack, verified⟩
    intro fresh
    rw [← isPlace, place]
    rcases reason with free | fallback
    · exact free
    · rw [fallback]
      exact fresh transfer.name own.name
  · intro panicked
    cases panicked

/-- A file that does not verify finishes, whether or not it is removed. -/
private theorem finishes_mismatched
    (sound : state.Sound)
    (own : state.TransferSound fileId transfer)
    (message : String) :
    Finishes codec io.random fileId transfer.expectedSha256 state
      (fail
        { receiver := state.receiver.dropTransfer fileId
          store :=
            if io.remove.isNone then
              state.store.remove transfer.tempPath
            else
              state.store }
        message) := by
  refine .fail ?_ kept_dropTransfer message
  refine evolves_dropTransfer sound ?_ ?_ ?_
  · split <;> simp
  · intro other otherTransfer different lookup
    split
    · refine Store.names_remove_other _ ?_
      rw [own.tempPath]
      exact (sound other otherTransfer lookup).path_ne different
    · rfl
  · intro path member
    split at member
    · exact .inl (by simpa using member)
    · exact .inl member

/-- The last phase finishes: it fails, or it saves a verified file. -/
theorem completeTransfer_finishes
    (codec : Codec)
    (io : IoAnswers)
    (sound : state.Sound)
    (found : state.receiver.transfers.lookup fileId = some transfer) :
    Finishes codec io.random fileId transfer.expectedSha256 state
      (completeTransfer codec io state fileId transfer) := by
  have own := sound fileId transfer found
  have unchanged (message : String) :
      Finishes codec io.random fileId transfer.expectedSha256 state
        (state.fail message) := by
    refine .fail (.refl sound) ?_ message
    intro other lookup
    rw [found, Option.some.injEq] at lookup
    rw [lookup]
  unfold completeTransfer
  split
  · exact unchanged _
  · exact unchanged _
  · exact unchanged _
  · rename_i content synced hashed readBack
    split
    · rename_i verified
      dsimp only
      split
      · exact unchanged _
      · exact finishes_saved sound own readBack verified
    · exact finishes_mismatched sound own _

end LastPhase

/-- A written chunk evolves the state. -/
theorem evolves_writtenChunk
    {state : ReceiverState}
    {transfer : Transfer}
    {chunk : FileChunkFrame}
    (sound : state.Sound)
    (found :
      state.receiver.transfers.lookup chunk.fileId = some transfer)
    (bytes : List UInt8) :
    Evolves chunk.fileId state
      (writtenChunk state transfer chunk bytes) := by
  have own := sound chunk.fileId transfer found
  have written :=
    evolves_setContent chunk.fileId sound own.refers
      (own.path.trans own.tempPath)
      (overwrite (state.store.data transfer.file.inode)
        (chunkOffset chunk) bytes)
  have marked :
      TransferSound
        { state with
          store :=
            state.store.writeAt transfer.file (chunkOffset chunk) bytes }
        chunk.fileId (transfer.mark chunk.chunkIndex.toNat) :=
    { tempPath := own.tempPath
      path := own.path
      refers := own.refers
      length := by
        rw [Transfer.mark, List.length_set]
        exact own.length
      name := own.name }
  exact written.trans
    (evolves_setTransfer
      (fun other found _ lookup => written.sound other found lookup)
      marked)

/-- A written chunk leaves the names of the store alone. -/
private theorem keepsNames_writtenChunk
    {state : ReceiverState}
    {transfer : Transfer}
    {chunk : FileChunkFrame}
    (own : state.TransferSound chunk.fileId transfer)
    (bytes : List UInt8) :
    KeepsNames chunk.fileId state
      (writtenChunk state transfer chunk bytes) where
  others := fun _ _ => rfl
  own := (keepsNames_self own).own

/-- The entry of a transfer after one of its chunks is written. -/
theorem lookup_writtenChunk
    (state : ReceiverState)
    (transfer : Transfer)
    (chunk : FileChunkFrame)
    (bytes : List UInt8) :
    (writtenChunk state transfer chunk bytes).receiver.transfers.lookup
        chunk.fileId =
      some (transfer.mark chunk.chunkIndex.toNat) :=
  AList.lookup_insert _

/-- Writing a chunk that has not been received yet finishes. -/
theorem writeChunk_finishes
    (codec : Codec)
    (io : IoAnswers)
    {state : ReceiverState}
    {transfer : Transfer}
    {chunk : FileChunkFrame}
    {bytes : List UInt8}
    (sound : state.Sound)
    (found :
      state.receiver.transfers.lookup chunk.fileId = some transfer) :
    Finishes codec io.random chunk.fileId transfer.expectedSha256 state
      (writeChunk codec io state transfer chunk bytes) := by
  have own := sound chunk.fileId transfer found
  have same
      (other : Transfer)
      (lookup :
        state.receiver.transfers.lookup chunk.fileId = some other) :
      other.expectedSha256 = transfer.expectedSha256 := by
    rw [found, Option.some.injEq] at lookup
    rw [lookup]
  have evolves := evolves_writtenChunk sound found bytes
  have recorded := lookup_writtenChunk state transfer chunk bytes
  simp only [writeChunk]
  split
  · exact .fail (.refl sound) same _
  · exact .fail
      (evolves_setContent chunk.fileId sound own.refers
        (own.path.trans own.tempPath) _) same _
  · split_ifs with complete
    · have finishes :=
        completeTransfer_finishes codec io evolves.sound recorded
      exact finishes.after evolves (keepsNames_writtenChunk own bytes)
    · refine ⟨evolves, ?_, ?_, ?_, ?_⟩
      · intro other lookup
        rw [recorded, Option.some.injEq] at lookup
        rw [← lookup, Transfer.mark]
      · intro _
        rw [recorded, Option.isSome_some]
      · intro other completed
        cases completed
      · intro panicked
        cases panicked

/-- Checking a chunk against its transfer finishes. -/
theorem acceptChunk_finishes
    (codec : Codec)
    (io : IoAnswers)
    {state : ReceiverState}
    {transfer : Transfer}
    {chunk : FileChunkFrame}
    (bytes : List UInt8)
    (sound : state.Sound)
    (found :
      state.receiver.transfers.lookup chunk.fileId = some transfer)
    (inRange : chunk.chunkIndex < chunk.totalChunks) :
    Finishes codec io.random chunk.fileId transfer.expectedSha256 state
      (acceptChunk codec io state transfer chunk bytes) := by
  have own := sound chunk.fileId transfer found
  have same
      (other : Transfer)
      (lookup :
        state.receiver.transfers.lookup chunk.fileId = some other) :
      other.expectedSha256 = transfer.expectedSha256 := by
    rw [found, Option.some.injEq] at lookup
    rw [lookup]
  unfold acceptChunk
  split_ifs with metadata
  · split
    · rename_i outOfBounds
      have bound : chunk.chunkIndex.toNat < transfer.received.length := by
        rw [own.length, ← metadata.1]
        exact inRange
      rw [List.getElem?_eq_none_iff] at outOfBounds
      omega
    · refine ⟨.refl sound, same, ?_, ?_, ?_⟩
      · intro _
        rw [found, Option.isSome_some]
      · intro other completed
        cases completed
      · intro panicked
        cases panicked
    · exact writeChunk_finishes codec io sound found
  · exact .fail (.refl sound) same _

/-- A chunk that goes through agrees with the hash of its transfer. -/
theorem sha256_of_acceptChunk
    {codec : Codec}
    {io : IoAnswers}
    {state : ReceiverState}
    {transfer : Transfer}
    {chunk : FileChunkFrame}
    {bytes : List UInt8}
    {saved? : Option Path}
    (accepted :
      (acceptChunk codec io state transfer chunk bytes).result =
        .ok saved?) :
    transfer.expectedSha256 = chunk.fileSha256 := by
  unfold acceptChunk at accepted
  split_ifs at accepted with metadata
  · exact metadata.2.1.symm
  · cases accepted

/-- Opening a transfer only adds its partial file to the names. -/
theorem keepsNames_opened
    (state : ReceiverState)
    (chunk : FileChunkFrame) :
    KeepsNames chunk.fileId state (state.opened chunk) where
  others := by
    intro path different
    exact Store.names_openTruncate_other _ different
  own := by
    have named :=
      state.store.refers_openTruncate
        (state.receiver.partialPath chunk.fileId)
    rw [Store.Refers, Store.path_openTruncate] at named
    simp only [Store.exists?, opened, Store.setLen,
      Store.names_setContent, named, Option.isSome_some]

/-- What one call of `receive_chunk` may do. -/
structure Receives
    (codec : Codec)
    (random : Uuid)
    (chunk : FileChunkFrame)
    (before : ReceiverState)
    (after : Received) : Prop where
  evolves : Evolves chunk.fileId before after.state
  kept :
    ∀ transfer later,
      before.receiver.transfers.lookup chunk.fileId = some transfer →
      after.state.receiver.transfers.lookup chunk.fileId = some later →
      later.expectedSha256 = transfer.expectedSha256
  agrees :
    ∀ saved? transfer,
      after.result = .ok saved? →
      before.receiver.transfers.lookup chunk.fileId = some transfer →
      transfer.expectedSha256 = chunk.fileSha256
  pending :
    after.result = .ok none →
    ∃ later,
      after.state.receiver.transfers.lookup chunk.fileId = some later ∧
        later.expectedSha256 = chunk.fileSha256
  saved :
    ∀ path,
      after.result = .ok (some path) →
      Saved codec random chunk.fileSha256 before after.state path
  noPanic : after.result ≠ .error .panic

private theorem Receives.fail
    {codec : Codec}
    {random : Uuid}
    {chunk : FileChunkFrame}
    {before after : ReceiverState}
    (evolves : Evolves chunk.fileId before after)
    (unchanged :
      after.receiver.transfers.lookup chunk.fileId =
        before.receiver.transfers.lookup chunk.fileId)
    (message : String) :
    Receives codec random chunk before (after.fail message) where
  evolves := evolves
  kept := by
    intro transfer later found foundLater
    have same :
        before.receiver.transfers.lookup chunk.fileId = some later :=
      unchanged.symm.trans foundLater
    rw [found, Option.some.injEq] at same
    rw [same]
  agrees := by
    intro saved? transfer completed
    cases completed
  pending := by
    intro completed
    cases completed
  saved := by
    intro path completed
    cases completed
  noPanic := by
    intro panicked
    cases panicked

/-- A call that has found its transfer. -/
private theorem receives_acceptChunk
    {codec : Codec}
    {io : IoAnswers}
    {chunk : FileChunkFrame}
    {before middle : ReceiverState}
    {transfer : Transfer}
    {bytes : List UInt8}
    (evolves : Evolves chunk.fileId before middle)
    (keeps : KeepsNames chunk.fileId before middle)
    (found :
      middle.receiver.transfers.lookup chunk.fileId = some transfer)
    (same :
      ∀ earlier,
        before.receiver.transfers.lookup chunk.fileId = some earlier →
        earlier = transfer)
    (inRange : chunk.chunkIndex < chunk.totalChunks) :
    Receives codec io.random chunk before
      (acceptChunk codec io middle transfer chunk bytes) := by
  have finishes :=
    (acceptChunk_finishes codec io bytes evolves.sound found
      inRange).after evolves keeps
  refine ⟨finishes.evolves, ?_, ?_, ?_, ?_, finishes.noPanic⟩
  · intro earlier later foundEarlier foundLater
    rw [same earlier foundEarlier]
    exact finishes.kept later foundLater
  · intro saved? earlier accepted foundEarlier
    rw [same earlier foundEarlier]
    exact sha256_of_acceptChunk accepted
  · intro accepted
    obtain ⟨later, foundLater⟩ :=
      Option.isSome_iff_exists.mp (finishes.pending accepted)
    exact ⟨later, foundLater,
      (finishes.kept later foundLater).trans
        (sha256_of_acceptChunk accepted)⟩
  · intro path accepted
    have saved := finishes.saved path accepted
    rw [sha256_of_acceptChunk accepted] at saved
    exact saved

/-- Every call of `receive_chunk`, whatever the chunk and the answers. -/
theorem receives_receiveChunk
    (codec : Codec)
    (io : IoAnswers)
    {state : ReceiverState}
    (sound : state.Sound)
    (chunk : FileChunkFrame) :
    Receives codec io.random chunk state
      (receiveChunk codec io state chunk) := by
  unfold receiveChunk
  cases validated : chunk.validate with
  | error reason =>
      exact .fail (.refl sound) rfl _
  | ok =>
      have inRange : chunk.chunkIndex < chunk.totalChunks :=
        (FileChunkFrame.validate_eq_ok.mp validated).2.2.2.1
      cases codec.decode chunk.payloadB64 with
      | error reason =>
          exact .fail (.refl sound) rfl _
      | ok bytes =>
          cases found :
              state.receiver.transfers.lookup chunk.fileId with
          | some transfer =>
              have keeps := keepsNames_self (sound _ _ found)
              simp only [openTransfer_of_isSome io found, found]
              refine receives_acceptChunk (.refl sound) keeps found ?_
                inRange
              intro earlier foundEarlier
              rw [found, Option.some.injEq] at foundEarlier
              exact foundEarlier.symm
          | none =>
              have absent
                  (earlier : Transfer)
                  (foundEarlier :
                    state.receiver.transfers.lookup chunk.fileId =
                      some earlier) :
                  earlier = state.openedTransfer chunk := by
                rw [found] at foundEarlier
                cases foundEarlier
              have recorded :
                  (state.opened chunk).receiver.transfers.lookup
                      chunk.fileId =
                    some (state.openedTransfer chunk) :=
                AList.lookup_insert _
              rcases openTransfer_cases io found with
                ⟨message, failed⟩ | ⟨message, failed⟩ | opens
              · simp only [failed]
                exact .fail (.refl sound) rfl _
              · simp only [failed]
                exact .fail (evolves_openTruncate sound found) rfl _
              · simp only [opens, recorded]
                exact receives_acceptChunk (evolves_opened sound found)
                  (keepsNames_opened state chunk) recorded absent inRange

end ReceiverState

end ClipboardWire
