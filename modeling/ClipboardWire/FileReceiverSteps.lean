import ClipboardWire.FileConfinement

namespace ClipboardWire

open FileStore

/-!
# The ways in which a call of the receiver ends

`receive_chunk` returns early in many places.  Every call from a sound state
ends in one of the ways listed here, each with the checks that it has passed
and the state that it leaves.  What a call does is said in terms of the state
before it: the transfer that its chunk belongs to may only be opened by it.
-/

namespace ReceiverState

/-- The transfer of a chunk: the one in progress, or the one it opens. -/
def transferOf (state : ReceiverState) (chunk : FileChunkFrame) : Transfer :=
  (state.receiver.transfers.lookup chunk.fileId).getD
    (state.openedTransfer chunk)

/-- The state in which the transfer of a chunk is in progress. -/
def arrived (state : ReceiverState) (chunk : FileChunkFrame) : ReceiverState :=
  match state.receiver.transfers.lookup chunk.fileId with
  | some _ => state
  | none => state.opened chunk

/-- The partial file of a transfer that has not been entered in the map. -/
def leftover (state : ReceiverState) (chunk : FileChunkFrame) : ReceiverState :=
  { state with
    store :=
      (state.store.openTruncate
        (state.receiver.partialPath chunk.fileId)).2 }

/-- The content of the partial file with a chunk written to its place. -/
def contentWith
    (state : ReceiverState)
    (chunk : FileChunkFrame)
    (bytes : List UInt8) :
    List UInt8 :=
  overwrite
    ((state.arrived chunk).store.data (state.transferOf chunk).file.inode)
    (chunkOffset chunk) bytes

/-- The state once a chunk has been written and marked. -/
def written
    (state : ReceiverState)
    (chunk : FileChunkFrame)
    (bytes : List UInt8) :
    ReceiverState :=
  writtenChunk (state.arrived chunk) (state.transferOf chunk) chunk bytes

/-- The transfer of a chunk that has been written. -/
def markedTransfer
    (state : ReceiverState)
    (chunk : FileChunkFrame) :
    Transfer :=
  (state.transferOf chunk).mark chunk.chunkIndex.toNat

/-- Where the file of a completed transfer is moved. -/
def place
    (state : ReceiverState)
    (random : Uuid)
    (chunk : FileChunkFrame)
    (bytes : List UInt8) :
    Path :=
  uniquePath (state.written chunk bytes).store.exists? state.receiver.saveDir
    (state.transferOf chunk).name random

/-- A chunk passes its own checks, and its transfer is or gets opened. -/
structure Arrives
    (codec : Codec)
    (io : IoAnswers)
    (state : ReceiverState)
    (chunk : FileChunkFrame)
    (bytes : List UInt8) : Prop where
  valid : chunk.validate = .ok ()
  decoded : codec.decode chunk.payloadB64 = .ok bytes
  opened :
    state.receiver.transfers.lookup chunk.fileId = none →
      io.openFile = none ∧ io.setLen = none

/-- A chunk arrives that its transfer expects and has not received. -/
structure Wanted
    (codec : Codec)
    (io : IoAnswers)
    (state : ReceiverState)
    (chunk : FileChunkFrame)
    (bytes : List UInt8) : Prop where
  arrives : Arrives codec io state chunk bytes
  same : SameMetadata (state.transferOf chunk) chunk
  missing :
    (state.transferOf chunk).received[chunk.chunkIndex.toNat]? = some false

/-- A chunk is written to its place. -/
structure Writes
    (codec : Codec)
    (io : IoAnswers)
    (state : ReceiverState)
    (chunk : FileChunkFrame)
    (bytes : List UInt8) : Prop where
  wanted : Wanted codec io state chunk bytes
  seek : io.seek = none
  write : io.write = none

/-- A chunk is written that completes its transfer. -/
structure Completes
    (codec : Codec)
    (io : IoAnswers)
    (state : ReceiverState)
    (chunk : FileChunkFrame)
    (bytes : List UInt8) : Prop where
  writes : Writes codec io state chunk bytes
  last : (state.markedTransfer chunk).received.all id = true

/-- The assembled content has the hash that was announced. -/
def Matches
    (codec : Codec)
    (state : ReceiverState)
    (chunk : FileChunkFrame)
    (bytes : List UInt8) :
    Prop :=
  codec.fingerprint (state.contentWith chunk bytes) =
    (state.transferOf chunk).expectedSha256

/-- A call completes a transfer and every system call succeeds. -/
structure Delivers
    (codec : Codec)
    (io : IoAnswers)
    (state : ReceiverState)
    (chunk : FileChunkFrame)
    (bytes : List UInt8) : Prop where
  completes : Completes codec io state chunk bytes
  synced : io.syncAll = none
  hashed : io.hash = none
  same : state.Matches codec chunk bytes
  renamed : io.rename = none

/-- The ways in which a call ends that has written the last chunk. -/
inductive Finished
    (codec : Codec)
    (io : IoAnswers)
    (state : ReceiverState)
    (chunk : FileChunkFrame)
    (bytes : List UInt8) :
    Received → Prop where
  | notHashed {message : String}
      (failed : ¬ (io.syncAll = none ∧ io.hash = none)) :
      Finished codec io state chunk bytes
        ((state.written chunk bytes).fail message)
  | mismatched {message : String}
      (synced : io.syncAll = none)
      (hashed : io.hash = none)
      (differs : ¬ state.Matches codec chunk bytes) :
      Finished codec io state chunk bytes
        (fail
          { receiver :=
              (state.written chunk bytes).receiver.dropTransfer chunk.fileId
            store :=
              if io.remove.isNone then
                (state.written chunk bytes).store.remove
                  (state.transferOf chunk).tempPath
              else
                (state.written chunk bytes).store }
          message)
  | notRenamed {message : String}
      (synced : io.syncAll = none)
      (hashed : io.hash = none)
      (same : state.Matches codec chunk bytes)
      (failed : io.rename ≠ none) :
      Finished codec io state chunk bytes
        ((state.written chunk bytes).fail message)
  | saved
      (synced : io.syncAll = none)
      (hashed : io.hash = none)
      (same : state.Matches codec chunk bytes)
      (renamed : io.rename = none) :
      Finished codec io state chunk bytes
        { result := .ok (some (state.place io.random chunk bytes))
          state :=
            { receiver :=
                (state.written chunk bytes).receiver.dropTransfer
                  chunk.fileId
              store :=
                (state.written chunk bytes).store.rename
                  (state.transferOf chunk).tempPath
                  (state.place io.random chunk bytes) } }

/-- The ways in which a call ends. -/
inductive Ends
    (codec : Codec)
    (io : IoAnswers)
    (state : ReceiverState)
    (chunk : FileChunkFrame) :
    Received → Prop where
  | rejected {message : String}
      (problem :
        (∃ reason, chunk.validate = .error reason) ∨
          (∃ reason, codec.decode chunk.payloadB64 = .error reason) ∨
          state.receiver.transfers.lookup chunk.fileId = none ∧
            io.openFile ≠ none) :
      Ends codec io state chunk (state.fail message)
  | notSized {bytes : List UInt8} {message : String}
      (valid : chunk.validate = .ok ())
      (decoded : codec.decode chunk.payloadB64 = .ok bytes)
      (new : state.receiver.transfers.lookup chunk.fileId = none)
      (created : io.openFile = none)
      (failed : io.setLen ≠ none) :
      Ends codec io state chunk ((state.leftover chunk).fail message)
  | inconsistent {bytes : List UInt8} {message : String}
      (arrives : Arrives codec io state chunk bytes)
      (differs : ¬ SameMetadata (state.transferOf chunk) chunk) :
      Ends codec io state chunk ((state.arrived chunk).fail message)
  | duplicate {bytes : List UInt8}
      (arrives : Arrives codec io state chunk bytes)
      (same : SameMetadata (state.transferOf chunk) chunk)
      (received :
        (state.transferOf chunk).received[chunk.chunkIndex.toNat]? =
          some true) :
      Ends codec io state chunk ⟨.ok none, state.arrived chunk⟩
  | notSought {bytes : List UInt8} {message : String}
      (wanted : Wanted codec io state chunk bytes)
      (failed : io.seek ≠ none) :
      Ends codec io state chunk ((state.arrived chunk).fail message)
  | notWritten {bytes : List UInt8} {count : Nat} {message : String}
      (wanted : Wanted codec io state chunk bytes)
      (sought : io.seek = none)
      (failed : io.write = some (count, message)) :
      Ends codec io state chunk
        (fail
          { state.arrived chunk with
            store :=
              (state.arrived chunk).store.writeAt
                (state.transferOf chunk).file (chunkOffset chunk)
                (bytes.take count) }
          message)
  | pending {bytes : List UInt8}
      (writes : Writes codec io state chunk bytes)
      (more : ¬ (state.markedTransfer chunk).received.all id = true) :
      Ends codec io state chunk ⟨.ok none, state.written chunk bytes⟩
  | finished {bytes : List UInt8} {received : Received}
      (completes : Completes codec io state chunk bytes)
      (ending : Finished codec io state chunk bytes received) :
      Ends codec io state chunk received

variable {codec : Codec} {io : IoAnswers} {state : ReceiverState}
  {chunk : FileChunkFrame} {bytes : List UInt8}

@[simp] theorem saveDir_arrived
    (state : ReceiverState)
    (chunk : FileChunkFrame) :
    (state.arrived chunk).receiver.saveDir = state.receiver.saveDir := by
  unfold arrived
  split <;> rfl

/-- Once it is open, the transfer of a chunk is in the map. -/
theorem lookup_arrived (state : ReceiverState) (chunk : FileChunkFrame) :
    (state.arrived chunk).receiver.transfers.lookup chunk.fileId =
      some (state.transferOf chunk) := by
  unfold arrived transferOf
  cases found : state.receiver.transfers.lookup chunk.fileId with
  | some transfer =>
      simpa using found
  | none =>
      exact AList.lookup_insert _

/-- Opening the transfer of a chunk evolves the state. -/
theorem evolves_arrived (sound : state.Sound) (chunk : FileChunkFrame) :
    Evolves chunk.fileId state (state.arrived chunk) := by
  unfold arrived
  cases found : state.receiver.transfers.lookup chunk.fileId with
  | some transfer =>
      exact .refl sound
  | none =>
      exact evolves_opened sound found

/-- The transfer of a chunk is sound once it is open. -/
theorem transferSound_arrived (sound : state.Sound) (chunk : FileChunkFrame) :
    (state.arrived chunk).TransferSound chunk.fileId
      (state.transferOf chunk) :=
  (evolves_arrived sound chunk).sound _ _ (lookup_arrived state chunk)

/-- The transfer of a chunk has its own partial file. -/
theorem tempPath_transferOf (sound : state.Sound) (chunk : FileChunkFrame) :
    (state.transferOf chunk).tempPath =
      state.receiver.partialPath chunk.fileId := by
  have own := (transferSound_arrived sound chunk).tempPath
  exact own.trans (partialPath_congr (saveDir_arrived state chunk) _)

/-- Opening the transfer of a chunk only adds its partial file. -/
theorem keepsNames_arrived (sound : state.Sound) (chunk : FileChunkFrame) :
    KeepsNames chunk.fileId state (state.arrived chunk) := by
  unfold arrived
  cases found : state.receiver.transfers.lookup chunk.fileId with
  | some transfer =>
      exact keepsNames_self (sound _ _ found)
  | none =>
      exact keepsNames_opened state chunk

/-- Writing a chunk evolves the state. -/
theorem evolves_written
    (sound : state.Sound)
    (chunk : FileChunkFrame)
    (bytes : List UInt8) :
    Evolves chunk.fileId state (state.written chunk bytes) := by
  have opened := evolves_arrived sound chunk
  exact opened.trans
    (evolves_writtenChunk opened.sound (lookup_arrived state chunk) bytes)

/-- The entry of a transfer once its chunk has been written. -/
theorem lookup_written
    (state : ReceiverState)
    (chunk : FileChunkFrame)
    (bytes : List UInt8) :
    (state.written chunk bytes).receiver.transfers.lookup chunk.fileId =
      some (state.markedTransfer chunk) :=
  lookup_writtenChunk (state.arrived chunk) (state.transferOf chunk) chunk bytes

/-- Writing a chunk only adds the partial file of its transfer. -/
theorem keepsNames_written
    (sound : state.Sound)
    (chunk : FileChunkFrame)
    (bytes : List UInt8) :
    KeepsNames chunk.fileId state (state.written chunk bytes) where
  others := (keepsNames_arrived sound chunk).others
  own := (keepsNames_arrived sound chunk).own

/-- The content of the partial file is read back after the write. -/
theorem read_written
    (sound : state.Sound)
    (chunk : FileChunkFrame)
    (bytes : List UInt8) :
    (state.written chunk bytes).store.read (state.transferOf chunk).tempPath =
      some (state.contentWith chunk bytes) := by
  have own := transferSound_arrived sound chunk
  have refers :
      (state.written chunk bytes).store.Refers (state.transferOf chunk).file :=
    own.refers
  rw [← own.path, refers.read]
  simp [written, writtenChunk, Store.writeAt, contentWith]

/-- Completing a transfer finishes in one of these ways. -/
private theorem finished_completeTransfer
    (sound : state.Sound)
    (chunk : FileChunkFrame)
    (bytes : List UInt8) :
    Finished codec io state chunk bytes
      (completeTransfer codec io (state.written chunk bytes) chunk.fileId
        (state.markedTransfer chunk)) := by
  have content := read_written sound chunk bytes
  have saveDir :
      (state.written chunk bytes).receiver.saveDir = state.receiver.saveDir :=
    saveDir_arrived state chunk
  unfold completeTransfer
  split
  · rename_i failed
    exact .notHashed (by simp [failed])
  · rename_i failed
    exact .notHashed (by simp [failed])
  · rename_i missing
    simp only [markedTransfer, Transfer.mark, content] at missing
    cases missing
  · rename_i found synced hashed isContent
    simp only [markedTransfer, Transfer.mark, content,
      Option.some.injEq] at isContent
    subst found
    by_cases same :
      codec.fingerprint (state.contentWith chunk bytes) =
        (state.markedTransfer chunk).expectedSha256
    · rw [if_pos same]
      split
      · rename_i failed
        exact .notRenamed synced hashed same (by simp [failed])
      · rename_i renamed
        rw [saveDir]
        exact .saved synced hashed same renamed
    · rw [if_neg same]
      exact .mismatched synced hashed same

/-- Writing a chunk is one of the endings. -/
private theorem ends_writeChunk
    (sound : state.Sound)
    (wanted : Wanted codec io state chunk bytes) :
    Ends codec io state chunk
      (writeChunk codec io (state.arrived chunk) (state.transferOf chunk) chunk
        bytes) := by
  unfold writeChunk
  split
  · rename_i failed
    exact .notSought wanted (by simp [failed])
  · rename_i sought failed
    exact .notWritten wanted sought failed
  · rename_i sought success
    have writes : Writes codec io state chunk bytes :=
      ⟨wanted, sought, success⟩
    dsimp only
    split_ifs with last
    · exact .finished ⟨writes, last⟩
        (finished_completeTransfer sound chunk bytes)
    · exact .pending writes last

/-- Checking a chunk against its transfer is one of the endings. -/
private theorem ends_acceptChunk
    (sound : state.Sound)
    (arrives : Arrives codec io state chunk bytes) :
    Ends codec io state chunk
      (acceptChunk codec io (state.arrived chunk) (state.transferOf chunk) chunk
        bytes) := by
  have own := transferSound_arrived sound chunk
  unfold acceptChunk
  split_ifs with same
  · split
    · rename_i outOfBounds
      have inRange : chunk.chunkIndex < chunk.totalChunks :=
        (FileChunkFrame.validate_eq_ok.mp arrives.valid).2.2.2.1
      have bound :
          chunk.chunkIndex.toNat <
            (state.transferOf chunk).received.length := by
        rw [own.length, ← same.1]
        exact inRange
      rw [List.getElem?_eq_none_iff] at outOfBounds
      omega
    · rename_i received
      exact .duplicate arrives same received
    · rename_i missing
      exact ends_writeChunk sound ⟨arrives, same, missing⟩
  · exact .inconsistent arrives same

/-- Every call from a sound state ends in one of these ways. -/
theorem ends_receiveChunk
    (codec : Codec)
    (io : IoAnswers)
    (sound : state.Sound)
    (chunk : FileChunkFrame) :
    Ends codec io state chunk (receiveChunk codec io state chunk) := by
  unfold receiveChunk
  cases validated : chunk.validate with
  | error reason =>
      exact .rejected (.inl ⟨reason, validated⟩)
  | ok =>
      cases decoded : codec.decode chunk.payloadB64 with
      | error reason =>
          exact .rejected (.inr (.inl ⟨reason, decoded⟩))
      | ok bytes =>
          cases found : state.receiver.transfers.lookup chunk.fileId with
          | some transfer =>
              have arrives : Arrives codec io state chunk bytes :=
                ⟨validated, decoded, by simp [found]⟩
              have accepted := ends_acceptChunk sound arrives
              simpa [openTransfer, arrived, transferOf, found] using accepted
          | none =>
              cases created : io.openFile with
              | some reason =>
                  simp only [openTransfer, found, created, Option.isSome_none,
                    Bool.false_eq_true, if_false]
                  exact .rejected (.inr (.inr ⟨found, by simp [created]⟩))
              | none =>
                  cases sized : io.setLen with
                  | some reason =>
                      simp only [openTransfer, found, created, sized,
                        Option.isSome_none, Bool.false_eq_true, if_false]
                      exact .notSized validated decoded found created
                        (by simp [sized])
                  | none =>
                      have arrives : Arrives codec io state chunk bytes :=
                        ⟨validated, decoded, fun _ => ⟨created, sized⟩⟩
                      have accepted := ends_acceptChunk sound arrives
                      have opens :
                          openTransfer io state chunk =
                            (.ok (), state.opened chunk) := by
                        simp only [openTransfer, found, created, sized,
                          Option.isSome_none, Bool.false_eq_true, if_false]
                        rfl
                      have isArrived :
                          state.arrived chunk = state.opened chunk := by
                        simp [arrived, found]
                      have inMap := lookup_arrived state chunk
                      rw [isArrived] at inMap accepted
                      simpa only [opens, inMap] using accepted

/-- What a chunk carries is what its payload decodes to. -/
theorem Arrives.unique
    {other : List UInt8}
    (first : Arrives codec io state chunk bytes)
    (second : Arrives codec io state chunk other) :
    other = bytes := by
  have same := second.decoded.symm.trans first.decoded
  exact Except.ok.inj same

/-- A chunk that is valid and whose partial file opens is not rejected. -/
theorem not_rejected
    (valid : chunk.validate = .ok ())
    (decoded : codec.decode chunk.payloadB64 = .ok bytes)
    (created :
      state.receiver.transfers.lookup chunk.fileId = none →
        io.openFile = none)
    (problem :
      (∃ reason, chunk.validate = .error reason) ∨
        (∃ reason, codec.decode chunk.payloadB64 = .error reason) ∨
        state.receiver.transfers.lookup chunk.fileId = none ∧
          io.openFile ≠ none) :
    False := by
  rcases problem with
    ⟨reason, invalid⟩ | ⟨reason, undecodable⟩ | ⟨new, failed⟩
  · rw [valid] at invalid
    cases invalid
  · rw [decoded] at undecodable
    cases undecodable
  · exact failed (created new)

/-- A call with a chunk that its transfer wants gets as far as the write. -/
theorem Ends.of_wanted
    {received : Received}
    (wanted : Wanted codec io state chunk bytes)
    (ends : Ends codec io state chunk received) :
    io.seek ≠ none ∨ io.write ≠ none ∨
      ¬ (state.markedTransfer chunk).received.all id = true ∧
        received = ⟨.ok none, state.written chunk bytes⟩ ∨
      (state.markedTransfer chunk).received.all id = true ∧
        Finished codec io state chunk bytes received := by
  have arrives := wanted.arrives
  cases ends with
  | rejected problem =>
      exact (not_rejected arrives.valid arrives.decoded
        (fun new => (arrives.opened new).1) problem).elim
  | notSized valid decoded new created failed =>
      exact (failed (arrives.opened new).2).elim
  | inconsistent other differs =>
      exact (differs wanted.same).elim
  | duplicate other same received =>
      rw [wanted.missing] at received
      cases received
  | notSought other failed =>
      exact .inl failed
  | notWritten other sought failed =>
      exact .inr (.inl (by simp [failed]))
  | pending writes more =>
      rw [arrives.unique writes.wanted.arrives]
      exact .inr (.inr (.inl ⟨more, rfl⟩))
  | finished completes ending =>
      rw [arrives.unique completes.writes.wanted.arrives] at ending
      exact .inr (.inr (.inr ⟨completes.last, ending⟩))

/-- A call that writes the last chunk finishes. -/
theorem Ends.of_completes
    {received : Received}
    (completes : Completes codec io state chunk bytes)
    (ends : Ends codec io state chunk received) :
    Finished codec io state chunk bytes received := by
  rcases ends.of_wanted completes.writes.wanted with
    failed | failed | ⟨more, -⟩ | ⟨-, ending⟩
  · exact (failed completes.writes.seek).elim
  · exact (failed completes.writes.write).elim
  · exact (more completes.last).elim
  · exact ending

/-- A call in which every system call succeeds saves the file. -/
theorem Ends.of_delivers
    {received : Received}
    (delivers : Delivers codec io state chunk bytes)
    (ends : Ends codec io state chunk received) :
    received =
      { result := .ok (some (state.place io.random chunk bytes))
        state :=
          { receiver :=
              (state.written chunk bytes).receiver.dropTransfer chunk.fileId
            store :=
              (state.written chunk bytes).store.rename
                (state.transferOf chunk).tempPath
                (state.place io.random chunk bytes) } } := by
  cases ends.of_completes delivers.completes with
  | notHashed failed =>
      exact (failed ⟨delivers.synced, delivers.hashed⟩).elim
  | mismatched synced hashed differs =>
      exact (differs delivers.same).elim
  | notRenamed synced hashed same failed =>
      exact (failed delivers.renamed).elim
  | saved synced hashed same renamed =>
      rfl

/-- A call that reports a path has delivered the file there. -/
theorem Ends.exists_delivers
    {received : Received}
    {path : Path}
    (success : received.result = .ok (some path))
    (ends : Ends codec io state chunk received) :
    ∃ bytes, Delivers codec io state chunk bytes := by
  cases ends with
  | @finished bytes received completes ending =>
      cases ending with
      | saved synced hashed same renamed =>
          exact ⟨bytes, completes, synced, hashed, same, renamed⟩
      | _ => cases success
  | _ => cases success

/-- A call that succeeds ignores its chunk, writes it or delivers the file. -/
theorem Ends.of_success
    {received : Received}
    {path : Option Path}
    (success : received.result = .ok path)
    (ends : Ends codec io state chunk received) :
    (state.transferOf chunk).received[chunk.chunkIndex.toNat]? = some true ∨
      ∃ bytes,
        Writes codec io state chunk bytes ∧
          (received = ⟨.ok none, state.written chunk bytes⟩ ∨
            Delivers codec io state chunk bytes) := by
  cases path with
  | some path =>
      obtain ⟨bytes, delivers⟩ := ends.exists_delivers success
      exact .inr ⟨bytes, delivers.completes.writes, .inr delivers⟩
  | none =>
      cases ends with
      | duplicate arrives same isMarked =>
          exact .inl isMarked
      | @pending bytes writes more =>
          exact .inr ⟨bytes, writes, .inl rfl⟩
      | finished completes ending =>
          cases ending <;> cases success
      | _ => cases success

end ReceiverState

end ClipboardWire
