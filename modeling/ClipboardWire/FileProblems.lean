import ClipboardWire.FileReceiverSteps

namespace ClipboardWire

open FileStore

/-!
# Calls of the receiver that fail

Whatever the chunks carry and the operating system answers, a call of
`receive_chunk` returns: it never indexes `received` out of bounds, misses the
entry that it has just made or overflows the offset.  It reports an error
exactly if something is wrong, and the other transfers do not notice.
-/

namespace ReceiverState

/-- Something is wrong with the completion of a transfer. -/
def CompletionProblem
    (codec : Codec)
    (io : IoAnswers)
    (state : ReceiverState)
    (chunk : FileChunkFrame)
    (bytes : List UInt8) :
    Prop :=
  io.syncAll ≠ none ∨ io.hash ≠ none ∨
    ¬ state.Matches codec chunk bytes ∨ io.rename ≠ none

/-- Something is wrong with a chunk, or with a system call that it needs. -/
inductive Problem
    (codec : Codec)
    (io : IoAnswers)
    (state : ReceiverState)
    (chunk : FileChunkFrame) :
    Prop where
  | invalid {reason : String}
      (invalid : chunk.validate = .error reason)
  | undecodable {reason : String}
      (undecodable : codec.decode chunk.payloadB64 = .error reason)
  | notOpened
      (new : state.receiver.transfers.lookup chunk.fileId = none)
      (failed : io.openFile ≠ none ∨ io.setLen ≠ none)
  | inconsistent
      (differs : ¬ SameMetadata (state.transferOf chunk) chunk)
  | notWritten
      (missing :
        (state.transferOf chunk).received[chunk.chunkIndex.toNat]? =
          some false)
      (failed : io.seek ≠ none ∨ io.write ≠ none)
  | notCompleted {bytes : List UInt8}
      (completes : Completes codec io state chunk bytes)
      (problem : CompletionProblem codec io state chunk bytes)

variable {codec : Codec} {io : IoAnswers} {state : ReceiverState}
  {chunk : FileChunkFrame} {bytes : List UInt8}

/-- A completion reports an error exactly if something is wrong with it. -/
theorem Finished.isError_iff
    {received : Received}
    (ending : Finished codec io state chunk bytes received) :
    (∃ message, received.result = .error (.error message)) ↔
      CompletionProblem codec io state chunk bytes := by
  cases ending with
  | @notHashed message failed =>
      refine ⟨fun _ => ?_, fun _ => ⟨message, rfl⟩⟩
      rcases not_and_or.mp failed with sync | hash
      · exact .inl sync
      · exact .inr (.inl hash)
  | @mismatched message synced hashed differs =>
      exact ⟨fun _ => .inr (.inr (.inl differs)),
        fun _ => ⟨message, rfl⟩⟩
  | @notRenamed message synced hashed same failed =>
      exact ⟨fun _ => .inr (.inr (.inr failed)),
        fun _ => ⟨message, rfl⟩⟩
  | saved synced hashed same renamed =>
      constructor
      · rintro ⟨message, isError⟩
        cases isError
      · rintro (failed | failed | failed | failed)
        · exact (failed synced).elim
        · exact (failed hashed).elim
        · exact (failed same).elim
        · exact (failed renamed).elim

/-- The problem of a chunk that arrives is one with its transfer. -/
theorem Problem.of_arrives
    (arrives : Arrives codec io state chunk bytes)
    (problem : Problem codec io state chunk) :
    ¬ SameMetadata (state.transferOf chunk) chunk ∨
      (state.transferOf chunk).received[chunk.chunkIndex.toNat]? =
          some false ∧
        (io.seek ≠ none ∨ io.write ≠ none ∨
          Completes codec io state chunk bytes ∧
            CompletionProblem codec io state chunk bytes) := by
  cases problem with
  | invalid invalid =>
      rw [arrives.valid] at invalid
      cases invalid
  | undecodable undecodable =>
      rw [arrives.decoded] at undecodable
      cases undecodable
  | notOpened new failed =>
      obtain ⟨created, sized⟩ := arrives.opened new
      exact (failed.elim (· created) (· sized)).elim
  | inconsistent differs =>
      exact .inl differs
  | notWritten missing failed =>
      exact .inr ⟨missing, failed.imp_right .inl⟩
  | notCompleted completes problem =>
      have same := arrives.unique completes.writes.wanted.arrives
      rw [same] at completes problem
      exact .inr
        ⟨completes.writes.wanted.missing,
          .inr (.inr ⟨completes, problem⟩)⟩

/-- The problem of a chunk that is written is one with the completion. -/
theorem Problem.of_writes
    (writes : Writes codec io state chunk bytes)
    (problem : Problem codec io state chunk) :
    Completes codec io state chunk bytes ∧
      CompletionProblem codec io state chunk bytes := by
  rcases problem.of_arrives writes.wanted.arrives with
    differs | ⟨-, failed | failed | completion⟩
  · exact (differs writes.wanted.same).elim
  · exact (failed writes.seek).elim
  · exact (failed writes.write).elim
  · exact completion

/-- A call reports an error exactly if it has a problem. -/
theorem Ends.isError_iff
    {received : Received}
    (ends : Ends codec io state chunk received) :
    (∃ message, received.result = .error (.error message)) ↔
      Problem codec io state chunk := by
  cases ends with
  | @rejected message problem =>
      refine ⟨fun _ => ?_, fun _ => ⟨message, rfl⟩⟩
      rcases problem with ⟨reason, invalid⟩ | ⟨reason, undecodable⟩ |
        ⟨new, failed⟩
      · exact .invalid invalid
      · exact .undecodable undecodable
      · exact .notOpened new (.inl failed)
  | @notSized bytes message valid decoded new created failed =>
      exact ⟨fun _ => .notOpened new (.inr failed),
        fun _ => ⟨message, rfl⟩⟩
  | @inconsistent bytes message arrives differs =>
      exact ⟨fun _ => .inconsistent differs, fun _ => ⟨message, rfl⟩⟩
  | duplicate arrives same received =>
      constructor
      · rintro ⟨message, isError⟩
        cases isError
      · intro problem
        rcases problem.of_arrives arrives with differs | ⟨missing, -⟩
        · exact (differs same).elim
        · rw [received] at missing
          cases missing
  | @notSought bytes message wanted failed =>
      exact ⟨fun _ => .notWritten wanted.missing (.inl failed),
        fun _ => ⟨message, rfl⟩⟩
  | @notWritten bytes count message wanted sought failed =>
      exact ⟨fun _ => .notWritten wanted.missing (.inr (by simp [failed])),
        fun _ => ⟨message, rfl⟩⟩
  | pending writes more =>
      constructor
      · rintro ⟨message, isError⟩
        cases isError
      · intro problem
        exact (more (problem.of_writes writes).1.last).elim
  | finished completes ending =>
      rw [ending.isError_iff]
      exact ⟨.notCompleted completes,
        fun problem => (problem.of_writes completes.writes).2⟩

/-- The partial file of another transfer is read back as it was. -/
theorem Evolves.read_other
    {fileId other : Uuid}
    {before after : ReceiverState}
    {transfer : Transfer}
    (evolves : Evolves fileId before after)
    (sound : before.Sound)
    (different : other ≠ fileId)
    (found : before.receiver.transfers.lookup other = some transfer) :
    after.store.read transfer.tempPath =
      before.store.read transfer.tempPath := by
  have was := sound other transfer found
  have kept : after.receiver.transfers.lookup other = some transfer := by
    rw [evolves.others other different]
    exact found
  have is := evolves.sound other transfer kept
  rw [← was.path, was.refers.read, is.refers.read,
    evolves.data other transfer different found]

/-- Every index times the size of a chunk fits into 64 bits. -/
theorem chunkOffset_lt (chunk : FileChunkFrame) :
    chunkOffset chunk < 2 ^ 64 := by
  have index := chunk.chunkIndex.toNat_lt
  simp only [chunkOffset, fileChunkBytes]
  omega

/--
After every run, a call with any chunk and any answers does not panic: it
reports an error exactly if something is wrong, and the entries and the
partial files of the other transfers stay as they are.
-/
theorem receiveChunk_returns
    {saveDir : Path}
    {store : Store Path}
    {calls : List ReceiverCall}
    (ran :
      StepRun.run? (step? codec) (start saveDir store) calls = some state)
    (call : ReceiverCall) :
    (receiveChunk codec call.io state call.chunk).result ≠ .error .panic ∧
      chunkOffset call.chunk < 2 ^ 64 ∧
      ((∃ message,
          (receiveChunk codec call.io state call.chunk).result =
            .error (.error message)) ↔
        Problem codec call.io state call.chunk) ∧
      ∀ other, other ≠ call.chunk.fileId →
        (receiveChunk codec call.io state
            call.chunk).state.receiver.transfers.lookup other =
          state.receiver.transfers.lookup other ∧
        ∀ transfer,
          state.receiver.transfers.lookup other = some transfer →
          (receiveChunk codec call.io state call.chunk).state.store.read
              transfer.tempPath =
            state.store.read transfer.tempPath := by
  have sound := (confined_of_run ran).sound
  have receives := receives_receiveChunk codec call.io sound call.chunk
  refine ⟨receives.noPanic, chunkOffset_lt call.chunk,
    (ends_receiveChunk codec call.io sound call.chunk).isError_iff, ?_⟩
  intro other different
  refine ⟨receives.evolves.others other different, ?_⟩
  intro transfer found
  exact receives.evolves.read_other sound different found

/-- The first of two chunks of another file. -/
def otherHalf : ReceiverCall where
  chunk := { halfCall.chunk with fileId := ⟨8⟩ }
  io := .success ⟨3⟩

/-- The receiver with two transfers in progress. -/
def twoOpen : ReceiverState :=
  (receiveChunk sampleCodec otherHalf.io halfReceived otherHalf.chunk).state

/-- A chunk of the first file that is the last one of three. -/
def oneOfThree : ReceiverCall where
  chunk := { halfCall.chunk with totalChunks := 3, chunkIndex := 2 }
  io := .success ⟨3⟩

/-- On the sample the total is wrong, and the other transfer goes on. -/
theorem receiveChunk_returns_sample :
    ((receiveChunk sampleCodec oneOfThree.io twoOpen
          oneOfThree.chunk).result =
        .error
          (.error
            ("inconsistent metadata across chunks of file " ++
              "00000000-0000-0000-0000-000000000007 " ++
              "(sender changed total/hash/size mid-transfer)")) ∧
      (twoOpen.receiver.transfers.lookup ⟨7⟩).isSome ∧
      (twoOpen.receiver.transfers.lookup ⟨8⟩).isSome) ∧
    (receiveChunk sampleCodec oneOfThree.io twoOpen
        oneOfThree.chunk).result ≠ .error .panic ∧
      chunkOffset oneOfThree.chunk < 2 ^ 64 ∧
      ((∃ message,
          (receiveChunk sampleCodec oneOfThree.io twoOpen
              oneOfThree.chunk).result = .error (.error message)) ↔
        Problem sampleCodec oneOfThree.io twoOpen oneOfThree.chunk) ∧
      ∀ other, other ≠ oneOfThree.chunk.fileId →
        (receiveChunk sampleCodec oneOfThree.io twoOpen
            oneOfThree.chunk).state.receiver.transfers.lookup other =
          twoOpen.receiver.transfers.lookup other ∧
        ∀ transfer,
          twoOpen.receiver.transfers.lookup other = some transfer →
          (receiveChunk sampleCodec oneOfThree.io twoOpen
              oneOfThree.chunk).state.store.read transfer.tempPath =
            twoOpen.store.read transfer.tempPath :=
  ⟨by decide +kernel,
    receiveChunk_returns
      (show
        StepRun.run? (step? sampleCodec) (start sampleDir Store.empty)
            [halfCall, otherHalf] =
          some twoOpen from rfl)
      oneOfThree⟩

end ReceiverState

end ClipboardWire
