import ClipboardWire.Base64
import ClipboardWire.FileReceiverInvariant
import ClipboardWire.StepRun

namespace ClipboardWire

open FileStore

/-!
# Integrity and confinement of received files

The chunks, their fields and the answers of the operating system are
arbitrary.  Every path that the receiver touches is a direct child of its
directory, and a file that it reports as saved lies there, at a place that was
free, with the content whose hash every accepted chunk of the transfer
announced.
-/

/-- One call of `receive_chunk` together with the system's answers to it. -/
structure ReceiverCall where
  chunk : FileChunkFrame
  io : IoAnswers

namespace ReceiverState

/-- A receiver that has not seen any chunk, with an empty log. -/
def start (saveDir : Path) (store : Store Path) : ReceiverState where
  receiver := FileReceiver.withSaveDir saveDir
  store := { store with touched := [] }

/-- Perform one call. -/
def step?
    (codec : Codec)
    (state : ReceiverState)
    (call : ReceiverCall) :
    Option ReceiverState :=
  some (receiveChunk codec call.io state call.chunk).state

theorem sound_start (saveDir : Path) (store : Store Path) :
    (start saveDir store).Sound := by
  intro fileId transfer found
  simp [start, FileReceiver.withSaveDir] at found

/-- After every run: transfers are sound and the log is confined. -/
structure Confined (saveDir : Path) (state : ReceiverState) : Prop where
  sound : state.Sound
  savesTo : state.receiver.saveDir = saveDir
  touched : ∀ path ∈ state.store.touched, saveDir.DirectChild path

theorem Confined.step
    {codec : Codec}
    {saveDir : Path}
    {state next : ReceiverState}
    {call : ReceiverCall}
    (confined : Confined saveDir state)
    (stepped : state.step? codec call = some next) :
    Confined saveDir next := by
  have evolves :=
    (receives_receiveChunk codec call.io confined.sound call.chunk).evolves
  simp only [step?, Option.some.injEq] at stepped
  subst next
  refine ⟨evolves.sound, evolves.saveDir.trans confined.savesTo, ?_⟩
  intro path member
  rcases evolves.touched path member with earlier | child
  · exact confined.touched path earlier
  · rw [confined.savesTo] at child
    exact child

theorem confined_of_run
    {codec : Codec}
    {saveDir : Path}
    {store : Store Path}
    {calls : List ReceiverCall}
    {state : ReceiverState}
    (ran :
      StepRun.run? (step? codec) (start saveDir store) calls = some state) :
    Confined saveDir state :=
  StepRun.run?_invariant
    ⟨sound_start saveDir store, rfl, by simp [start]⟩
    (fun confined stepped => confined.step stepped)
    ran

/--
A chunk was accepted by the transfer that is in progress for its file: its
call returned `Ok(None)` and the transfer has not been closed since.
-/
def AcceptedInto
    (codec : Codec)
    (initial : ReceiverState)
    (past : List ReceiverCall)
    (chunk : FileChunkFrame) : Prop :=
  ∃ earlier call later state,
    past = earlier ++ call :: later ∧
      call.chunk = chunk ∧
      StepRun.run? (step? codec) initial earlier = some state ∧
      (receiveChunk codec call.io state chunk).result = .ok none ∧
      ∀ since reached,
        since <+: later →
        StepRun.run? (step? codec) initial (earlier ++ call :: since) =
          some reached →
        (reached.receiver.transfers.lookup chunk.fileId).isSome

/-- A call keeps the hash that a transfer expects as long as it is open. -/
private theorem expected_step
    {codec : Codec}
    {state next : ReceiverState}
    {call : ReceiverCall}
    {fileId : Uuid}
    {expected : String}
    (sound : state.Sound)
    (stepped : state.step? codec call = some next)
    (isOpen : (state.receiver.transfers.lookup fileId).isSome)
    (holds :
      ∀ transfer,
        state.receiver.transfers.lookup fileId = some transfer →
        transfer.expectedSha256 = expected) :
    ∀ transfer,
      next.receiver.transfers.lookup fileId = some transfer →
      transfer.expectedSha256 = expected := by
  have receives :=
    receives_receiveChunk codec call.io sound call.chunk
  simp only [step?, Option.some.injEq] at stepped
  subst next
  intro transfer found
  by_cases same : fileId = call.chunk.fileId
  · subst fileId
    obtain ⟨earlier, foundEarlier⟩ := Option.isSome_iff_exists.mp isOpen
    rw [receives.kept earlier transfer foundEarlier found]
    exact holds earlier foundEarlier
  · rw [receives.evolves.others fileId same] at found
    exact holds transfer found

/-- The transfer expects the hash of every chunk accepted into it. -/
private theorem expected_of_acceptedInto
    {codec : Codec}
    {saveDir : Path}
    {store : Store Path}
    {past : List ReceiverCall}
    {state : ReceiverState}
    {chunk : FileChunkFrame}
    (ran :
      StepRun.run? (step? codec) (start saveDir store) past = some state)
    (accepted : AcceptedInto codec (start saveDir store) past chunk) :
    ∃ transfer,
      state.receiver.transfers.lookup chunk.fileId = some transfer ∧
        transfer.expectedSha256 = chunk.fileSha256 := by
  obtain ⟨earlier, call, later, atCall, split, isChunk, reached, pending,
    staysOpen⟩ := accepted
  subst past
  obtain ⟨transfer, found⟩ :=
    Option.isSome_iff_exists.mp
      (staysOpen later state (List.prefix_refl later) ran)
  obtain ⟨atCall', reached', ran'⟩ := StepRun.run?_append_eq_some.mp ran
  rw [reached, Option.some.injEq] at reached'
  subst atCall'
  obtain ⟨afterCall, stepped, rest⟩ := StepRun.run?_cons_eq_some.mp ran'
  have calledSound := (confined_of_run reached).sound
  have expected :
      ∀ transfer,
        state.receiver.transfers.lookup chunk.fileId = some transfer →
        transfer.expectedSha256 = chunk.fileSha256 := by
    refine StepRun.run?_history
      (motive := fun _ reachedState =>
        ∀ transfer,
          reachedState.receiver.transfers.lookup chunk.fileId =
              some transfer →
          transfer.expectedSha256 = chunk.fileSha256)
      ?_ ?_ rest
    · intro opened foundOpened
      subst chunk
      obtain ⟨recorded, foundRecorded, sameHash⟩ :=
        (receives_receiveChunk codec call.io calledSound
          call.chunk).pending pending
      simp only [step?, Option.some.injEq] at stepped
      subst afterCall
      rw [foundRecorded, Option.some.injEq] at foundOpened
      rw [← foundOpened]
      exact sameHash
    · intro since middle action next within toMiddle holds steppedMiddle
      have toMiddle' :
          StepRun.run? (step? codec) (start saveDir store)
              (earlier ++ call :: since) =
            some middle :=
        StepRun.run?_append_eq_some.mpr
          ⟨atCall, reached,
            StepRun.run?_cons_eq_some.mpr ⟨afterCall, stepped, toMiddle⟩⟩
      exact expected_step (confined_of_run toMiddle').sound steppedMiddle
        (staysOpen since middle
          ((List.prefix_append since [action]).trans within) toMiddle')
        holds
  exact ⟨transfer, found, expected transfer found⟩

/--
Integrity and confinement.  After every run the receiver has only touched
direct children of its directory.  If the next call reports a saved file, and
the random name that `unique_path` may fall back to is fresh, the file is a
direct child of the directory, nothing was there before, and its content has
the hash announced by that call and by every chunk accepted into the transfer.
-/
theorem saved_file_verified
    {codec : Codec}
    {saveDir : Path}
    {store : Store Path}
    {past : List ReceiverCall}
    {state : ReceiverState}
    (ran :
      StepRun.run? (step? codec) (start saveDir store) past =
        some state) :
    (∀ path ∈ state.store.touched, saveDir.DirectChild path) ∧
      ∀ (call : ReceiverCall) (path : Path),
        (receiveChunk codec call.io state call.chunk).result =
            .ok (some path) →
        (∀ name, IsFileName name →
          state.store.exists?
            (saveDir.join (fallbackName name call.io.random)) = false) →
        saveDir.DirectChild path ∧
          state.store.exists? path = false ∧
          ∃ content,
            (receiveChunk codec call.io state
                call.chunk).state.store.read path = some content ∧
              codec.fingerprint content = call.chunk.fileSha256 ∧
              ∀ chunk,
                chunk.fileId = call.chunk.fileId →
                AcceptedInto codec (start saveDir store) past chunk →
                codec.fingerprint content = chunk.fileSha256 := by
  have confined := confined_of_run ran
  refine ⟨confined.touched, ?_⟩
  intro call path completed fresh
  have receives :=
    receives_receiveChunk codec call.io confined.sound call.chunk
  have saved := receives.saved path completed
  obtain ⟨name, isName, isPath⟩ := saved.child
  obtain ⟨content, isContent, verified⟩ := saved.content
  rw [confined.savesTo] at isPath
  refine ⟨?_, saved.free ?_, content, isContent, verified, ?_⟩
  · rw [isPath]
    exact Path.directChild_join saveDir isName
  · rw [confined.savesTo]
    exact fresh
  · intro chunk sameFile accepted
    obtain ⟨transfer, found, expected⟩ :=
      expected_of_acceptedInto ran accepted
    rw [sameFile] at found
    rw [verified, ← expected]
    exact (receives.agrees _ transfer completed found).symm

/-- Base64, and a hash that is the one of SHA-256 on the sample content. -/
def sampleCodec : Codec where
  encode := Base64.encode
  decode := Base64.decode
  sha256 := fun _ =>
    [143, 67, 67, 70, 100, 143, 107, 150, 223, 137, 221, 169, 1, 197, 23,
      107, 16, 166, 216, 57, 97, 221, 60, 26, 200, 139, 89, 178, 220, 50,
      122, 164]

/-- A file of two bytes, in a single chunk, with a name that climbs up. -/
def sampleChunk : FileChunkFrame where
  fileId := ⟨7⟩
  name := "../hi.txt"
  contentType := "text/plain; charset=utf-8"
  chunkIndex := 0
  totalChunks := 1
  fileSha256 :=
    "8F:43:43:46:64:8F:6B:96:DF:89:DD:A9:01:C5:17:6B:" ++
      "10:A6:D8:39:61:DD:3C:1A:C8:8B:59:B2:DC:32:7A:A4"
  fileSize := 2
  payloadB64 := "aGk="
  fromId := none

/-- The directory that the sample is saved to. -/
def sampleDir : Path :=
  ⟨["home", "Downloads", "clipboardwire"]⟩

/-- A call with the sample chunk in which every system call succeeds. -/
def sampleCall : ReceiverCall where
  chunk := sampleChunk
  io := .success ⟨3⟩

/-- A chunk without a name is rejected. -/
def rejectedCall : ReceiverCall where
  chunk := { sampleChunk with name := "" }
  io := .success ⟨3⟩

/-- A call with the first of two chunks. -/
def halfCall : ReceiverCall where
  chunk := { sampleChunk with totalChunks := 2 }
  io := .success ⟨3⟩

/-- A call with the second one. -/
def restCall : ReceiverCall where
  chunk := { sampleChunk with totalChunks := 2, chunkIndex := 1 }
  io := .success ⟨3⟩

/-- The receiver after the first chunk. -/
def halfReceived : ReceiverState :=
  (receiveChunk sampleCodec halfCall.io (start sampleDir Store.empty)
    halfCall.chunk).state

/-- The first chunk has been accepted. -/
theorem acceptedInto_halfCall :
    AcceptedInto sampleCodec (start sampleDir Store.empty)
      [rejectedCall, halfCall] halfCall.chunk := by
  refine ⟨[rejectedCall], halfCall, [], start sampleDir Store.empty, rfl,
    rfl, rfl, by decide +kernel, ?_⟩
  intro since reached within ran
  rw [List.prefix_nil.mp within] at ran
  have isReached : halfReceived = reached := Option.some.inj ran
  rw [← isReached]
  decide +kernel

/-- There is only the partial file then. -/
theorem free_halfReceived
    {path : Path}
    (different : path ≠ sampleDir.join (partialName ⟨7⟩)) :
    halfReceived.store.exists? path = false := by
  have names :
      halfReceived.store.names =
        Function.update Store.empty.names
          (sampleDir.join (partialName ⟨7⟩)) (some 0) := by
    rfl
  rw [Store.exists?, names, Function.update_of_ne different]
  rfl

/-- The sample is saved under its sanitized name by its second chunk. -/
theorem saved_file_verified_sample :
    AcceptedInto sampleCodec (start sampleDir Store.empty)
        [rejectedCall, halfCall] halfCall.chunk ∧
      (∀ path ∈ halfReceived.store.touched, sampleDir.DirectChild path) ∧
      sampleDir.DirectChild (sampleDir.join ".._hi.txt") ∧
      halfReceived.store.exists? (sampleDir.join ".._hi.txt") = false ∧
      ∃ content,
        (receiveChunk sampleCodec restCall.io halfReceived
            restCall.chunk).state.store.read
            (sampleDir.join ".._hi.txt") = some content ∧
          sampleCodec.fingerprint content = restCall.chunk.fileSha256 ∧
          ∀ chunk,
            chunk.fileId = restCall.chunk.fileId →
            AcceptedInto sampleCodec (start sampleDir Store.empty)
              [rejectedCall, halfCall] chunk →
            sampleCodec.fingerprint content = chunk.fileSha256 :=
  have verified :=
    saved_file_verified
      (show
        StepRun.run? (step? sampleCodec) (start sampleDir Store.empty)
            [rejectedCall, halfCall] =
          some halfReceived from rfl)
  ⟨acceptedInto_halfCall, verified.1,
    verified.2 restCall _ (by decide +kernel) fun name isName =>
      free_halfReceived fun same =>
        fallbackName_ne_partialName name ⟨3⟩ ⟨7⟩
          (Path.join_injective (isFileName_fallbackName isName ⟨3⟩)
            (isFileName_partialName ⟨7⟩) same)⟩

end ReceiverState

end ClipboardWire
