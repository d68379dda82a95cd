import ClipboardWire.FileNames
import ClipboardWire.FileStore
import Mathlib.Data.List.AList

namespace ClipboardWire

open FileStore

/-!
# The receiver of file transfers

`FileReceiver::receive_chunk` of `core/src/client/file.rs`, one definition for
each of its phases.  Every system call can fail: the answers of the operating
system during one call are an argument, together with the random identifier
that `unique_path` may draw.  Probing whether a path exists is truthful.

Base64 and SHA-256 come from libraries that are not part of the repository;
they are a parameter.  Error texts are those printed by `{e:#}`.
-/

/-- The library functions that file transfers rely on. -/
structure Codec where
  /-- `STANDARD.encode`. -/
  encode : List UInt8 → String
  /-- `STANDARD.decode`; an error carries its text. -/
  decode : String → Except String (List UInt8)
  /-- `Sha256::digest`. -/
  sha256 : List UInt8 → List UInt8

/-- One byte in the format `{b:02X}`. -/
def upperHex (byte : UInt8) : List Char :=
  [(Nat.digitChar (byte.toNat / 16)).toUpper,
    (Nat.digitChar (byte.toNat % 16)).toUpper]

/-- `fingerprint_hex`. -/
def fingerprintHex (bytes : List UInt8) : String :=
  String.ofList ([':'].intercalate (bytes.map upperHex))

/-- The hash that `sha256_of_path` returns for a content. -/
def Codec.fingerprint (codec : Codec) (content : List UInt8) : String :=
  fingerprintHex (codec.sha256 content)

/-- How the operating system answers during one call; `none` is success. -/
structure IoAnswers where
  openFile : Option String
  setLen : Option String
  seek : Option String
  /-- A failed write may already have written some bytes. -/
  write : Option (Nat × String)
  syncAll : Option String
  hash : Option String
  remove : Option String
  rename : Option String
  random : Uuid

/-- Every system call succeeds. -/
def IoAnswers.success (random : Uuid) : IoAnswers where
  openFile := none
  setLen := none
  seek := none
  write := none
  syncAll := none
  hash := none
  remove := none
  rename := none
  random := random

/-- One transfer in progress. -/
structure Transfer where
  name : String
  tempPath : Path
  file : Handle Path
  totalChunks : UInt32
  received : List Bool
  expectedSha256 : String
  expectedSize : UInt64
  deriving DecidableEq, Repr

/-- Record that a chunk has been written. -/
def Transfer.mark (transfer : Transfer) (index : Nat) : Transfer :=
  { transfer with received := transfer.received.set index true }

/-- The receiver: where it saves, and the transfers in progress. -/
structure FileReceiver where
  saveDir : Path
  transfers : AList fun _ : Uuid => Transfer

/-- The receiver together with the files it works on. -/
structure ReceiverState where
  receiver : FileReceiver
  store : Store Path

/-- Why a call did not return normally. -/
inductive Failure where
  | error (message : String)
  /-- An index out of bounds or a failed `expect`. -/
  | panic
  deriving DecidableEq, Repr

/-- Result of one call and the state after it. -/
structure Received where
  result : Except Failure (Option Path)
  state : ReceiverState

/-- A path as it is printed. -/
def Path.display (path : Path) : String :=
  "/" ++ "/".intercalate path.components

namespace FileReceiver

/-- `FileReceiver::with_save_dir`. -/
def withSaveDir (saveDir : Path) : FileReceiver where
  saveDir := saveDir
  transfers := ∅

/-- The path of the partial file of a transfer. -/
def partialPath (receiver : FileReceiver) (fileId : Uuid) : Path :=
  receiver.saveDir.join (partialName fileId)

/-- Record the progress of a transfer. -/
def setTransfer
    (receiver : FileReceiver)
    (fileId : Uuid)
    (transfer : Transfer) :
    FileReceiver :=
  { receiver with
    transfers := receiver.transfers.insert fileId transfer }

/-- Forget a transfer. -/
def dropTransfer (receiver : FileReceiver) (fileId : Uuid) : FileReceiver :=
  { receiver with transfers := receiver.transfers.erase fileId }

end FileReceiver

namespace ReceiverState

/-- End a call with an error and the state reached so far. -/
def fail (state : ReceiverState) (message : String) : Received :=
  ⟨.error (.error message), state⟩

/-- The first chunk of a file creates the partial file and the entry. -/
def openTransfer
    (io : IoAnswers)
    (state : ReceiverState)
    (chunk : FileChunkFrame) :
    Except String Unit × ReceiverState :=
  if state.receiver.transfers.lookup chunk.fileId |>.isSome then
    (.ok (), state)
  else
    let tempPath := state.receiver.partialPath chunk.fileId
    match io.openFile with
    | some reason =>
        (.error ("creating " ++ tempPath.display ++ ": " ++ reason), state)
    | none =>
        let (file, created) := state.store.openTruncate tempPath
        match io.setLen with
        | some reason =>
            (.error
              ("pre-allocating " ++ toString chunk.fileSize.toNat ++
                " bytes for " ++ tempPath.display ++ ": " ++ reason),
              { state with store := created })
        | none =>
            (.ok (),
              { receiver :=
                  state.receiver.setTransfer chunk.fileId
                    { name := sanitizeFilename chunk.name
                      tempPath := tempPath
                      file := file
                      totalChunks := chunk.totalChunks
                      received :=
                        List.replicate chunk.totalChunks.toNat false
                      expectedSha256 := chunk.fileSha256
                      expectedSize := chunk.fileSize }
                store := created.setLen file chunk.fileSize.toNat })

/-- All chunks have arrived: verify the hash, then rename the partial file. -/
def completeTransfer
    (codec : Codec)
    (io : IoAnswers)
    (state : ReceiverState)
    (fileId : Uuid)
    (transfer : Transfer) :
    Received :=
  match io.syncAll, io.hash, state.store.read transfer.tempPath with
  | some reason, _, _ =>
      state.fail reason
  | none, some reason, _ =>
      state.fail reason
  | none, none, none =>
      state.fail "No such file or directory (os error 2)"
  | none, none, some content =>
      if codec.fingerprint content = transfer.expectedSha256 then
        let finalPath :=
          uniquePath state.store.exists? state.receiver.saveDir
            transfer.name io.random
        match io.rename with
        | some reason =>
            state.fail reason
        | none =>
            { result := .ok (some finalPath)
              state :=
                { receiver := state.receiver.dropTransfer fileId
                  store :=
                    state.store.rename transfer.tempPath finalPath } }
      else
        -- the outcome of removing the partial file is ignored
        fail
          { receiver := state.receiver.dropTransfer fileId
            store :=
              if io.remove.isNone then
                state.store.remove transfer.tempPath
              else
                state.store }
          "file transfer failed SHA-256 verification"

/-- Where a chunk is written: a product below 2 ^ 54, which cannot wrap. -/
def chunkOffset (chunk : FileChunkFrame) : Nat :=
  chunk.chunkIndex.toNat * fileChunkBytes

/-- A chunk is in the file, and its transfer says so. -/
def writtenChunk
    (state : ReceiverState)
    (transfer : Transfer)
    (chunk : FileChunkFrame)
    (bytes : List UInt8) :
    ReceiverState where
  receiver :=
    state.receiver.setTransfer chunk.fileId
      (transfer.mark chunk.chunkIndex.toNat)
  store := state.store.writeAt transfer.file (chunkOffset chunk) bytes

/-- Write a chunk that has not been received yet to its place in the file. -/
def writeChunk
    (codec : Codec)
    (io : IoAnswers)
    (state : ReceiverState)
    (transfer : Transfer)
    (chunk : FileChunkFrame)
    (bytes : List UInt8) :
    Received :=
  match io.seek, io.write with
  | some reason, _ =>
      state.fail reason
  | none, some (count, reason) =>
      fail
        { state with
          store :=
            state.store.writeAt transfer.file (chunkOffset chunk)
              (bytes.take count) }
        reason
  | none, none =>
      let written := writtenChunk state transfer chunk bytes
      let marked := transfer.mark chunk.chunkIndex.toNat
      if marked.received.all id then
        completeTransfer codec io written chunk.fileId marked
      else
        ⟨.ok none, written⟩

/-- The metadata that every chunk of a transfer repeats. -/
def SameMetadata (transfer : Transfer) (chunk : FileChunkFrame) : Prop :=
  chunk.totalChunks = transfer.totalChunks ∧
    chunk.fileSha256 = transfer.expectedSha256 ∧
    chunk.fileSize = transfer.expectedSize

instance (transfer : Transfer) (chunk : FileChunkFrame) :
    Decidable (SameMetadata transfer chunk) :=
  inferInstanceAs (Decidable (_ ∧ _ ∧ _))

/-- Check a chunk against its transfer and ignore a duplicate. -/
def acceptChunk
    (codec : Codec)
    (io : IoAnswers)
    (state : ReceiverState)
    (transfer : Transfer)
    (chunk : FileChunkFrame)
    (bytes : List UInt8) :
    Received :=
  if SameMetadata transfer chunk then
    match transfer.received[chunk.chunkIndex.toNat]? with
    | none =>
        ⟨.error .panic, state⟩
    | some true =>
        ⟨.ok none, state⟩
    | some false =>
        writeChunk codec io state transfer chunk bytes
  else
    state.fail
      ("inconsistent metadata across chunks of file " ++
        chunk.fileId.hyphenated ++
        " (sender changed total/hash/size mid-transfer)")

/-- `FileReceiver::receive_chunk`. -/
def receiveChunk
    (codec : Codec)
    (io : IoAnswers)
    (state : ReceiverState)
    (chunk : FileChunkFrame) :
    Received :=
  match chunk.validate with
  | .error reason =>
      state.fail ("rejecting inbound file_chunk: " ++ reason)
  | .ok () =>
      match codec.decode chunk.payloadB64 with
      | .error reason =>
          state.fail ("decoding chunk payload base64: " ++ reason)
      | .ok bytes =>
          match openTransfer io state chunk with
          | (.error message, opened) =>
              opened.fail message
          | (.ok (), opened) =>
              match opened.receiver.transfers.lookup chunk.fileId with
              | none =>
                  ⟨.error .panic, opened⟩
              | some transfer =>
                  acceptChunk codec io opened transfer chunk bytes

end ReceiverState

end ClipboardWire
