import ClipboardWire.FileReceiverSteps
import ClipboardWire.FileTransfer
import Mathlib.Order.Interval.Set.LinearOrder
import Mathlib.Tactic.SplitIfs

namespace ClipboardWire

open FileStore

/-!
# Where the chunks of a file are written

The index, the number of chunks, the size and the payload of a chunk are four
fields that the sender chooses, and `receive_chunk` does not check them against
each other.  An accepted chunk writes exactly its own range of the file if and
only if they agree.  If they do, the saved file has the announced size, and it
is what the accepted payloads make in any order.
-/

/-- How many bytes belong to a place of a file cut into chunks. -/
def placeLength (total fileSize number : Nat) : Nat :=
  if number + 1 < total then
    fileChunkBytes
  else
    fileSize - number * fileChunkBytes

section Lengths

variable {total fileSize number : Nat}

/-- The chunk count of a size, said without a division. -/
theorem eq_chunkCount_iff (some : 0 < total) (fileSize : Nat) :
    total = chunkCount fileSize ↔
      (total - 1) * fileChunkBytes < fileSize ∧
        fileSize ≤ total * fileChunkBytes := by
  simp only [chunkCount, fileChunkBytes]
  omega

/-- Every place of a file has some bytes. -/
theorem placeLength_pos
    (needsLast : (total - 1) * fileChunkBytes < fileSize)
    (inRange : number < total) :
    0 < placeLength total fileSize number := by
  unfold placeLength
  split_ifs
  · decide
  · simp only [fileChunkBytes] at *
    omega

/-- A place reaches to the next one, or to the end of the file. -/
theorem add_placeLength
    (needsLast : (total - 1) * fileChunkBytes < fileSize)
    (reachesEnd : fileSize ≤ total * fileChunkBytes)
    (inRange : number < total) :
    number * fileChunkBytes + placeLength total fileSize number =
      min ((number + 1) * fileChunkBytes) fileSize := by
  unfold placeLength
  split_ifs <;> simp only [fileChunkBytes] at * <;> omega

end Lengths

/--
The announced chunks are as many as the announced size needs, and the payload
has as many bytes as belong to the place of the chunk.
-/
structure FileChunkFrame.FillsPlace
    (codec : Codec)
    (chunk : FileChunkFrame) : Prop where
  needsLast :
    (chunk.totalChunks.toNat - 1) * fileChunkBytes < chunk.fileSize.toNat
  reachesEnd :
    chunk.fileSize.toNat ≤ chunk.totalChunks.toNat * fileChunkBytes
  length :
    ∀ bytes,
      codec.decode chunk.payloadB64 = .ok bytes →
      bytes.length =
        placeLength chunk.totalChunks.toNat chunk.fileSize.toNat
          chunk.chunkIndex.toNat

/-- What a chunk brings to its file. -/
def FileChunkFrame.piece
    (chunk : FileChunkFrame)
    (bytes : List UInt8) :
    Piece :=
  ⟨chunk.chunkIndex.toNat, bytes⟩

/-- The pieces accepted so far are written to their places in a file. -/
structure Assembly
    (total fileSize : Nat)
    (content : List UInt8)
    (accepted : List Piece) : Prop where
  needsLast : (total - 1) * fileChunkBytes < fileSize
  reachesEnd : fileSize ≤ total * fileChunkBytes
  length : content.length = fileSize
  distinct : (accepted.map Piece.number).Nodup
  fills :
    ∀ piece ∈ accepted,
      piece.number < total ∧
        piece.bytes.length = placeLength total fileSize piece.number
  written : ∀ piece ∈ accepted, piece.WrittenIn fileChunkBytes content

namespace Assembly

variable {total fileSize : Nat} {content : List UInt8}
  {accepted : List Piece} {piece : Piece}

/-- A piece that is no longer than its place fits the file. -/
theorem fits_of_le
    (assembly : Assembly total fileSize content accepted)
    (inRange : piece.number < total)
    (short : piece.bytes.length ≤ placeLength total fileSize piece.number) :
    piece.Fits fileChunkBytes content.length := by
  have whole :=
    add_placeLength assembly.needsLast assembly.reachesEnd inRange
  have slot := Nat.add_one_mul piece.number fileChunkBytes
  refine ⟨?_, ?_⟩
  · omega
  · rw [assembly.length]
    omega

/-- The accepted pieces fit the file. -/
theorem fits
    (assembly : Assembly total fileSize content accepted)
    (member : piece ∈ accepted) :
    piece.Fits fileChunkBytes content.length := by
  obtain ⟨inRange, full⟩ := assembly.fills piece member
  exact assembly.fits_of_le inRange full.le

/-- Writing to a place that is still free keeps what is written elsewhere. -/
theorem write_part
    (assembly : Assembly total fileSize content accepted)
    (piece : Piece)
    (inRange : piece.number < total)
    (short : piece.bytes.length ≤ placeLength total fileSize piece.number)
    (free : piece.number ∉ accepted.map Piece.number) :
    Assembly total fileSize (writePiece fileChunkBytes content piece)
      accepted := by
  have ownFits := assembly.fits_of_le inRange short
  refine
    { assembly with
      length := (length_writePiece ownFits).trans assembly.length
      written := ?_ }
  intro other member
  refine (assembly.written other member).writePiece
    (assembly.fits member).bounded ownFits ?_
  intro same
  exact free (same ▸ List.mem_map_of_mem member)

theorem write
    (assembly : Assembly total fileSize content accepted)
    (piece : Piece)
    (inRange : piece.number < total)
    (full : piece.bytes.length = placeLength total fileSize piece.number)
    (free : piece.number ∉ accepted.map Piece.number) :
    Assembly total fileSize (writePiece fileChunkBytes content piece)
      (accepted ++ [piece]) := by
  have others := assembly.write_part piece inRange full.le free
  have ownFits := assembly.fits_of_le inRange full.le
  refine { others with distinct := ?_, fills := ?_, written := ?_ }
  · rw [List.map_append, List.map_singleton]
    exact List.nodup_append.mpr
      ⟨assembly.distinct, List.nodup_singleton _, by
        rintro number member other isOther rfl
        rw [List.mem_singleton.mp isOther] at member
        exact free member⟩
  · intro other member
    rcases List.mem_append.mp member with earlier | isPiece
    · exact assembly.fills other earlier
    · rw [List.mem_singleton.mp isPiece]
      exact ⟨inRange, full⟩
  · intro other member
    rcases List.mem_append.mp member with earlier | isPiece
    · exact others.written other earlier
    · rw [List.mem_singleton.mp isPiece]
      exact writtenIn_writePiece ownFits

/-- Once every place is filled, the pieces cover the file. -/
theorem covers
    (assembly : Assembly total fileSize content accepted)
    (all : ∀ number < total, number ∈ accepted.map Piece.number)
    (position : Nat)
    (inside : position < content.length) :
    ∃ piece ∈ accepted,
      ∃ offset < piece.bytes.length,
        position = piece.number * fileChunkBytes + offset := by
  rw [assembly.length] at inside
  have positive : 0 < fileChunkBytes := by
    decide
  have inRange : position / fileChunkBytes < total :=
    Nat.div_lt_of_lt_mul
      (Nat.mul_comm total _ ▸ Nat.lt_of_lt_of_le inside assembly.reachesEnd)
  have split := Nat.div_add_mod' position fileChunkBytes
  have bound :
      position <
        position / fileChunkBytes * fileChunkBytes +
          placeLength total fileSize (position / fileChunkBytes) := by
    rw [add_placeLength assembly.needsLast assembly.reachesEnd inRange]
    exact lt_min (Nat.lt_mul_of_div_lt (Nat.lt_succ_self _) positive) inside
  obtain ⟨piece, member, isNumber⟩ := List.mem_map.mp (all _ inRange)
  have full := (assembly.fills piece member).2
  rw [← isNumber] at split bound
  rw [← full, ← split] at bound
  exact ⟨piece, member, position % fileChunkBytes,
    Nat.lt_of_add_lt_add_left bound, split.symm⟩

/-- Once every place is filled, the order of the pieces does not matter. -/
theorem eq_writePieces
    {order : List Piece}
    (assembly : Assembly total fileSize content accepted)
    (all : ∀ number < total, number ∈ accepted.map Piece.number)
    (permuted : order.Perm accepted) :
    content =
      writePieces fileChunkBytes (List.replicate fileSize 0) order := by
  have fits :
      ∀ piece ∈ order,
        piece.Fits fileChunkBytes
          (List.replicate fileSize (0 : UInt8)).length := by
    intro piece member
    rw [List.length_replicate, ← assembly.length]
    exact assembly.fits (permuted.subset member)
  have distinct : (order.map Piece.number).Nodup :=
    (permuted.map Piece.number).nodup_iff.mpr assembly.distinct
  refine eq_of_writtenIn ?_ (assembly.covers all) assembly.written ?_
  · rw [length_writePieces fits, List.length_replicate, assembly.length]
  · intro piece member
    exact writtenIn_writePieces fits distinct (permuted.symm.subset member)

end Assembly

namespace ReceiverState

/-- A call succeeds, and its chunk is not a duplicate. -/
structure Accepts
    (codec : Codec)
    (io : IoAnswers)
    (state : ReceiverState)
    (chunk : FileChunkFrame) : Prop where
  succeeds : ∃ path, (receiveChunk codec io state chunk).result = .ok path
  isNew :
    (state.transferOf chunk).received[chunk.chunkIndex.toNat]? ≠ some true

/--
The announced number of chunks is the one that the size needs, and the call
writes the range of its chunk, cut off at the announced size.
-/
structure WritesOwnRange
    (codec : Codec)
    (io : IoAnswers)
    (state : ReceiverState)
    (chunk : FileChunkFrame) : Prop where
  count : chunk.totalChunks.toNat = chunkCount chunk.fileSize.toNat
  range :
    ∃ bytes,
      codec.decode chunk.payloadB64 = .ok bytes ∧
        (receiveChunk codec io state chunk).state.store.data
            (state.transferOf chunk).file.inode =
          state.contentWith chunk bytes ∧
          Set.Ico (chunkOffset chunk) (chunkOffset chunk + bytes.length) =
            Set.Ico (chunk.chunkIndex.toNat * fileChunkBytes)
              (min ((chunk.chunkIndex.toNat + 1) * fileChunkBytes)
                chunk.fileSize.toNat)

/-- The piece that a call with this result has accepted from its chunk. -/
def newPiece
    (codec : Codec)
    (state : ReceiverState)
    (chunk : FileChunkFrame)
    (result : Except Failure (Option Path)) :
    Option Piece :=
  if (state.transferOf chunk).received[chunk.chunkIndex.toNat]? = some true then
    none
  else
    match codec.decode chunk.payloadB64, result with
    | .ok bytes, .ok _ => some (chunk.piece bytes)
    | _, _ => none

/-- The piece of a file that a call accepts. -/
def acceptedPiece
    (codec : Codec)
    (fileId : Uuid)
    (state : ReceiverState)
    (call : ReceiverCall) :
    Option Piece :=
  if call.chunk.fileId = fileId then
    newPiece codec state call.chunk
      (receiveChunk codec call.io state call.chunk).result
  else
    none

/-- A receiver and the pieces accepted into the current transfer of a file. -/
structure Recorded where
  state : ReceiverState
  accepted : List Piece

/-- Perform one call and record the piece that it accepts. -/
def Recorded.step?
    (codec : Codec)
    (fileId : Uuid)
    (recorded : Recorded)
    (call : ReceiverCall) :
    Option Recorded :=
  let received := receiveChunk codec call.io recorded.state call.chunk
  some
    { state := received.state
      accepted :=
        if (received.state.receiver.transfers.lookup fileId).isSome then
          recorded.accepted ++
            (acceptedPiece codec fileId recorded.state call).toList
        else
          [] }

/-- Every chunk that a transfer wants fills its place. -/
def WantsOnlyFilling
    (codec : Codec)
    (fileId : Uuid)
    (recorded : Recorded)
    (call : ReceiverCall) :
    Prop :=
  call.chunk.fileId = fileId →
    ∀ bytes,
      Wanted codec call.io recorded.state call.chunk bytes →
      call.chunk.FillsPlace codec

/-- The accepted pieces are in the partial file of a transfer and marked. -/
structure Tracked
    (state : ReceiverState)
    (transfer : Transfer)
    (accepted : List Piece) : Prop where
  assembly :
    Assembly transfer.totalChunks.toNat transfer.expectedSize.toNat
      (state.store.data transfer.file.inode) accepted
  marked :
    false ∈ transfer.received →
    ∀ number,
      transfer.received[number]? = some true ↔
        number ∈ accepted.map Piece.number

/-- The record is about the transfer of a file that is in progress, if any. -/
structure Follows (fileId : Uuid) (recorded : Recorded) : Prop where
  sound : recorded.state.Sound
  closed :
    recorded.state.receiver.transfers.lookup fileId = none →
    recorded.accepted = []
  tracked :
    ∀ transfer,
      recorded.state.receiver.transfers.lookup fileId = some transfer →
      Tracked recorded.state transfer recorded.accepted

variable {codec : Codec} {io : IoAnswers} {state : ReceiverState}
  {chunk : FileChunkFrame} {bytes : List UInt8} {accepted : List Piece}

/-- The content of the partial file once a chunk has been written. -/
theorem data_written
    (state : ReceiverState)
    (chunk : FileChunkFrame)
    (bytes : List UInt8) :
    (state.written chunk bytes).store.data
        (state.transferOf chunk).file.inode =
      state.contentWith chunk bytes :=
  Store.data_setContent_same _ _ _

/-- An accepted chunk has been written. -/
theorem Accepts.writes
    (sound : state.Sound)
    (accepts : Accepts codec io state chunk) :
    ∃ bytes,
      Writes codec io state chunk bytes ∧
        (receiveChunk codec io state chunk).state.store.data
            (state.transferOf chunk).file.inode =
          state.contentWith chunk bytes := by
  obtain ⟨path, success⟩ := accepts.succeeds
  have ends := ends_receiveChunk codec io sound chunk
  rcases ends.of_success success with
    isMarked | ⟨bytes, writes, pending | delivers⟩
  · exact (accepts.isNew isMarked).elim
  · refine ⟨bytes, writes, ?_⟩
    rw [pending]
    exact data_written state chunk bytes
  · refine ⟨bytes, writes, ?_⟩
    rw [ends.of_delivers delivers, Store.data_rename]
    exact data_written state chunk bytes

/-- A chunk fills its place exactly if its range and its count are right. -/
theorem fillsPlace_iff
    (valid : chunk.validate = .ok ())
    (decoded : codec.decode chunk.payloadB64 = .ok bytes) :
    chunk.FillsPlace codec ↔
      chunk.totalChunks.toNat = chunkCount chunk.fileSize.toNat ∧
        Set.Ico (chunkOffset chunk) (chunkOffset chunk + bytes.length) =
          Set.Ico (chunk.chunkIndex.toNat * fileChunkBytes)
            (min ((chunk.chunkIndex.toNat + 1) * fileChunkBytes)
              chunk.fileSize.toNat) := by
  have inRange : chunk.chunkIndex.toNat < chunk.totalChunks.toNat :=
    (FileChunkFrame.validate_eq_ok.mp valid).2.2.2.1
  have bounds :=
    eq_chunkCount_iff (Nat.zero_lt_of_lt inRange) chunk.fileSize.toNat
  constructor
  · intro fills
    refine ⟨bounds.mpr ⟨fills.needsLast, fills.reachesEnd⟩, ?_⟩
    rw [fills.length bytes decoded, chunkOffset,
      add_placeLength fills.needsLast fills.reachesEnd inRange]
  · rintro ⟨count, range⟩
    obtain ⟨needsLast, reachesEnd⟩ := bounds.mp count
    have whole := add_placeLength needsLast reachesEnd inRange
    have nonempty :
        chunk.chunkIndex.toNat * fileChunkBytes <
          min ((chunk.chunkIndex.toNat + 1) * fileChunkBytes)
            chunk.fileSize.toNat := by
      rw [← whole]
      exact Nat.lt_add_of_pos_right (placeLength_pos needsLast inRange)
    obtain ⟨-, ending⟩ := (Set.Ico_eq_Ico_iff (.inr nonempty)).mp range
    rw [← whole, chunkOffset] at ending
    refine ⟨needsLast, reachesEnd, ?_⟩
    intro other otherDecoded
    rw [decoded, Except.ok.injEq] at otherDecoded
    subst other
    exact Nat.add_left_cancel ending

/-- An accepted chunk writes its own range exactly if it fills its place. -/
theorem writesOwnRange_iff
    (sound : state.Sound)
    (accepts : Accepts codec io state chunk) :
    WritesOwnRange codec io state chunk ↔ chunk.FillsPlace codec := by
  obtain ⟨bytes, writes, content⟩ := accepts.writes sound
  have arrives := writes.wanted.arrives
  rw [fillsPlace_iff arrives.valid arrives.decoded]
  constructor
  · rintro ⟨count, other, otherDecoded, -, range⟩
    rw [arrives.decoded, Except.ok.injEq] at otherDecoded
    subst other
    exact ⟨count, range⟩
  · rintro ⟨count, range⟩
    exact ⟨count, bytes, arrives.decoded, content, range⟩

/-- A failed call accepts nothing. -/
theorem newPiece_error (failure : Failure) :
    newPiece codec state chunk (.error failure) = none := by
  unfold newPiece
  split
  · rfl
  · cases codec.decode chunk.payloadB64 <;> rfl

/-- A written chunk is accepted when its call succeeds. -/
theorem newPiece_ok
    (wanted : Wanted codec io state chunk bytes)
    (path : Option Path) :
    newPiece codec state chunk (.ok path) = some (chunk.piece bytes) := by
  simp [newPiece, wanted.missing, wanted.arrives.decoded]

/-- The first chunk of a file is wanted. -/
theorem Arrives.wanted_of_new
    (arrives : Arrives codec io state chunk bytes)
    (new : state.receiver.transfers.lookup chunk.fileId = none) :
    Wanted codec io state chunk bytes := by
  have isOpened : state.transferOf chunk = state.openedTransfer chunk := by
    simp [transferOf, new]
  have inRange : chunk.chunkIndex.toNat < chunk.totalChunks.toNat :=
    (FileChunkFrame.validate_eq_ok.mp arrives.valid).2.2.2.1
  refine ⟨arrives, ?_, ?_⟩
  · rw [isOpened]
    exact ⟨rfl, rfl, rfl⟩
  · rw [isOpened]
    simp [openedTransfer, inRange]

/-- A transfer that has just been opened has accepted nothing. -/
theorem tracked_opened
    (fills : chunk.FillsPlace codec)
    (new : state.receiver.transfers.lookup chunk.fileId = none) :
    Tracked (state.arrived chunk) (state.transferOf chunk) [] := by
  have isOpened : state.transferOf chunk = state.openedTransfer chunk := by
    simp [transferOf, new]
  have isArrived : state.arrived chunk = state.opened chunk := by
    simp [arrived, new]
  rw [isOpened, isArrived]
  refine
    { assembly :=
        { needsLast := fills.needsLast
          reachesEnd := fills.reachesEnd
          length := ?_
          distinct := List.nodup_nil
          fills := by simp
          written := by simp }
      marked := ?_ }
  · simp [opened, openedTransfer, Store.setLen]
  · intro missing number
    simp only [List.map_nil, List.not_mem_nil, iff_false]
    intro isMarked
    have isFalse := List.mem_of_getElem? isMarked
    simp [openedTransfer] at isFalse

/-- Once a chunk has arrived, the record is about its transfer. -/
theorem Follows.tracked_arrived
    (follows : Follows chunk.fileId ⟨state, accepted⟩)
    (fills :
      ∀ bytes,
        Wanted codec io state chunk bytes → chunk.FillsPlace codec)
    (arrives : Arrives codec io state chunk bytes) :
    Tracked (state.arrived chunk) (state.transferOf chunk) accepted := by
  cases found : state.receiver.transfers.lookup chunk.fileId with
  | none =>
      have nothing : accepted = [] := follows.closed found
      rw [nothing]
      exact tracked_opened (fills bytes (arrives.wanted_of_new found)) found
  | some transfer =>
      have isArrived : state.arrived chunk = state := by
        simp [arrived, found]
      have isTransfer : state.transferOf chunk = transfer := by
        simp [transferOf, found]
      rw [isArrived, isTransfer]
      exact follows.tracked transfer found

/-- The place of a wanted chunk is still free. -/
theorem Tracked.free
    (tracked :
      Tracked (state.arrived chunk) (state.transferOf chunk) accepted)
    (wanted : Wanted codec io state chunk bytes) :
    chunk.chunkIndex.toNat ∉ accepted.map Piece.number := by
  rw [← tracked.marked (List.mem_of_getElem? wanted.missing), wanted.missing]
  decide

/-- The index of a wanted chunk is one of its transfer. -/
theorem Wanted.inRange (wanted : Wanted codec io state chunk bytes) :
    chunk.chunkIndex.toNat < (state.transferOf chunk).totalChunks.toNat := by
  rw [← wanted.same.1]
  exact (FileChunkFrame.validate_eq_ok.mp wanted.arrives.valid).2.2.2.1

/-- The payload of a wanted chunk fills a place of its transfer. -/
theorem Wanted.length
    (wanted : Wanted codec io state chunk bytes)
    (fills : chunk.FillsPlace codec) :
    bytes.length =
      placeLength (state.transferOf chunk).totalChunks.toNat
        (state.transferOf chunk).expectedSize.toNat chunk.chunkIndex.toNat := by
  rw [← wanted.same.1, ← wanted.same.2.2]
  exact fills.length bytes wanted.arrives.decoded

/-- A write that breaks off stays inside the place of its chunk. -/
theorem Tracked.assembly_part
    (tracked :
      Tracked (state.arrived chunk) (state.transferOf chunk) accepted)
    (wanted : Wanted codec io state chunk bytes)
    (fills : chunk.FillsPlace codec)
    (count : Nat) :
    Assembly (state.transferOf chunk).totalChunks.toNat
      (state.transferOf chunk).expectedSize.toNat
      (state.contentWith chunk (bytes.take count)) accepted := by
  refine
    tracked.assembly.write_part (chunk.piece (bytes.take count))
      wanted.inRange ?_ (tracked.free wanted)
  exact (List.length_take_le' count bytes).trans (wanted.length fills).le

/-- A written chunk is added to the accepted ones. -/
theorem Tracked.assembly_written
    (tracked :
      Tracked (state.arrived chunk) (state.transferOf chunk) accepted)
    (wanted : Wanted codec io state chunk bytes)
    (fills : chunk.FillsPlace codec) :
    Assembly (state.transferOf chunk).totalChunks.toNat
      (state.transferOf chunk).expectedSize.toNat
      (state.contentWith chunk bytes) (accepted ++ [chunk.piece bytes]) :=
  tracked.assembly.write (chunk.piece bytes) wanted.inRange
    (wanted.length fills) (tracked.free wanted)

/-- What a written chunk leaves, if it is not the last one. -/
theorem Tracked.pending
    (tracked :
      Tracked (state.arrived chunk) (state.transferOf chunk) accepted)
    (wanted : Wanted codec io state chunk bytes)
    (fills : chunk.FillsPlace codec) :
    Tracked (state.written chunk bytes) (state.markedTransfer chunk)
      (accepted ++ [chunk.piece bytes]) where
  assembly := by
    have assembly := tracked.assembly_written wanted fills
    rw [← data_written] at assembly
    exact assembly
  marked := by
    intro _ number
    have marked :=
      tracked.marked (List.mem_of_getElem? wanted.missing) number
    have inside :
        chunk.chunkIndex.toNat < (state.transferOf chunk).received.length :=
      (List.getElem?_eq_some_iff.mp wanted.missing).1
    simp only [markedTransfer, Transfer.mark, List.getElem?_set,
      List.map_append, List.map_singleton, List.mem_append,
      List.mem_singleton]
    by_cases same : chunk.chunkIndex.toNat = number
    · subst same
      simp [inside, FileChunkFrame.piece]
    · rw [if_neg same, marked]
      simp [FileChunkFrame.piece, Ne.symm same]

/-- What the last chunk leaves, if its transfer is not completed. -/
theorem Tracked.stuck
    (tracked :
      Tracked (state.arrived chunk) (state.transferOf chunk) accepted)
    (completes : Completes codec io state chunk bytes)
    (fills : chunk.FillsPlace codec) :
    Tracked (state.written chunk bytes) (state.markedTransfer chunk)
      accepted where
  assembly := by
    have assembly :=
      tracked.assembly_part completes.writes.wanted fills bytes.length
    rw [List.take_length, ← data_written] at assembly
    exact assembly
  marked := by
    intro missing
    have all := List.all_eq_true.mp completes.last false missing
    cases all

/-- A call about a file leaves the record about its transfer. -/
theorem Ends.tracked
    {received : Received}
    {transfer : Transfer}
    (follows : Follows chunk.fileId ⟨state, accepted⟩)
    (fills :
      ∀ bytes,
        Wanted codec io state chunk bytes → chunk.FillsPlace codec)
    (ends : Ends codec io state chunk received)
    (found :
      received.state.receiver.transfers.lookup chunk.fileId = some transfer) :
    Tracked received.state transfer
      (accepted ++ (newPiece codec state chunk received.result).toList) := by
  have inMap := lookup_arrived state chunk
  have entry (bytes : List UInt8) := lookup_written state chunk bytes
  cases ends with
  | rejected problem =>
      simpa [fail, newPiece_error] using follows.tracked transfer found
  | notSized valid decoded new created failed =>
      simp only [fail, leftover] at found
      rw [new] at found
      cases found
  | inconsistent arrives differs =>
      simp only [fail] at found
      rw [inMap, Option.some.injEq] at found
      subst transfer
      simpa [fail, newPiece_error] using follows.tracked_arrived fills arrives
  | duplicate arrives same isMarked =>
      rw [inMap, Option.some.injEq] at found
      subst transfer
      simpa [newPiece, isMarked] using follows.tracked_arrived fills arrives
  | notSought wanted failed =>
      simp only [fail] at found
      rw [inMap, Option.some.injEq] at found
      subst transfer
      simpa [fail, newPiece_error] using
        follows.tracked_arrived fills wanted.arrives
  | @notWritten bytes count message wanted sought failed =>
      have tracked := follows.tracked_arrived fills wanted.arrives
      have assembly :=
        tracked.assembly_part wanted (fills bytes wanted) count
      simp only [fail] at found
      rw [inMap, Option.some.injEq] at found
      subst transfer
      simp only [fail, newPiece_error, Option.toList_none, List.append_nil]
      refine ⟨?_, tracked.marked⟩
      rw [Store.writeAt, Store.data_setContent_same]
      exact assembly
  | @pending bytes writes more =>
      have tracked := follows.tracked_arrived fills writes.wanted.arrives
      rw [entry, Option.some.injEq] at found
      subst transfer
      rw [newPiece_ok writes.wanted]
      exact tracked.pending writes.wanted (fills bytes writes.wanted)
  | @finished bytes received completes ending =>
      have wanted := completes.writes.wanted
      have stuck :=
        (follows.tracked_arrived fills wanted.arrives).stuck completes
          (fills bytes wanted)
      cases ending with
      | notHashed failed =>
          simp only [fail] at found
          rw [entry, Option.some.injEq] at found
          subst transfer
          simpa [fail, newPiece_error] using stuck
      | mismatched synced hashed differs =>
          simp [fail, FileReceiver.dropTransfer] at found
      | notRenamed synced hashed same failed =>
          simp only [fail] at found
          rw [entry, Option.some.injEq] at found
          subst transfer
          simpa [fail, newPiece_error] using stuck
      | saved synced hashed same renamed =>
          simp [FileReceiver.dropTransfer] at found

theorem Follows.step
    {fileId : Uuid}
    {recorded next : Recorded}
    {call : ReceiverCall}
    (follows : Follows fileId recorded)
    (wants : WantsOnlyFilling codec fileId recorded call)
    (stepped : recorded.step? codec fileId call = some next) :
    Follows fileId next := by
  have evolves :=
    (receives_receiveChunk codec call.io follows.sound call.chunk).evolves
  simp only [Recorded.step?, Option.some.injEq] at stepped
  subst next
  refine ⟨evolves.sound, ?_, ?_⟩
  · intro gone
    simp only at gone
    simp [gone]
  · intro transfer found
    simp only at found
    simp only [found, Option.isSome_some, if_true]
    by_cases own : call.chunk.fileId = fileId
    · subst own
      have ends :=
        ends_receiveChunk codec call.io follows.sound call.chunk
      rw [acceptedPiece, if_pos rfl]
      exact ends.tracked follows (wants rfl) found
    · have before :
          recorded.state.receiver.transfers.lookup fileId = some transfer := by
        rw [← evolves.others fileId (Ne.symm own)]
        exact found
      have tracked := follows.tracked transfer before
      rw [acceptedPiece, if_neg own, Option.toList_none, List.append_nil]
      refine ⟨?_, tracked.marked⟩
      rw [evolves.data fileId transfer (Ne.symm own) before]
      exact tracked.assembly

theorem follows_of_run
    {saveDir : Path}
    {store : Store Path}
    {fileId : Uuid}
    {past calls : List ReceiverCall}
    {recorded : Recorded}
    (ran :
      StepRun.run? (Recorded.step? codec fileId) ⟨start saveDir store, []⟩
          past =
        some recorded)
    (within : past <+: calls)
    (wants :
      StepRun.Along (Recorded.step? codec fileId)
        (WantsOnlyFilling codec fileId) ⟨start saveDir store, []⟩ calls) :
    Follows fileId recorded := by
  refine StepRun.run?_history
    (motive := fun _ reached => Follows fileId reached)
    ⟨sound_start saveDir store, fun _ => rfl, ?_⟩ ?_ ran
  · intro transfer found
    simp [start, FileReceiver.withSaveDir] at found
  · intro earlier reached call next isPrefix toReached follows stepped
    exact follows.step (wants.meets (isPrefix.trans within) toReached) stepped

/-- Recording does not change what the receiver does. -/
theorem sound_of_recorded
    {saveDir : Path}
    {store : Store Path}
    {fileId : Uuid}
    {calls : List ReceiverCall}
    {recorded : Recorded}
    (ran :
      StepRun.run? (Recorded.step? codec fileId) ⟨start saveDir store, []⟩
          calls =
        some recorded) :
    recorded.state.Sound := by
  refine StepRun.run?_invariant
    (motive := fun reached => reached.state.Sound)
    (sound_start saveDir store) ?_ ran
  intro reached call next sound stepped
  simp only [Recorded.step?, Option.some.injEq] at stepped
  subst next
  exact (receives_receiveChunk codec call.io sound call.chunk).evolves.sound

/-- A call that reports a path has written the last chunk and saved the file. -/
theorem Ends.of_saved
    {received : Received}
    {path : Path}
    (sound : state.Sound)
    (success : received.result = .ok (some path))
    (ends : Ends codec io state chunk received) :
    ∃ bytes,
      Completes codec io state chunk bytes ∧
        received.state.store.read path =
          some (state.contentWith chunk bytes) := by
  obtain ⟨bytes, delivers⟩ := ends.exists_delivers success
  rw [ends.of_delivers delivers] at success ⊢
  cases success
  exact ⟨bytes, delivers.completes,
    Store.read_rename_target (read_written sound chunk bytes)⟩

/-- Once everything is marked, every place has been accepted. -/
theorem Tracked.all_accepted
    (tracked :
      Tracked (state.arrived chunk) (state.transferOf chunk) accepted)
    (sound : state.Sound)
    (completes : Completes codec io state chunk bytes)
    (number : Nat)
    (inRange : number < (state.transferOf chunk).totalChunks.toNat) :
    number ∈ (accepted ++ [chunk.piece bytes]).map Piece.number := by
  have missing := completes.writes.wanted.missing
  have length := (transferSound_arrived sound chunk).length
  have all := List.all_eq_true.mp completes.last
  simp only [List.map_append, List.map_singleton, List.mem_append,
    List.mem_singleton]
  by_cases same : chunk.chunkIndex.toNat = number
  · exact .inr same.symm
  · refine .inl ((tracked.marked (List.mem_of_getElem? missing) number).mp ?_)
    have inside : number < (state.transferOf chunk).received.length := by
      rw [length]
      exact inRange
    have unchanged :
        (state.markedTransfer chunk).received[number]? =
          (state.transferOf chunk).received[number]? := by
      rw [markedTransfer, Transfer.mark, List.getElem?_set, if_neg same]
    rw [List.getElem?_eq_getElem inside] at unchanged ⊢
    exact congrArg some (all _ (List.mem_of_getElem? unchanged))

/--
Where chunks are written.  In every state that is reached, an accepted chunk
that is no duplicate writes exactly its own range, out of as many as the size
needs, if and only if it fills its place.  If every chunk that the transfer of
a file has wanted fills its place, then a call that saves the file saves the
announced number of bytes, and the accepted payloads written to their places
in any order give the same content.
-/
theorem accepted_in_place
    {codec : Codec}
    {saveDir : Path}
    {store : Store Path}
    {fileId : Uuid}
    {past : List ReceiverCall}
    {recorded : Recorded}
    (ran :
      StepRun.run? (Recorded.step? codec fileId) ⟨start saveDir store, []⟩
          past =
        some recorded) :
    (∀ io chunk,
        Accepts codec io recorded.state chunk →
        (WritesOwnRange codec io recorded.state chunk ↔
          chunk.FillsPlace codec)) ∧
      ∀ call path,
        call.chunk.fileId = fileId →
        StepRun.Along (Recorded.step? codec fileId)
          (WantsOnlyFilling codec fileId) ⟨start saveDir store, []⟩
          (past ++ [call]) →
        (receiveChunk codec call.io recorded.state call.chunk).result =
          .ok (some path) →
        ∃ content,
          (receiveChunk codec call.io recorded.state
              call.chunk).state.store.read path = some content ∧
            content.length = call.chunk.fileSize.toNat ∧
            ∀ order,
              order.Perm
                (recorded.accepted ++
                  (acceptedPiece codec fileId recorded.state call).toList) →
              writePieces fileChunkBytes
                (List.replicate call.chunk.fileSize.toNat 0) order =
                content := by
  have sound := sound_of_recorded ran
  refine ⟨fun io chunk accepts => writesOwnRange_iff sound accepts, ?_⟩
  intro call path own wants success
  subst own
  have follows :=
    follows_of_run ran (List.prefix_append past [call]) wants
  have lastWants := wants.meets (List.prefix_refl _) ran rfl
  obtain ⟨bytes, completes, isContent⟩ :=
    (ends_receiveChunk codec call.io sound call.chunk).of_saved sound success
  have wanted := completes.writes.wanted
  have tracked := follows.tracked_arrived lastWants wanted.arrives
  have assembly := tracked.assembly_written wanted (lastWants bytes wanted)
  have isPiece :
      acceptedPiece codec call.chunk.fileId recorded.state call =
        some (call.chunk.piece bytes) := by
    rw [acceptedPiece, if_pos rfl, success, newPiece_ok wanted]
  rw [isPiece, wanted.same.2.2]
  refine ⟨_, isContent, assembly.length, ?_⟩
  intro order permuted
  exact (assembly.eq_writePieces (tracked.all_accepted sound completes)
    permuted).symm

/-- The chunks of the larger sample fill their places. -/
theorem twoPieceChunks_fillPlace
    {call : ReceiverCall}
    (member : call ∈ [firstCall, secondCall]) :
    call.chunk.FillsPlace sampleCodec := by
  rcases List.mem_cons.mp member with rfl | isSecond
  · refine ⟨by decide, by decide, ?_⟩
    intro bytes decoded
    have isPiece : bytes = firstPiece :=
      Except.ok.inj
        (decoded.symm.trans (lawful_sampleCodec.decode_encode firstPiece))
    rw [isPiece, length_firstPiece]
    decide
  · rw [List.mem_singleton.mp isSecond]
    refine ⟨by decide, by decide, ?_⟩
    intro bytes decoded
    have isPiece : bytes = [98] :=
      Except.ok.inj
        (decoded.symm.trans (lawful_sampleCodec.decode_encode [98]))
    rw [isPiece]
    decide

/-- The receiver after the second chunk. -/
def secondReceived : ReceiverState :=
  (receiveChunk sampleCodec secondCall.io (start sampleDir Store.empty)
    secondCall.chunk).state

theorem ran_secondReceived :
    StepRun.run? (Recorded.step? sampleCodec ⟨9⟩)
        ⟨start sampleDir Store.empty, []⟩ [secondCall] =
      some ⟨secondReceived, [⟨1, [98]⟩]⟩ := by
  have isOpen :
      (secondReceived.receiver.transfers.lookup ⟨9⟩).isSome = true := by
    decide +kernel
  have isPiece :
      acceptedPiece sampleCodec ⟨9⟩ (start sampleDir Store.empty)
          secondCall =
        some ⟨1, [98]⟩ := by
    decide +kernel
  change
    some
        (Recorded.mk secondReceived
          (if (secondReceived.receiver.transfers.lookup ⟨9⟩).isSome then
            [] ++
              (acceptedPiece sampleCodec ⟨9⟩ (start sampleDir Store.empty)
                secondCall).toList
          else
            [])) =
      _
  rw [if_pos isOpen, isPiece]
  rfl

/-- The first chunk is the last one that the receiver waits for. -/
theorem firstCall_saves :
    ∃ path,
      (receiveChunk sampleCodec firstCall.io secondReceived
        firstCall.chunk).result = .ok (some path) := by
  have outcome :=
    @waits_or_saves sampleCodec twoPieceFile (firstPiece ++ [98]) ⟨9⟩
      sampleDir Store.empty [secondCall] firstCall secondReceived
      lawful_sampleCodec holds_twoPieceFile (by simp) fits_twoPieceFile
      (by
        intro each member
        simp only [List.cons_append, List.nil_append, List.mem_cons,
          List.not_mem_nil, or_false] at member
        rcases member with rfl | rfl <;> rfl)
      (fun each member _ =>
        carriedBy_twoPieceFrames (by simpa [or_comm] using member))
      rfl rfl
      (not_delivered_twoPieceFrames (by
        intro call member _
        rw [List.mem_singleton.mp member]
        decide))
  rcases outcome with ⟨-, notAll⟩ | ⟨path, saves, -⟩
  · exact (notAll (delivered_twoPieceFrames (by simp) (by simp))).elim
  · exact ⟨path, saves⟩

/-- The chunks are written in place, in whatever order they are taken. -/
theorem accepted_in_place_sample :
    WritesOwnRange sampleCodec firstCall.io secondReceived
        firstCall.chunk ∧
      ∃ path content,
        (receiveChunk sampleCodec firstCall.io secondReceived
            firstCall.chunk).state.store.read path = some content ∧
          content.length = firstCall.chunk.fileSize.toNat ∧
          ∀ order,
            order.Perm [⟨1, [98]⟩, ⟨0, firstPiece⟩] →
            writePieces fileChunkBytes
              (List.replicate firstCall.chunk.fileSize.toNat 0) order =
              content := by
  have placed := accepted_in_place ran_secondReceived
  obtain ⟨path, success⟩ := firstCall_saves
  have isNew :
      (secondReceived.transferOf firstCall.chunk).received[
          firstCall.chunk.chunkIndex.toNat]? ≠ some true := by
    decide +kernel
  have isPiece :
      acceptedPiece sampleCodec ⟨9⟩ secondReceived firstCall =
        some ⟨0, firstPiece⟩ := by
    have decoded :
        sampleCodec.decode firstCall.chunk.payloadB64 = .ok firstPiece :=
      lawful_sampleCodec.decode_encode firstPiece
    have isOwn : firstCall.chunk.fileId = ⟨9⟩ := rfl
    unfold acceptedPiece newPiece
    rw [if_pos isOwn, if_neg isNew, success, decoded]
    rfl
  refine ⟨?_, path, ?_⟩
  · have accepted := placed.1 firstCall.io firstCall.chunk
    exact (accepted ⟨⟨_, success⟩, isNew⟩).mpr
      (twoPieceChunks_fillPlace (by simp))
  · obtain ⟨content, isContent, length, anyOrder⟩ :=
      placed.2 firstCall path rfl
        ⟨fun _ _ _ => twoPieceChunks_fillPlace (by simp),
          fun _ _ _ => twoPieceChunks_fillPlace (by simp), trivial⟩ success
    dsimp only at isContent
    rw [isPiece] at anyOrder
    exact ⟨content, isContent, length, anyOrder⟩

/-- The sample, announced as a file of a single byte. -/
def tooLong : ReceiverCall where
  chunk := { sampleChunk with fileSize := 1 }
  io := .success ⟨3⟩

/-- Its two bytes are accepted, and saved as a file of one byte. -/
theorem tooLong_not_in_place :
    Accepts sampleCodec tooLong.io (start sampleDir Store.empty)
        tooLong.chunk ∧
      ¬ WritesOwnRange sampleCodec tooLong.io (start sampleDir Store.empty)
        tooLong.chunk ∧
      (receiveChunk sampleCodec tooLong.io (start sampleDir Store.empty)
          tooLong.chunk).state.store.read (sampleDir.join ".._hi.txt") =
        some [104, 105] := by
  have accepts :
      Accepts sampleCodec tooLong.io (start sampleDir Store.empty)
        tooLong.chunk :=
    ⟨⟨sampleDir.join ".._hi.txt", by decide +kernel⟩, by decide +kernel⟩
  have isPayload :
      sampleCodec.decode tooLong.chunk.payloadB64 = .ok [104, 105] := by
    decide +kernel
  refine ⟨accepts, ?_, by decide +kernel⟩
  intro own
  have fills :=
    (writesOwnRange_iff (sound_start sampleDir Store.empty) accepts).mp own
  exact absurd (fills.length _ isPayload) (by decide)

end ReceiverState

end ClipboardWire
