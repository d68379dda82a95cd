import ClipboardWire.FileConfinement
import ClipboardWire.FileSender
import ClipboardWire.FixedPieces
import ClipboardWire.PlacedPieces

namespace ClipboardWire

open FileStore FixedPieces

/-!
# End-to-end file transfer

The sender cuts a file into numbered pieces; the receiver writes each piece to
its place and marks it.  The progress of a transfer is described by the set of
pieces delivered so far: what is marked and what is written.  A delivered
piece extends the set, calls about other transfers do not change it, and once
the set is complete the partial file is the file that was sent.
-/

/-- What transfers rely on in the libraries. -/
structure Codec.Lawful (codec : Codec) : Prop where
  decode_encode : ∀ bytes, codec.decode (codec.encode bytes) = .ok bytes
  encode_nil : codec.encode [] = ""
  length_sha256 : ∀ content, (codec.sha256 content).length = 32

/-- The payload of a piece is not empty. -/
theorem Codec.Lawful.encode_ne_empty
    {codec : Codec}
    (lawful : codec.Lawful)
    {bytes : List UInt8}
    (nonempty : bytes ≠ []) :
    codec.encode bytes ≠ "" := by
  intro empty
  have decoded := lawful.decode_encode bytes
  rw [empty, ← lawful.encode_nil, lawful.decode_encode,
    Except.ok.injEq] at decoded
  exact nonempty decoded.symm

/-- A hash is printed as a nonempty text. -/
theorem Codec.Lawful.fingerprint_ne_empty
    {codec : Codec}
    (lawful : codec.Lawful)
    (content : List UInt8) :
    codec.fingerprint content ≠ "" := by
  unfold Codec.fingerprint fingerprintHex
  cases digest : codec.sha256 content with
  | nil =>
      have length := lawful.length_sha256 content
      simp [digest] at length
  | cons first rest =>
      intro empty
      have lists := congrArg String.toList empty
      cases rest <;>
        simp [upperHex, List.intercalate] at lists

/-- A header announces a content that is cut into pieces. -/
structure Announces
    (codec : Codec)
    (header : FileHeader)
    (pieces : List (List UInt8)) : Prop where
  cut : Cut fileChunkBytes pieces
  count : header.totalChunks.toNat = pieces.length
  size : header.fileSize.toNat = pieces.flatten.length
  sha256 : header.fileSha256 = codec.fingerprint pieces.flatten
  nameNonempty : header.name ≠ ""
  nameNoNul : '\x00' ∉ header.name.toList

/-- A chunk carries the piece at an index, whoever is stamped on it. -/
def IsPiece
    (codec : Codec)
    (header : FileHeader)
    (pieces : List (List UInt8))
    (index : Nat)
    (chunk : FileChunkFrame) : Prop :=
  ∃ bytes,
    pieces[index]? = some bytes ∧
      { chunk with fromId := none } =
        header.chunk codec (UInt32.ofNat index) bytes

section Pieces

variable
  {codec : Codec}
  {header : FileHeader}
  {pieces : List (List UInt8)}
  {index : Nat}
  {chunk : FileChunkFrame}

private theorem IsPiece.fields
    (announces : Announces codec header pieces)
    (isPiece : IsPiece codec header pieces index chunk) :
    ∃ bytes,
      pieces[index]? = some bytes ∧
        chunk.fileId = header.fileId ∧
        chunk.name = header.name ∧
        chunk.chunkIndex.toNat = index ∧
        chunk.totalChunks = header.totalChunks ∧
        chunk.fileSha256 = header.fileSha256 ∧
        chunk.fileSize = header.fileSize ∧
        chunk.payloadB64 = codec.encode bytes := by
  rcases isPiece with ⟨bytes, found, same⟩
  simp only [FileHeader.chunk, FileChunkFrame.mk.injEq] at same
  obtain ⟨fileId, name, -, position, count, sha256, size, payload, -⟩ :=
    same
  refine ⟨bytes, found, fileId, name, ?_, count, sha256, size, payload⟩
  have bound : index < pieces.length :=
    (List.getElem?_eq_some_iff.mp found).1
  have limit := header.totalChunks.toNat_lt
  rw [position]
  exact UInt32.toNat_ofNat_of_lt' (by
    rw [← announces.count] at bound
    exact Nat.lt_trans bound limit)

/-- A chunk carries at most one piece. -/
theorem IsPiece.unique
    (announces : Announces codec header pieces)
    (isPiece : IsPiece codec header pieces index chunk)
    {other : Nat}
    (otherPiece : IsPiece codec header pieces other chunk) :
    other = index := by
  obtain ⟨-, -, -, -, position, -⟩ := isPiece.fields announces
  obtain ⟨-, -, -, -, otherPosition, -⟩ := otherPiece.fields announces
  exact otherPosition.symm.trans position

/-- A chunk that carries a piece is valid. -/
theorem IsPiece.validate
    (lawful : codec.Lawful)
    (announces : Announces codec header pieces)
    (isPiece : IsPiece codec header pieces index chunk) :
    chunk.validate = .ok () := by
  obtain ⟨bytes, found, -, name, position, count, sha256, -, payload⟩ :=
    isPiece.fields announces
  have bound : index < pieces.length :=
    (List.getElem?_eq_some_iff.mp found).1
  have nonempty : bytes ≠ [] := by
    have := (announces.cut.bounded bytes (List.mem_of_getElem? found)).1
    exact List.ne_nil_of_length_pos this
  rw [FileChunkFrame.validate_eq_ok]
  refine ⟨?_, ?_, ?_, ?_, ?_, ?_⟩
  · rw [name]
    exact announces.nameNonempty
  · rw [name]
    exact announces.nameNoNul
  · intro zero
    have none := announces.count
    rw [← count, zero, UInt32.toNat_zero] at none
    omega
  · rw [UInt32.lt_iff_toNat_lt, position, count, announces.count]
    exact bound
  · rw [payload]
    exact lawful.encode_ne_empty nonempty
  · rw [sha256, announces.sha256]
    exact lawful.fingerprint_ne_empty _

end Pieces

/-- Every system call of a call succeeds. -/
def IoAnswers.Succeeds (io : IoAnswers) : Prop :=
  io = .success io.random

namespace ReceiverState

/-- The progress of a transfer: which pieces are marked and written. -/
structure Progress
    (header : FileHeader)
    (pieces : List (List UInt8))
    (delivered : Nat → Prop)
    (state : ReceiverState)
    (transfer : Transfer) : Prop where
  found :
    state.receiver.transfers.lookup header.fileId = some transfer
  totalChunks : transfer.totalChunks = header.totalChunks
  sha256 : transfer.expectedSha256 = header.fileSha256
  size : transfer.expectedSize = header.fileSize
  marked :
    ∀ index, index < pieces.length →
      (transfer.received[index]? = some true ↔ delivered index)
  length :
    (state.store.data transfer.file.inode).length = pieces.flatten.length
  written :
    ∀ index offset bytes,
      pieces[index]? = some bytes →
      delivered index →
      offset < bytes.length →
      (state.store.data transfer.file.inode)[
          index * fileChunkBytes + offset]? =
        bytes[offset]?

section Transfers

variable
  {codec : Codec}
  {header : FileHeader}
  {pieces : List (List UInt8)}
  {delivered : Nat → Prop}
  {state : ReceiverState}
  {transfer : Transfer}
  {index : Nat}
  {chunk : FileChunkFrame}

/-- The first chunk of a transfer opens it with nothing delivered. -/
private theorem progress_opened
    (announces : Announces codec header pieces)
    (isPiece : IsPiece codec header pieces index chunk) :
    Progress header pieces (fun _ => False) (state.opened chunk)
      (state.openedTransfer chunk) := by
  obtain ⟨bytes, -, fileId, -, -, count, sha256, size, -⟩ :=
    isPiece.fields announces
  refine ⟨?_, count, sha256, size, ?_, ?_, ?_⟩
  · rw [← fileId]
    exact AList.lookup_insert _
  · intro position bound
    simp only [iff_false]
    intro isMarked
    have isFalse := List.mem_of_getElem? isMarked
    simp [openedTransfer] at isFalse
  · rw [← announces.size, ← size]
    simp [opened, openedTransfer, Store.setLen]
  · intro position offset other _ impossible
    exact impossible.elim

private theorem Progress.evolves
    {other : Uuid}
    {after : ReceiverState}
    (progress : Progress header pieces delivered state transfer)
    (evolves : Evolves other state after)
    (different : header.fileId ≠ other) :
    Progress header pieces delivered after transfer where
  found := by
    rw [evolves.others _ different]
    exact progress.found
  totalChunks := progress.totalChunks
  sha256 := progress.sha256
  size := progress.size
  marked := progress.marked
  length := by
    rw [evolves.data _ _ different progress.found]
    exact progress.length
  written := by
    rw [evolves.data _ _ different progress.found]
    exact progress.written

private theorem Progress.write
    (announces : Announces codec header pieces)
    (sound : state.Sound)
    (progress : Progress header pieces delivered state transfer)
    {bytes : List UInt8}
    (isPiece : pieces[index]? = some bytes)
    (fileId : chunk.fileId = header.fileId)
    (position : chunk.chunkIndex.toNat = index) :
    Progress header pieces (fun other => delivered other ∨ other = index)
      (writtenChunk state transfer chunk bytes)
      (transfer.mark chunk.chunkIndex.toNat) := by
  have own := sound _ _ progress.found
  have bound : index < pieces.length :=
    (List.getElem?_eq_some_iff.mp isPiece).1
  have received : transfer.received.length = pieces.length := by
    rw [own.length, progress.totalChunks, announces.count]
  have small {other : List UInt8} (member : other ∈ pieces) :
      other.length ≤ fileChunkBytes :=
    (announces.cut.bounded other member).2
  have fits :
      Piece.Fits fileChunkBytes
        (state.store.data transfer.file.inode).length ⟨index, bytes⟩ := by
    refine ⟨small (List.mem_of_getElem? isPiece), ?_⟩
    rw [progress.length]
    exact announces.cut.fits isPiece
  have data :
      (writtenChunk state transfer chunk bytes).store.data
          transfer.file.inode =
        writePiece fileChunkBytes (state.store.data transfer.file.inode)
          ⟨index, bytes⟩ := by
    rw [← position]
    exact Store.data_setContent_same _ _ _
  subst position
  refine ⟨?_, progress.totalChunks, progress.sha256, progress.size,
    ?_, ?_, ?_⟩
  · rw [← fileId]
    exact lookup_writtenChunk state transfer chunk bytes
  · intro other otherBound
    rw [Transfer.mark, List.getElem?_set]
    by_cases same : chunk.chunkIndex.toNat = other
    · simp [same, received, otherBound]
    · rw [if_neg same, progress.marked other otherBound]
      simp [Ne.symm same]
  · rw [Transfer.mark, data, length_writePiece fits]
    exact progress.length
  · intro other offset otherBytes found isDelivered inside
    rw [Transfer.mark, data]
    by_cases same : other = chunk.chunkIndex.toNat
    · subst other
      rw [isPiece, Option.some.injEq] at found
      subst otherBytes
      exact writtenIn_writePiece fits offset inside
    · have written :
          Piece.WrittenIn fileChunkBytes
            (state.store.data transfer.file.inode) ⟨other, otherBytes⟩ :=
        fun offset =>
          progress.written other offset otherBytes found
            (isDelivered.resolve_right same)
      exact written.writePiece (small (List.mem_of_getElem? found)) fits same
        offset inside

private theorem Progress.all_marked
    (announces : Announces codec header pieces)
    (sound : state.Sound)
    (progress : Progress header pieces delivered state transfer) :
    transfer.received.all id = true ↔
      ∀ index, index < pieces.length → delivered index := by
  have received : transfer.received.length = pieces.length := by
    rw [(sound _ _ progress.found).length, progress.totalChunks,
      announces.count]
  rw [List.all_eq_true]
  constructor
  · intro all position bound
    rw [← progress.marked position bound,
      List.getElem?_eq_getElem (by rw [received]; exact bound)]
    exact congrArg some (all _ (List.getElem_mem _))
  · intro all mark member
    obtain ⟨position, found⟩ := List.mem_iff_getElem?.mp member
    have bound : position < pieces.length := by
      rw [← received]
      exact (List.getElem?_eq_some_iff.mp found).1
    have isMarked :=
      (progress.marked position bound).mpr (all position bound)
    rw [found, Option.some.injEq] at isMarked
    exact isMarked

private theorem Progress.content
    (announces : Announces codec header pieces)
    (progress : Progress header pieces delivered state transfer)
    (all : ∀ index, index < pieces.length → delivered index) :
    state.store.data transfer.file.inode = pieces.flatten := by
  apply List.ext_getElem?
  intro position
  by_cases inside : position < pieces.flatten.length
  · obtain ⟨index, offset, bytes, found, bound, split⟩ :=
      announces.cut.piece_of_position inside
    have isDelivered :=
      all index (List.getElem?_eq_some_iff.mp found).1
    rw [split,
      progress.written index offset bytes found isDelivered bound,
      announces.cut.getElem?_flatten found bound]
  · rw [List.getElem?_eq_none (by rw [progress.length]; omega),
      List.getElem?_eq_none (by omega)]

/-- Everything that a call with a piece of a transfer in progress can do. -/
inductive PieceOutcome
    (header : FileHeader)
    (pieces : List (List UInt8))
    (delivered : Nat → Prop)
    (state : ReceiverState)
    (index : Nat) :
    Received → Prop where
  | ignored
      (again : delivered index) :
      PieceOutcome header pieces delivered state index
        ⟨.ok none, state⟩
  | pending
      {after : ReceiverState}
      {transfer : Transfer}
      (first : ¬ delivered index)
      (missing :
        ¬ ∀ other, other < pieces.length →
          delivered other ∨ other = index)
      (progress :
        Progress header pieces
          (fun other => delivered other ∨ other = index) after transfer) :
      PieceOutcome header pieces delivered state index
        ⟨.ok none, after⟩
  | completed
      {after : ReceiverState}
      {path : Path}
      (first : ¬ delivered index)
      (complete :
        ∀ other, other < pieces.length →
          delivered other ∨ other = index)
      (saved : after.store.read path = some pieces.flatten)
      (closed : after.receiver.transfers.lookup header.fileId = none)
      (moved :
        after.store.exists? (after.receiver.partialPath header.fileId) =
          false) :
      PieceOutcome header pieces delivered state index
        ⟨.ok (some path), after⟩

/-- With every piece delivered, the last phase saves the file. -/
private theorem completeTransfer_outcome
    {io : IoAnswers}
    (announces : Announces codec header pieces)
    (succeeds : io.Succeeds)
    (sound : state.Sound)
    (progress : Progress header pieces delivered state transfer)
    (all : ∀ index, index < pieces.length → delivered index) :
    ∃ path after,
      completeTransfer codec io state header.fileId transfer =
          ⟨.ok (some path), after⟩ ∧
        after.store.read path = some pieces.flatten ∧
        after.receiver.transfers.lookup header.fileId = none ∧
        after.store.exists? (after.receiver.partialPath header.fileId) =
          false := by
  have own := sound _ _ progress.found
  have named :
      state.store.names transfer.tempPath =
        some transfer.file.inode := by
    rw [← own.path]
    exact own.refers
  have content := progress.content announces all
  have readBack :
      state.store.read transfer.tempPath = some pieces.flatten := by
    rw [Store.read, named, Option.map_some, content]
  have verified :
      codec.fingerprint pieces.flatten = transfer.expectedSha256 := by
    rw [progress.sha256, announces.sha256]
  have elsewhere :
      transfer.tempPath ≠
        uniquePath state.store.exists? state.receiver.saveDir
          transfer.name io.random := by
    rw [← own.path]
    exact saved_place_ne_partialPath sound own.name io.random
      progress.found
  have moved := state.store.names_rename_source elsewhere
  refine
    ⟨uniquePath state.store.exists? state.receiver.saveDir
        transfer.name io.random,
      { receiver := state.receiver.dropTransfer header.fileId
        store :=
          state.store.rename transfer.tempPath
            (uniquePath state.store.exists? state.receiver.saveDir
              transfer.name io.random) },
      ?_, ?_, AList.lookup_erase _ _, ?_⟩
  · rw [completeTransfer, succeeds]
    simp only [IoAnswers.success, readBack, verified, ↓reduceIte]
  · exact Store.read_rename_target readBack
  · rw [own.tempPath] at moved
    rw [Store.exists?, own.tempPath]
    exact Option.isSome_eq_false_iff.mpr
      (Option.isNone_iff_eq_none.mpr moved)

/-- A piece that is checked against its transfer has one of the outcomes. -/
private theorem acceptChunk_outcome
    {io : IoAnswers}
    {bytes : List UInt8}
    (announces : Announces codec header pieces)
    (succeeds : io.Succeeds)
    (sound : state.Sound)
    (progress : Progress header pieces delivered state transfer)
    (isPiece : IsPiece codec header pieces index chunk)
    (payload : pieces[index]? = some bytes) :
    PieceOutcome header pieces delivered state index
      (acceptChunk codec io state transfer chunk bytes) := by
  obtain ⟨-, -, fileId, -, position, count, sha256, size, -⟩ :=
    isPiece.fields announces
  have bound : index < pieces.length :=
    (List.getElem?_eq_some_iff.mp payload).1
  have received : transfer.received.length = pieces.length := by
    rw [(sound _ _ progress.found).length, progress.totalChunks,
      announces.count]
  have metadata : SameMetadata transfer chunk :=
    ⟨count.trans progress.totalChunks.symm,
      sha256.trans progress.sha256.symm,
      size.trans progress.size.symm⟩
  have marked := progress.marked index bound
  rw [acceptChunk, if_pos metadata, position]
  cases mark : transfer.received[index]? with
  | none =>
      rw [List.getElem?_eq_none_iff] at mark
      omega
  | some isMarked =>
      cases isMarked with
      | true =>
          exact .ignored (marked.mp mark)
      | false =>
          have first : ¬ delivered index := by
            intro again
            rw [marked.mpr again] at mark
            cases mark
          have written :=
            progress.write announces sound payload fileId position
          have writtenSound :=
            (evolves_writtenChunk sound
              (by rw [fileId]; exact progress.found) bytes).sound
          have all := written.all_marked announces writtenSound
          have noFailure :
              writeChunk codec io state transfer chunk bytes =
                if (transfer.mark chunk.chunkIndex.toNat).received.all id
                then
                  completeTransfer codec io
                    (writtenChunk state transfer chunk bytes)
                    chunk.fileId (transfer.mark chunk.chunkIndex.toNat)
                else
                  ⟨.ok none, writtenChunk state transfer chunk bytes⟩ := by
            rw [writeChunk, succeeds]
            rfl
          simp only [noFailure]
          by_cases complete :
              ∀ other, other < pieces.length →
                delivered other ∨ other = index
          · rw [if_pos (all.mpr complete), fileId]
            obtain ⟨path, after, result, saved, closed, moved⟩ :=
              completeTransfer_outcome announces succeeds writtenSound
                written complete
            rw [result]
            exact .completed first complete saved closed moved
          · rw [if_neg (fun isAll => complete (all.mp isAll))]
            exact .pending first complete written

/-- The receiver knows exactly the pieces delivered so far. -/
def Tracks
    (header : FileHeader)
    (pieces : List (List UInt8))
    (delivered : Nat → Prop)
    (state : ReceiverState) : Prop :=
  (state.receiver.transfers.lookup header.fileId = none ∧
      ∀ index, ¬ delivered index) ∨
    ∃ transfer, Progress header pieces delivered state transfer

/-- A call with a piece of a tracked transfer has one of the outcomes. -/
theorem receiveChunk_outcome
    {io : IoAnswers}
    (lawful : codec.Lawful)
    (announces : Announces codec header pieces)
    (succeeds : io.Succeeds)
    (sound : state.Sound)
    (tracks : Tracks header pieces delivered state)
    (isPiece : IsPiece codec header pieces index chunk) :
    PieceOutcome header pieces delivered state index
      (receiveChunk codec io state chunk) := by
  obtain ⟨bytes, payload, fileId, -, -, -, -, -, encoded⟩ :=
    isPiece.fields announces
  have decoded : codec.decode chunk.payloadB64 = .ok bytes := by
    rw [encoded]
    exact lawful.decode_encode bytes
  simp only [receiveChunk, isPiece.validate lawful announces, decoded]
  rcases tracks with ⟨absent, nothing⟩ | ⟨transfer, progress⟩
  · rw [← fileId] at absent
    have opens :
        openTransfer io state chunk = (.ok (), state.opened chunk) := by
      rw [openTransfer, succeeds]
      simp only [absent, Option.isSome_none, Bool.false_eq_true,
        ↓reduceIte, IoAnswers.success]
      rfl
    have empty : (fun _ => False) = delivered := by
      funext position
      exact propext ⟨False.elim, nothing position⟩
    have recorded :
        (state.opened chunk).receiver.transfers.lookup chunk.fileId =
          some (state.openedTransfer chunk) :=
      AList.lookup_insert _
    have outcome :=
      acceptChunk_outcome announces succeeds
        (evolves_opened sound absent).sound
        (progress_opened announces isPiece) isPiece payload
    rw [empty] at outcome
    simp only [opens, recorded]
    generalize acceptChunk codec io (state.opened chunk)
      (state.openedTransfer chunk) chunk bytes = result at outcome
    cases outcome with
    | ignored again =>
        exact (nothing index again).elim
    | pending first missing progress =>
        exact .pending first missing progress
    | completed first complete saved closed moved =>
        exact .completed first complete saved closed moved
  · have found := progress.found
    rw [← fileId] at found
    simp only [openTransfer_of_isSome io found, found]
    exact acceptChunk_outcome announces succeeds sound progress isPiece
      payload

/-- Calls about other transfers keep a transfer tracked. -/
theorem Tracks.evolves
    {other : Uuid}
    {after : ReceiverState}
    (tracks : Tracks header pieces delivered state)
    (evolves : Evolves other state after)
    (different : header.fileId ≠ other) :
    Tracks header pieces delivered after := by
  rcases tracks with ⟨absent, nothing⟩ | ⟨transfer, progress⟩
  · refine .inl ⟨?_, nothing⟩
    rw [evolves.others _ different]
    exact absent
  · exact .inr ⟨transfer, progress.evolves evolves different⟩

/-- A piece has been delivered by one of the calls. -/
def DeliveredIn
    (codec : Codec)
    (header : FileHeader)
    (pieces : List (List UInt8))
    (calls : List ReceiverCall)
    (index : Nat) : Prop :=
  ∃ call ∈ calls, IsPiece codec header pieces index call.chunk

theorem deliveredIn_snoc
    (announces : Announces codec header pieces)
    (past : List ReceiverCall)
    {call : ReceiverCall}
    (isPiece : IsPiece codec header pieces index call.chunk) :
    DeliveredIn codec header pieces (past ++ [call]) =
      fun other =>
        DeliveredIn codec header pieces past other ∨ other = index := by
  funext other
  apply propext
  constructor
  · rintro ⟨earlier, member, carries⟩
    rcases List.mem_append.mp member with inPast | isLast
    · exact .inl ⟨earlier, inPast, carries⟩
    · rw [List.mem_singleton] at isLast
      subst earlier
      exact .inr (isPiece.unique announces carries)
  · rintro (⟨earlier, member, carries⟩ | rfl)
    · exact ⟨earlier, List.mem_append_left _ member, carries⟩
    · exact ⟨call, List.mem_append_right _ (List.mem_singleton_self call),
        isPiece⟩

/-- A call about another transfer delivers nothing of this one. -/
theorem deliveredIn_snoc_other
    {past : List ReceiverCall}
    {call : ReceiverCall}
    (different : call.chunk.fileId ≠ header.fileId) :
    DeliveredIn codec header pieces (past ++ [call]) =
      DeliveredIn codec header pieces past := by
  funext other
  apply propext
  constructor
  · rintro ⟨earlier, member, carries⟩
    rcases List.mem_append.mp member with inPast | isLast
    · exact ⟨earlier, inPast, carries⟩
    · rw [List.mem_singleton] at isLast
      subst earlier
      rcases carries with ⟨bytes, -, same⟩
      simp only [FileHeader.chunk, FileChunkFrame.mk.injEq] at same
      exact (different same.1).elim
  · rintro ⟨earlier, member, carries⟩
    exact ⟨earlier, List.mem_append_left _ member, carries⟩

/-- Every piece has been delivered by one of the calls. -/
def AllDelivered
    (codec : Codec)
    (header : FileHeader)
    (pieces : List (List UInt8))
    (calls : List ReceiverCall) : Prop :=
  ∀ index, index < pieces.length →
    DeliveredIn codec header pieces calls index

/-- What is delivered stays delivered. -/
theorem AllDelivered.snoc
    {past : List ReceiverCall}
    (all : AllDelivered codec header pieces past)
    (call : ReceiverCall) :
    AllDelivered codec header pieces (past ++ [call]) := by
  intro position bound
  obtain ⟨earlier, member, carries⟩ := all position bound
  exact ⟨earlier, List.mem_append_left _ member, carries⟩

theorem tracks_of_run
    {saveDir : Path}
    {store : Store Path}
    {calls : List ReceiverCall}
    (lawful : codec.Lawful)
    (announces : Announces codec header pieces)
    (succeed : ∀ call ∈ calls, call.io.Succeeds)
    (own :
      ∀ call ∈ calls,
        call.chunk.fileId = header.fileId →
        ∃ index, IsPiece codec header pieces index call.chunk)
    (ran :
      StepRun.run? (step? codec) (start saveDir store) calls = some state)
    (missing : ¬ AllDelivered codec header pieces calls) :
    Tracks header pieces (DeliveredIn codec header pieces calls) state := by
  have tracks :
      ¬ AllDelivered codec header pieces calls →
        Tracks header pieces
          (DeliveredIn codec header pieces calls) state := by
    refine StepRun.run?_history
      (motive := fun past reached =>
        ¬ AllDelivered codec header pieces past →
          Tracks header pieces
            (DeliveredIn codec header pieces past) reached)
      ?_ ?_ ran
    · intro _
      refine .inl ⟨rfl, ?_⟩
      rintro position ⟨call, member, -⟩
      cases member
    · intro past reached call next within earlier holds stepped stillMissing
      have before :=
        holds (fun all => stillMissing (all.snoc call))
      have member : call ∈ calls :=
        within.subset (List.mem_append_right past
          (List.mem_singleton_self call))
      have sound := (confined_of_run earlier).sound
      simp only [step?, Option.some.injEq] at stepped
      subst next
      by_cases isOwn : call.chunk.fileId = header.fileId
      · obtain ⟨position, isPiece⟩ := own call member isOwn
        have outcome :=
          receiveChunk_outcome lawful announces (succeed call member)
            sound before isPiece
        have extended :=
          deliveredIn_snoc announces past isPiece
        rw [extended]
        generalize receiveChunk codec call.io reached call.chunk = result
          at outcome
        cases outcome with
        | ignored again =>
            have same :
                (fun other =>
                    DeliveredIn codec header pieces past other ∨
                      other = position) =
                  DeliveredIn codec header pieces past := by
              funext other
              apply propext
              constructor
              · rintro (before | rfl)
                · exact before
                · exact again
              · exact .inl
            rw [same]
            exact before
        | pending first missing progress =>
            exact .inr ⟨_, progress⟩
        | completed first complete saved closed moved =>
            refine (stillMissing ?_).elim
            intro other bound
            rw [extended]
            exact complete other bound
      · rw [deliveredIn_snoc_other isOwn]
        exact before.evolves
          (receives_receiveChunk codec call.io sound call.chunk).evolves
          (Ne.symm isOwn)
  exact tracks missing

end Transfers

end ReceiverState

/-- The file system shows one and the same content in full reads. -/
structure SourceFile.Holds
    (file : SourceFile)
    (content : List UInt8) : Prop where
  fileName :
    ∃ name,
      file.fileName = some name ∧ name ≠ "" ∧ '\x00' ∉ name.toList
  size : ∃ size, file.size = .ok size ∧ size.toNat = content.length
  hashed : file.hashed = .ok content
  opened : file.openError = none
  reads : file.reads.flatten = content
  cut : Cut fileChunkBytes file.reads
  complete : file.readError = none

/-- A file that holds a content is sent as the pieces of that content. -/
theorem sendFileThrough_eq
    (codec : Codec)
    (fileId : Uuid)
    {file : SourceFile}
    {content : List UInt8}
    (source : file.Holds content)
    (nonempty : content ≠ [])
    (countFits : chunkCount content.length ≤ maxU32) :
    ∃ header,
      Announces codec header file.reads ∧
        header.fileId = fileId ∧
        sendFileThrough codec fileId file =
          { frames :=
              file.reads.mapIdx fun index bytes =>
                header.chunk codec (UInt32.ofNat index) bytes
            result := .ok () } := by
  obtain ⟨name, isName, nameNonempty, nameNoNul⟩ := source.fileName
  obtain ⟨size, isSize, sameSize⟩ := source.size
  have length := source.reads ▸ source.cut.length_eq (by decide)
  have notZero : size ≠ 0 := by
    intro zero
    rw [zero, UInt64.toNat_zero] at sameSize
    exact nonempty (List.length_eq_zero_iff.mp sameSize.symm)
  have count :
      (UInt32.ofNat (chunkCount size.toNat)).toNat = file.reads.length := by
    rw [sameSize, ← length]
    exact UInt32.toNat_ofNat_of_lt'
      (Nat.lt_of_le_of_lt countFits (by decide))
  refine ⟨headerFor codec fileId name size content, ?_, rfl, ?_⟩
  · exact
      { cut := source.cut
        count := count
        size := by
          rw [source.reads]
          exact sameSize
        sha256 := by
          rw [source.reads]
          rfl
        nameNonempty := nameNonempty
        nameNoNul := nameNoNul }
  · have allPieces : ∀ bytes ∈ file.reads, bytes ≠ [] :=
      fun bytes member =>
        List.ne_nil_of_length_pos (source.cut.bounded bytes member).1
    exact sendFileThrough_of_shown codec fileId isName isSize source.hashed
      source.opened source.complete notZero (sameSize ▸ countFits) allPieces

/-- A chunk is one of the sent frames, whoever is stamped on it. -/
def CarriedBy
    (frames : List FileChunkFrame)
    (chunk : FileChunkFrame) : Prop :=
  { chunk with fromId := none } ∈ frames

/-- Every sent frame has been delivered by one of the calls. -/
def Delivered
    (frames : List FileChunkFrame)
    (calls : List ReceiverCall) : Prop :=
  ∀ frame ∈ frames,
    ∃ call ∈ calls, { call.chunk with fromId := none } = frame

instance (frames : List FileChunkFrame) (chunk : FileChunkFrame) :
    Decidable (CarriedBy frames chunk) :=
  inferInstanceAs (Decidable (_ ∈ frames))

instance (frames : List FileChunkFrame) (calls : List ReceiverCall) :
    Decidable (Delivered frames calls) :=
  inferInstanceAs (Decidable (∀ frame ∈ frames, _))

/-- The sent frames are the pieces, in order. -/
theorem carriedBy_iff
    {codec : Codec}
    {header : FileHeader}
    {pieces : List (List UInt8)}
    {chunk : FileChunkFrame} :
    CarriedBy
        (pieces.mapIdx fun index bytes =>
          header.chunk codec (UInt32.ofNat index) bytes) chunk ↔
      ∃ index, IsPiece codec header pieces index chunk := by
  rw [CarriedBy, List.mem_mapIdx]
  constructor
  · rintro ⟨index, bound, same⟩
    exact ⟨index, pieces[index], List.getElem?_eq_getElem bound, same.symm⟩
  · rintro ⟨index, bytes, found, same⟩
    obtain ⟨bound, isBytes⟩ := List.getElem?_eq_some_iff.mp found
    refine ⟨index, bound, ?_⟩
    rw [isBytes]
    exact same.symm

/-- All frames are delivered when all pieces are. -/
theorem delivered_iff
    {codec : Codec}
    {header : FileHeader}
    {pieces : List (List UInt8)}
    {calls : List ReceiverCall} :
    Delivered
        (pieces.mapIdx fun index bytes =>
          header.chunk codec (UInt32.ofNat index) bytes) calls ↔
      ReceiverState.AllDelivered codec header pieces calls := by
  constructor
  · intro delivered index bound
    have member :
        header.chunk codec (UInt32.ofNat index) pieces[index] ∈
          pieces.mapIdx fun position bytes =>
            header.chunk codec (UInt32.ofNat position) bytes :=
      List.mem_mapIdx.mpr ⟨index, bound, rfl⟩
    obtain ⟨call, isCall, same⟩ := delivered _ member
    exact ⟨call, isCall, pieces[index],
      List.getElem?_eq_getElem bound, same⟩
  · intro all frame member
    obtain ⟨index, bound, isFrame⟩ := List.mem_mapIdx.mp member
    obtain ⟨call, isCall, bytes, found, same⟩ := all index bound
    rw [List.getElem?_eq_getElem bound, Option.some.injEq] at found
    refine ⟨call, isCall, same.trans ?_⟩
    rw [← isFrame, found]

namespace ReceiverState

/--
What a call with a chunk of a file comes to while a chunk is missing: it waits
for the others, or it is the last one and saves the file.
-/
theorem waits_or_saves
    {codec : Codec}
    {file : SourceFile}
    {content : List UInt8}
    {fileId : Uuid}
    {saveDir : Path}
    {store : Store Path}
    {past : List ReceiverCall}
    {call : ReceiverCall}
    {state : ReceiverState}
    (lawful : codec.Lawful)
    (source : file.Holds content)
    (nonempty : content ≠ [])
    (countFits : chunkCount content.length ≤ maxU32)
    (succeed : ∀ each ∈ past ++ [call], each.io.Succeeds)
    (own :
      ∀ each ∈ past ++ [call],
        each.chunk.fileId = fileId →
        CarriedBy (sendFileThrough codec fileId file).frames each.chunk)
    (isOwn : call.chunk.fileId = fileId)
    (ran :
      StepRun.run? (step? codec) (start saveDir store) past = some state)
    (missing :
      ¬ Delivered (sendFileThrough codec fileId file).frames past) :
    ((receiveChunk codec call.io state call.chunk).result = .ok none ∧
        ¬ Delivered (sendFileThrough codec fileId file).frames
            (past ++ [call])) ∨
      ∃ path,
        (receiveChunk codec call.io state call.chunk).result =
            .ok (some path) ∧
          (receiveChunk codec call.io state call.chunk).state.store.read
              path = some content ∧
          Delivered (sendFileThrough codec fileId file).frames
            (past ++ [call]) := by
  obtain ⟨header, announces, isFile, sent⟩ :=
    sendFileThrough_eq codec fileId source nonempty countFits
  subst isFile
  simp only [sent, delivered_iff, carriedBy_iff] at own missing ⊢
  have last : call ∈ past ++ [call] :=
    List.mem_append_right past (List.mem_singleton_self call)
  obtain ⟨index, isPiece⟩ := own call last isOwn
  have tracks :=
    tracks_of_run lawful announces
      (fun each member => succeed each (List.mem_append_left _ member))
      (fun each member => own each (List.mem_append_left _ member))
      ran missing
  have outcome :=
    receiveChunk_outcome lawful announces (succeed call last)
      (confined_of_run ran).sound tracks isPiece
  have extended := deliveredIn_snoc announces past isPiece
  simp only [AllDelivered, extended]
  generalize receiveChunk codec call.io state call.chunk = result
    at outcome
  cases outcome with
  | ignored again =>
      refine .inl ⟨rfl, fun all => missing fun position bound => ?_⟩
      rcases all position bound with before | rfl
      · exact before
      · exact again
  | pending first stillMissing progress =>
      exact .inl ⟨rfl, stillMissing⟩
  | completed first complete saved closed moved =>
      exact .inr ⟨_, rfl, source.reads ▸ saved, complete⟩

/--
End-to-end file transfer.  A nonempty file whose chunk count fits is sent
without error.  Deliver its chunks in any order and with any repetition,
between the chunks of other transfers: as long as one is missing, every call
with a chunk of the file returns `Ok(None)`; the call with the last missing
one saves the file byte for byte.
-/
theorem transfer_end_to_end
    {codec : Codec}
    {file : SourceFile}
    {content : List UInt8}
    {fileId : Uuid}
    {saveDir : Path}
    {store : Store Path}
    {past : List ReceiverCall}
    {call : ReceiverCall}
    {state : ReceiverState}
    (lawful : codec.Lawful)
    (source : file.Holds content)
    (nonempty : content ≠ [])
    (countFits : chunkCount content.length ≤ maxU32)
    (succeed : ∀ each ∈ past ++ [call], each.io.Succeeds)
    (own :
      ∀ each ∈ past ++ [call],
        each.chunk.fileId = fileId →
        CarriedBy (sendFileThrough codec fileId file).frames each.chunk)
    (isOwn : call.chunk.fileId = fileId)
    (ran :
      StepRun.run? (step? codec) (start saveDir store) past = some state)
    (missing :
      ¬ Delivered (sendFileThrough codec fileId file).frames past) :
    (sendFileThrough codec fileId file).result = .ok () ∧
      (¬ Delivered (sendFileThrough codec fileId file).frames
            (past ++ [call]) →
        (receiveChunk codec call.io state call.chunk).result =
          .ok none) ∧
      (Delivered (sendFileThrough codec fileId file).frames
            (past ++ [call]) →
        ∃ path,
          (receiveChunk codec call.io state call.chunk).result =
              .ok (some path) ∧
            (receiveChunk codec call.io state
                call.chunk).state.store.read path =
              some content) := by
  obtain ⟨header, -, -, sent⟩ :=
    sendFileThrough_eq codec fileId source nonempty countFits
  refine ⟨by rw [sent], ?_⟩
  rcases waits_or_saves lawful source nonempty countFits succeed own isOwn
      ran missing with ⟨waits, notAll⟩ | ⟨path, saves, saved, all⟩
  · exact ⟨fun _ => waits, fun all => (notAll all).elim⟩
  · exact ⟨fun notAll => (notAll all).elim,
      fun _ => ⟨path, saves, saved⟩⟩

/-- A file of two bytes that is read in one go. -/
def sampleFile : SourceFile where
  display := "/tmp/hi.txt"
  fileName := some "hi.txt"
  size := .ok 2
  hashed := .ok [104, 105]
  openError := none
  reads := [[104, 105]]
  readError := none

/-- The codec of the sample is lawful. -/
theorem lawful_sampleCodec : sampleCodec.Lawful where
  decode_encode := Base64.decode_encode
  encode_nil := by decide
  length_sha256 := fun _ => rfl

/-- The frames that the file of the sample is sent as. -/
def sampleFrames : List FileChunkFrame :=
  (sendFileThrough sampleCodec ⟨9⟩ sampleFile).frames

/-- A call with a frame of the sample, as the hub relays it. -/
def relayedCall (frame : FileChunkFrame) : ReceiverCall where
  chunk := { frame with fromId := some ⟨1⟩ }
  io := .success ⟨3⟩

/-- The only chunk of the sample, relayed by the hub. -/
def lastCall : ReceiverCall :=
  relayedCall (sampleFrames.head (by decide))

/-- A piece that fills a chunk. -/
def firstPiece : List UInt8 :=
  List.replicate fileChunkBytes 97

/-- A file that takes two chunks. -/
def twoPieceFile : SourceFile where
  display := "/tmp/big.txt"
  fileName := some "big.txt"
  size := .ok 4194305
  hashed := .ok (firstPiece ++ [98])
  openError := none
  reads := [firstPiece, [98]]
  readError := none

theorem length_firstPiece : firstPiece.length = fileChunkBytes :=
  List.length_replicate

theorem holds_twoPieceFile : twoPieceFile.Holds (firstPiece ++ [98]) where
  fileName := ⟨"big.txt", rfl, by decide, by decide⟩
  size := by
    refine ⟨4194305, rfl, ?_⟩
    rw [List.length_append, length_firstPiece]
    rfl
  hashed := rfl
  opened := rfl
  reads := rfl
  cut := by
    constructor
    · intro bytes member
      rw [List.mem_singleton.mp member]
      exact length_firstPiece
    · intro bytes member
      rcases List.mem_cons.mp member with rfl | isLast
      · rw [length_firstPiece]
        decide
      · rw [List.mem_singleton.mp isLast]
        decide
  complete := rfl

theorem fits_twoPieceFile :
    chunkCount (firstPiece ++ [98]).length ≤ maxU32 := by
  rw [List.length_append, length_firstPiece]
  decide

/-- The header of its chunks. -/
def twoPieceHeader : FileHeader :=
  headerFor sampleCodec ⟨9⟩ "big.txt" 4194305 (firstPiece ++ [98])

/-- The frames that it is sent as. -/
def twoPieceFrames : List FileChunkFrame :=
  (sendFileThrough sampleCodec ⟨9⟩ twoPieceFile).frames

/-- A call with its first chunk, as the hub relays it. -/
def firstCall : ReceiverCall :=
  relayedCall (twoPieceHeader.chunk sampleCodec 0 firstPiece)

/-- A call with its second chunk. -/
def secondCall : ReceiverCall :=
  relayedCall (twoPieceHeader.chunk sampleCodec 1 [98])

theorem twoPieceFrames_eq :
    twoPieceFrames =
      [twoPieceHeader.chunk sampleCodec 0 firstPiece,
        twoPieceHeader.chunk sampleCodec 1 [98]] := by
  have isFirst : firstPiece ≠ [] := by
    intro empty
    have length := length_firstPiece
    rw [empty] at length
    exact absurd length (by decide)
  have sent :=
    @sendFileThrough_of_shown sampleCodec ⟨9⟩ twoPieceFile "big.txt" 4194305
      (firstPiece ++ [98]) rfl rfl rfl rfl rfl (by decide) (by decide) (by
        intro bytes member
        rcases List.mem_cons.mp member with rfl | isLast
        · exact isFirst
        · rw [List.mem_singleton.mp isLast]
          decide)
  rw [twoPieceFrames, sent]
  rfl

/-- The chunks of the file are carried by the frames that were sent. -/
theorem carriedBy_twoPieceFrames
    {call : ReceiverCall}
    (member : call ∈ [firstCall, secondCall]) :
    CarriedBy twoPieceFrames call.chunk := by
  rw [CarriedBy, twoPieceFrames_eq]
  rcases List.mem_cons.mp member with rfl | isSecond
  · exact List.mem_cons_self
  · rw [List.mem_singleton.mp isSecond]
    exact List.mem_cons_of_mem _ List.mem_cons_self

/-- Without its first chunk the file is not delivered. -/
theorem not_delivered_twoPieceFrames
    {calls : List ReceiverCall}
    (later :
      ∀ call ∈ calls,
        call.chunk.fileId = ⟨9⟩ → call.chunk.chunkIndex ≠ 0) :
    ¬ Delivered twoPieceFrames calls := by
  intro delivered
  obtain ⟨call, member, same⟩ :=
    delivered _ (by rw [twoPieceFrames_eq]; exact List.mem_cons_self)
  have isOwn : call.chunk.fileId = ⟨9⟩ :=
    congrArg FileChunkFrame.fileId same
  exact later call member isOwn (congrArg FileChunkFrame.chunkIndex same)

/-- With both chunks it is. -/
theorem delivered_twoPieceFrames
    {calls : List ReceiverCall}
    (first : firstCall ∈ calls)
    (second : secondCall ∈ calls) :
    Delivered twoPieceFrames calls := by
  intro frame member
  rw [twoPieceFrames_eq] at member
  rcases List.mem_cons.mp member with rfl | isSecond
  · exact ⟨firstCall, first, rfl⟩
  · rw [List.mem_singleton.mp isSecond]
    exact ⟨secondCall, second, rfl⟩

/-- The calls before the first chunk comes. -/
def outOfOrder : List ReceiverCall :=
  [sampleCall, secondCall, secondCall]

/-- The receiver after them. -/
def busyReceiver : ReceiverState :=
  (receiveChunk sampleCodec secondCall.io
    (receiveChunk sampleCodec secondCall.io
      (receiveChunk sampleCodec sampleCall.io
        (start sampleDir Store.empty) sampleCall.chunk).state
      secondCall.chunk).state
    secondCall.chunk).state

theorem ran_outOfOrder :
    StepRun.run? (step? sampleCodec) (start sampleDir Store.empty)
        outOfOrder =
      some busyReceiver := by
  rfl

/--
The file of the sample is sent, and saved when its chunks arrive in the wrong
order, one of them twice, after a chunk of another file.
-/
theorem transfer_end_to_end_sample :
    (sendFileThrough sampleCodec ⟨9⟩ twoPieceFile).result = .ok () ∧
      ∃ path,
        (receiveChunk sampleCodec firstCall.io busyReceiver
            firstCall.chunk).result = .ok (some path) ∧
          (receiveChunk sampleCodec firstCall.io busyReceiver
              firstCall.chunk).state.store.read path =
            some (firstPiece ++ [98]) := by
  have transferred :=
    @transfer_end_to_end sampleCodec twoPieceFile (firstPiece ++ [98]) ⟨9⟩
      sampleDir Store.empty outOfOrder firstCall busyReceiver
      lawful_sampleCodec holds_twoPieceFile (by simp) fits_twoPieceFile
      (by
        intro each member
        simp only [outOfOrder, List.cons_append, List.nil_append,
          List.mem_cons, List.not_mem_nil, or_false] at member
        rcases member with rfl | rfl | rfl | rfl <;> rfl)
      (by
        intro each member isOwn
        simp only [outOfOrder, List.cons_append, List.nil_append,
          List.mem_cons, List.not_mem_nil, or_false] at member
        rcases member with rfl | rfl | rfl | rfl
        · cases isOwn
        · exact carriedBy_twoPieceFrames (by simp)
        · exact carriedBy_twoPieceFrames (by simp)
        · exact carriedBy_twoPieceFrames (by simp))
      rfl ran_outOfOrder
      (not_delivered_twoPieceFrames (by
        intro call member isOwn
        simp only [outOfOrder, List.mem_cons, List.not_mem_nil,
          or_false] at member
        rcases member with rfl | rfl | rfl
        · cases isOwn
        · decide
        · decide))
  exact ⟨transferred.1,
    transferred.2.2
      (delivered_twoPieceFrames (by simp) (by simp [outOfOrder]))⟩

end ReceiverState

end ClipboardWire
