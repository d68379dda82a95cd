import ClipboardWire.FileRanges
import ClipboardWire.FileTransfer

namespace ClipboardWire

open FileStore FixedPieces

/-!
# Files that are read in pieces of any length

A read may return fewer bytes than asked for.  The sending loop makes one chunk
of every read, whatever its length, while the number of chunks and the place of
each chunk go by the full chunk size.  The chunks rebuild the file exactly if
every read but the last is full.
-/

/-- The file system shows one and the same content, in reads of any length. -/
structure SourceFile.Splits
    (file : SourceFile)
    (content : List UInt8) : Prop where
  fileName :
    ∃ name,
      file.fileName = some name ∧ name ≠ "" ∧ '\x00' ∉ name.toList
  size : ∃ size, file.size = .ok size ∧ size.toNat = content.length
  hashed : file.hashed = .ok content
  opened : file.openError = none
  reads : file.reads.flatten = content
  bounded :
    ∀ bytes ∈ file.reads,
      0 < bytes.length ∧ bytes.length ≤ fileChunkBytes
  complete : file.readError = none

/-- The payload of a chunk, and the number of the place that it goes to. -/
def FileChunkFrame.placedPiece?
    (codec : Codec)
    (chunk : FileChunkFrame) :
    Option Piece :=
  match codec.decode chunk.payloadB64 with
  | .ok bytes => some (chunk.piece bytes)
  | .error _ => none

/--
The frames are numbered from zero to one less than their announced number, they
are valid, and their payloads written to their places give the content.
-/
structure SentFile.Rebuilds
    (codec : Codec)
    (content : List UInt8)
    (sent : SentFile) : Prop where
  numbered :
    sent.frames.map (fun frame => frame.chunkIndex.toNat) =
      List.range sent.frames.length
  counted :
    ∀ frame ∈ sent.frames, frame.totalChunks.toNat = sent.frames.length
  valid : ∀ frame ∈ sent.frames, frame.validate = .ok ()
  rebuilt :
    ∃ pieces,
      sent.frames.map (FileChunkFrame.placedPiece? codec) =
          pieces.map some ∧
        writePieces fileChunkBytes [] pieces = content

/-- Every read but the last returns as many bytes as a chunk may have. -/
def SourceFile.ReadsFull (file : SourceFile) : Prop :=
  ∀ bytes ∈ file.reads.dropLast, bytes.length = fileChunkBytes

instance (file : SourceFile) : Decidable file.ReadsFull :=
  inferInstanceAs (Decidable (∀ bytes ∈ file.reads.dropLast, _))

section Frames

variable {codec : Codec} {fileId : Uuid} {file : SourceFile}
  {content : List UInt8}

/-- A file that is sent is not empty, and its chunks can be counted. -/
theorem SourceFile.Splits.of_sent
    (splits : file.Splits content)
    (sent : (sendFileThrough codec fileId file).result = .ok ()) :
    content ≠ [] ∧ chunkCount content.length ≤ maxU32 := by
  obtain ⟨name, isName, -, -⟩ := splits.fileName
  obtain ⟨size, isSize, sameSize⟩ := splits.size
  unfold sendFileThrough at sent
  simp only [isName, isSize] at sent
  split_ifs at sent with empty tooLarge
  refine ⟨?_, ?_⟩
  · rintro rfl
    exact empty (UInt64.toNat_inj.mp sameSize)
  · rw [← sameSize]
    exact Nat.not_lt.mp tooLarge

/-- The frames of a file are its reads, numbered in order. -/
theorem SourceFile.Splits.frames
    (splits : file.Splits content)
    (sent : (sendFileThrough codec fileId file).result = .ok ()) :
    ∃ header : FileHeader,
      (sendFileThrough codec fileId file).frames =
        file.reads.mapIdx fun index bytes =>
          header.chunk codec (UInt32.ofNat index) bytes := by
  obtain ⟨name, isName, -, -⟩ := splits.fileName
  obtain ⟨size, isSize, sameSize⟩ := splits.size
  obtain ⟨nonempty, countFits⟩ := splits.of_sent sent
  have notZero : size ≠ 0 := by
    rintro rfl
    exact nonempty (List.length_eq_zero_iff.mp sameSize.symm)
  have allPieces : ∀ bytes ∈ file.reads, bytes ≠ [] :=
    fun bytes member =>
      List.ne_nil_of_length_pos (splits.bounded bytes member).1
  refine ⟨headerFor codec fileId name size content, ?_⟩
  rw [sendFileThrough_of_shown codec fileId isName isSize splits.hashed
    splits.opened splits.complete notZero (sameSize ▸ countFits) allPieces]

/-- The numbers of the frames of some reads. -/
theorem chunkIndex_mapIdx
    (codec : Codec)
    (header : FileHeader)
    (reads : List (List UInt8)) :
    (reads.mapIdx fun index bytes =>
          header.chunk codec (UInt32.ofNat index) bytes).map
        (fun frame => frame.chunkIndex.toNat) =
      reads.mapIdx fun index _ => (UInt32.ofNat index).toNat := by
  apply List.ext_getElem
  · simp
  · intro index _ _
    simp [FileHeader.chunk]

/-- The payloads of the frames of some reads, with their numbers. -/
theorem placedPiece?_mapIdx
    (lawful : codec.Lawful)
    (header : FileHeader)
    (reads : List (List UInt8)) :
    (reads.mapIdx fun index bytes =>
          header.chunk codec (UInt32.ofNat index) bytes).map
        (FileChunkFrame.placedPiece? codec) =
      (reads.mapIdx fun index bytes =>
        Piece.mk (UInt32.ofNat index).toNat bytes).map some := by
  apply List.ext_getElem
  · simp
  · intro index _ _
    simp [FileChunkFrame.placedPiece?, FileHeader.chunk, lawful.decode_encode,
      FileChunkFrame.piece]

/-- Frames that are numbered in order carry the numbered reads. -/
theorem pieces_eq_numbered
    {reads : List (List UInt8)}
    (inOrder :
      (reads.mapIdx fun index _ => (UInt32.ofNat index).toNat) =
        List.range reads.length) :
    (reads.mapIdx fun index bytes =>
        Piece.mk (UInt32.ofNat index).toNat bytes) =
      numbered reads := by
  apply List.ext_getElem
  · simp [numbered]
  · intro index bound _
    have inside : index < reads.length := by
      simpa using bound
    have atIndex :=
      List.getElem_of_eq inOrder (i := index) (by simpa using inside)
    simp only [List.getElem_mapIdx, List.getElem_range] at atIndex
    simp only [numbered, List.getElem_mapIdx, atIndex]

/-- A faithful file is sent in chunks that are numbered, counted and valid. -/
theorem rebuilds_of_readsFull
    (lawful : codec.Lawful)
    (splits : file.Splits content)
    (sent : (sendFileThrough codec fileId file).result = .ok ())
    (full : file.ReadsFull) :
    (sendFileThrough codec fileId file).Rebuilds codec content := by
  obtain ⟨nonempty, countFits⟩ := splits.of_sent sent
  have source : file.Holds content :=
    { fileName := splits.fileName
      size := splits.size
      hashed := splits.hashed
      opened := splits.opened
      reads := splits.reads
      cut := ⟨full, splits.bounded⟩
      complete := splits.complete }
  obtain ⟨header, announces, -, isSent⟩ :=
    sendFileThrough_eq codec fileId source nonempty countFits
  have count := source.cut.length_eq (by decide)
  rw [source.reads] at count
  have inOrder :
      (file.reads.mapIdx fun index _ => (UInt32.ofNat index).toNat) =
        List.range file.reads.length := by
    apply List.ext_getElem
    · simp
    · intro index bound _
      rw [List.length_mapIdx] at bound
      rw [List.getElem_mapIdx, List.getElem_range]
      refine UInt32.toNat_ofNat_of_lt' (Nat.lt_trans bound ?_)
      rw [← count]
      exact Nat.lt_of_le_of_lt countFits (by decide)
  rw [isSent]
  refine ⟨?_, ?_, ?_, ?_⟩
  · rw [chunkIndex_mapIdx, List.length_mapIdx, inOrder]
  · intro frame member
    obtain ⟨index, bound, rfl⟩ := List.mem_mapIdx.mp member
    rw [List.length_mapIdx]
    exact announces.count
  · intro frame member
    obtain ⟨index, bound, rfl⟩ := List.mem_mapIdx.mp member
    exact IsPiece.validate lawful announces
      ⟨_, List.getElem?_eq_getElem bound, rfl⟩
  · refine ⟨_, placedPiece?_mapIdx lawful header file.reads, ?_⟩
    rw [pieces_eq_numbered inOrder, ← splits.reads]
    exact (writePieces_numbered_iff fun bytes member =>
      (splits.bounded bytes member).2).mpr full

/-- Numbered chunks that rebuild a file come from full reads. -/
theorem readsFull_of_rebuilds
    (lawful : codec.Lawful)
    (splits : file.Splits content)
    (sent : (sendFileThrough codec fileId file).result = .ok ())
    (rebuilds : (sendFileThrough codec fileId file).Rebuilds codec content) :
    file.ReadsFull := by
  obtain ⟨header, isSent⟩ := splits.frames sent
  have numbered := rebuilds.numbered
  obtain ⟨pieces, arePieces, written⟩ := rebuilds.rebuilt
  rw [isSent, chunkIndex_mapIdx, List.length_mapIdx] at numbered
  rw [isSent, placedPiece?_mapIdx lawful] at arePieces
  have samePieces :=
    List.map_injective_iff.mpr (Option.some_injective Piece) arePieces
  rw [← samePieces, pieces_eq_numbered numbered, ← splits.reads] at written
  exact (writePieces_numbered_iff fun bytes member =>
    (splits.bounded bytes member).2).mp written

/--
Sending a file.  Whatever the lengths of the reads, the chunks of a file that
is sent are numbered in order, counted, valid, and rebuild its content if and
only if every read but the last returns a full chunk.
-/
theorem sendFileThrough_rebuilds_iff
    {codec : Codec}
    {fileId : Uuid}
    {file : SourceFile}
    {content : List UInt8}
    (lawful : codec.Lawful)
    (splits : file.Splits content)
    (sent : (sendFileThrough codec fileId file).result = .ok ()) :
    (sendFileThrough codec fileId file).Rebuilds codec content ↔
      file.ReadsFull :=
  ⟨readsFull_of_rebuilds lawful splits sent,
    rebuilds_of_readsFull lawful splits sent⟩

/-- The sample is read in one go, and its only chunk rebuilds it. -/
theorem sendFileThrough_rebuilds_sample :
    (sendFileThrough ReceiverState.sampleCodec ⟨9⟩
        ReceiverState.sampleFile).Rebuilds ReceiverState.sampleCodec
      [104, 105] := by
  have splits : ReceiverState.sampleFile.Splits [104, 105] :=
    { fileName := ⟨"hi.txt", rfl, by decide, by decide⟩
      size := ⟨2, rfl, rfl⟩
      hashed := rfl
      opened := rfl
      reads := rfl
      bounded := by decide
      complete := rfl }
  exact (sendFileThrough_rebuilds_iff ReceiverState.lawful_sampleCodec splits
    (by decide)).mpr (by decide)

/-- The sample, when every read returns a single byte. -/
def shortReads : SourceFile :=
  { ReceiverState.sampleFile with reads := [[104], [105]] }

/-- The file system shows the two bytes of the sample. -/
theorem splits_shortReads : shortReads.Splits [104, 105] where
  fileName := ⟨"hi.txt", rfl, by decide, by decide⟩
  size := ⟨2, rfl, rfl⟩
  hashed := rfl
  opened := rfl
  reads := rfl
  bounded := by decide
  complete := rfl

/-- Two chunks are sent where one is announced; the second is not valid. -/
theorem shortReads_not_rebuilds :
    shortReads.Splits [104, 105] ∧
      (sendFileThrough ReceiverState.sampleCodec ⟨9⟩ shortReads).result =
        .ok () ∧
      ¬ (sendFileThrough ReceiverState.sampleCodec ⟨9⟩ shortReads).Rebuilds
          ReceiverState.sampleCodec [104, 105] := by
  refine ⟨splits_shortReads, by decide, ?_⟩
  intro rebuilds
  exact absurd rebuilds.valid (by decide +kernel)

end Frames

end ClipboardWire
