import ClipboardWire.FileReceiver

namespace ClipboardWire

/-!
# The sender of file transfers

`send_file_through` of `core/src/client/file.rs`.  The file system answers
with a `SourceFile`: what `stat` says, what the hash pass reads, and what the
successive reads of the sending loop return, which need not agree with each
other.  The chunks are listed in the order they are queued; waiting for room
in the queue is a matter of the components that hold it.
-/

/-- What the file system shows of one file to `send_file_through`. -/
structure SourceFile where
  display : String
  /-- The file name, when the path has one and it is valid Unicode. -/
  fileName : Option String
  /-- The size that `fs::metadata` reports. -/
  size : Except String UInt64
  /-- The content that the hash pass reads. -/
  hashed : Except String (List UInt8)
  openError : Option String
  /-- What the reads of the loop return; an empty read ends the file. -/
  reads : List (List UInt8)
  /-- The error of the read after the listed ones, if there is one. -/
  readError : Option String

/-- The chunks queued by one call, and how the call ends. -/
structure SentFile where
  frames : List FileChunkFrame
  result : Except String Unit

/-- `mime_for`: a content type from the extension of the name. -/
def mimeFor (name : String) : String :=
  match (Path.extension name).map (String.map Char.toLower) with
  | some "png" => "image/png"
  | some "jpg" | some "jpeg" => "image/jpeg"
  | some "gif" => "image/gif"
  | some "webp" => "image/webp"
  | some "svg" => "image/svg+xml"
  | some "pdf" => "application/pdf"
  | some "zip" => "application/zip"
  | some "tar" => "application/x-tar"
  | some "gz" | some "tgz" => "application/gzip"
  | some "txt" | some "md" | some "log" => "text/plain; charset=utf-8"
  | some "json" => "application/json"
  | some "html" | some "htm" => "text/html; charset=utf-8"
  | some "mp4" => "video/mp4"
  | some "mov" => "video/quicktime"
  | some "mp3" => "audio/mpeg"
  | some "wav" => "audio/wav"
  | _ => "application/octet-stream"

/-- The fields that every chunk of a transfer repeats. -/
structure FileHeader where
  fileId : Uuid
  name : String
  contentType : String
  totalChunks : UInt32
  fileSha256 : String
  fileSize : UInt64
  deriving DecidableEq, Repr

/-- The chunk of a transfer that carries some bytes at an index. -/
def FileHeader.chunk
    (codec : Codec)
    (header : FileHeader)
    (index : UInt32)
    (bytes : List UInt8) :
    FileChunkFrame where
  fileId := header.fileId
  name := header.name
  contentType := header.contentType
  chunkIndex := index
  totalChunks := header.totalChunks
  fileSha256 := header.fileSha256
  fileSize := header.fileSize
  payloadB64 := codec.encode bytes
  fromId := none

/-- The sending loop: one chunk a read, until a read returns nothing. -/
def chunkLoop
    (codec : Codec)
    (header : FileHeader) :
    UInt32 → List (List UInt8) → List FileChunkFrame
  | _, [] =>
      []
  | index, bytes :: rest =>
      if bytes = [] then
        []
      else
        header.chunk codec index bytes ::
          chunkLoop codec header (index + 1) rest

/-- The largest `u32`. -/
def maxU32 : Nat :=
  4294967295

/-- `file_size.div_ceil(FILE_CHUNK_BYTES)`. -/
def chunkCount (size : Nat) : Nat :=
  (size + (fileChunkBytes - 1)) / fileChunkBytes

/-- `send_file_through`. -/
def sendFileThrough
    (codec : Codec)
    (fileId : Uuid)
    (file : SourceFile) :
    SentFile :=
  match file.fileName with
  | none =>
      ⟨[], .error "path has no filename component"⟩
  | some name =>
      match file.size with
      | .error reason =>
          ⟨[], .error ("stat " ++ file.display ++ ": " ++ reason)⟩
      | .ok size =>
          if size = 0 then
            ⟨[], .error
              ("refusing to send a zero-byte file (" ++ file.display ++ ")")⟩
          else if maxU32 < chunkCount size.toNat then
            ⟨[], .error "file too large to chunk in u32 — refusing"⟩
          else
            match file.hashed, file.openError with
            | .error reason, _ =>
                ⟨[], .error ("hashing " ++ file.display ++ ": " ++ reason)⟩
            | .ok _, some reason =>
                ⟨[], .error ("open " ++ file.display ++ ": " ++ reason)⟩
            | .ok content, none =>
                let header : FileHeader :=
                  { fileId := fileId
                    name := name
                    contentType := mimeFor name
                    totalChunks := UInt32.ofNat (chunkCount size.toNat)
                    fileSha256 := codec.fingerprint content
                    fileSize := size }
                { frames := chunkLoop codec header 0 file.reads
                  result :=
                    match file.readError with
                    | some reason => .error reason
                    | none => .ok () }

/-- The loop numbers its chunks one after the other. -/
theorem chunkLoop_eq
    (codec : Codec)
    (header : FileHeader)
    (first : Nat)
    {reads : List (List UInt8)}
    (nonempty : ∀ bytes ∈ reads, bytes ≠ []) :
    chunkLoop codec header (UInt32.ofNat first) reads =
      reads.mapIdx fun index bytes =>
        header.chunk codec (UInt32.ofNat (first + index)) bytes := by
  induction reads generalizing first with
  | nil =>
      rfl
  | cons bytes rest inductionHypothesis =>
      have isPiece : bytes ≠ [] := nonempty bytes (List.mem_cons_self)
      have next : UInt32.ofNat first + 1 = UInt32.ofNat (first + 1) := by
        rw [UInt32.ofNat_add]
        rfl
      rw [chunkLoop, if_neg isPiece, next,
        inductionHypothesis (first + 1) (fun other member =>
          nonempty other (List.mem_cons_of_mem bytes member)),
        List.mapIdx_cons]
      simp only [Nat.add_zero, Nat.add_assoc, Nat.add_comm 1]

/-- The header of the chunks of a file. -/
def headerFor
    (codec : Codec)
    (fileId : Uuid)
    (name : String)
    (size : UInt64)
    (content : List UInt8) :
    FileHeader where
  fileId := fileId
  name := name
  contentType := mimeFor name
  totalChunks := UInt32.ofNat (chunkCount size.toNat)
  fileSha256 := codec.fingerprint content
  fileSize := size

/-- A file that is shown without an error is sent as one chunk a read. -/
theorem sendFileThrough_of_shown
    (codec : Codec)
    (fileId : Uuid)
    {file : SourceFile}
    {name : String}
    {size : UInt64}
    {content : List UInt8}
    (isName : file.fileName = some name)
    (isSize : file.size = .ok size)
    (hashed : file.hashed = .ok content)
    (opened : file.openError = none)
    (complete : file.readError = none)
    (notZero : size ≠ 0)
    (countFits : chunkCount size.toNat ≤ maxU32)
    (nonempty : ∀ bytes ∈ file.reads, bytes ≠ []) :
    sendFileThrough codec fileId file =
      { frames :=
          file.reads.mapIdx fun index bytes =>
            (headerFor codec fileId name size content).chunk codec
              (UInt32.ofNat index) bytes
        result := .ok () } := by
  have loop (header : FileHeader) :=
    chunkLoop_eq codec header 0 nonempty
  simp only [Nat.zero_add] at loop
  have fits : ¬ maxU32 < chunkCount size.toNat :=
    Nat.not_lt.mpr countFits
  simp only [sendFileThrough, isName, isSize, notZero, fits, hashed, opened,
    complete, ↓reduceIte]
  rw [← loop]
  rfl

end ClipboardWire
