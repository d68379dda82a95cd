import ClipboardWire.FrameText
import ClipboardWire.JsonValue

namespace ClipboardWire

open JsonValue

/-!
# Frames read from JSON values

The deserialization that the attributes of `core/src/protocol.rs` ask for: a
`type` tag next to the fields of the frame, and defaults for the optional
fields of a clip and a file chunk.  The texts themselves are read by
`serde_json`, and identifiers by the `uuid` crate; both are parameters.
-/

/-- The readers that come from libraries. -/
structure FrameReader where
  /-- `serde_json`, as far as the value of the text. -/
  parse : String → Option Json
  /-- `Uuid::parse_str`. -/
  uuid : String → Option Uuid

namespace FrameReader

/-- An identifier is a string. -/
def readUuid (reader : FrameReader) (json : Json) : Option Uuid :=
  json.string?.bind reader.uuid

/-- An `i64`. -/
def readInt64 (json : Json) : Option Int64 :=
  (json.integerIn? Int64.minValue.toInt Int64.maxValue.toInt).map Int64.ofInt

/-- A `u32`. -/
def readUInt32 (json : Json) : Option UInt32 :=
  (json.integerIn? 0 (2 ^ 32 - 1)).map fun value => UInt32.ofNat value.toNat

/-- A `u64`. -/
def readUInt64 (json : Json) : Option UInt64 :=
  (json.integerIn? 0 (2 ^ 64 - 1)).map fun value => UInt64.ofNat value.toNat

/-- `ClipFrame::deserialize`. -/
def readClip (reader : FrameReader) (json : Json) : Option ClipFrame := do
  let members ←
    json.fields?
      ["id", "ts", "content_type", "content", "content_b64", "from"] 3
  let id ← required? reader.readUuid "id" members
  let ts ← required? readInt64 "ts" members
  let contentType ← required? Json.string? "content_type" members
  let content ← optional? Json.string? "content" members
  let contentB64 ← optional? Json.string? "content_b64" members
  let sender ← optional? reader.readUuid "from" members
  return {
    id := id
    ts := ts
    contentType := contentType
    content := content
    contentB64 := contentB64
    fromId := sender }

/-- `WelcomeFrame::deserialize`. -/
def readWelcome (reader : FrameReader) (json : Json) : Option WelcomeFrame := do
  let members ← json.fields? ["server", "client_id", "last_clip"] 3
  let server ← required? Json.string? "server" members
  let clientId ← required? reader.readUuid "client_id" members
  let lastClip ← optional? reader.readClip "last_clip" members
  return { server := server, clientId := clientId, lastClip := lastClip }

/-- `rename_all = "snake_case"` of `ErrorCode`. -/
def codeOfName (name : String) : Option ErrorCode :=
  [ErrorCode.unauthorized, .badFrame, .frameTooLarge, .unsupportedType,
    .duplicateSession].find? (·.name = name)

/-- `ErrorCode::deserialize`: a name, or an object with a name and nothing. -/
def readCode : Json → Option ErrorCode
  | .string name => codeOfName name
  | .object [(name, .null)] | .object [(name, .object [])] => codeOfName name
  | _ => none

/-- `ErrorFrame::deserialize`. -/
def readError (json : Json) : Option ErrorFrame := do
  let members ← json.fields? ["code", "message"] 2
  let code ← required? readCode "code" members
  let message ← required? Json.string? "message" members
  return { code := code, message := message }

/-- `FileChunkFrame::deserialize`. -/
def readFileChunk (reader : FrameReader) (json : Json) :
    Option FileChunkFrame := do
  let members ←
    json.fields?
      ["file_id", "name", "content_type", "chunk_index", "total_chunks",
        "file_sha256", "file_size", "payload_b64", "from"] 8
  let fileId ← required? reader.readUuid "file_id" members
  let name ← required? Json.string? "name" members
  let contentType ← required? Json.string? "content_type" members
  let chunkIndex ← required? readUInt32 "chunk_index" members
  let totalChunks ← required? readUInt32 "total_chunks" members
  let fileSha256 ← required? Json.string? "file_sha256" members
  let fileSize ← required? readUInt64 "file_size" members
  let payloadB64 ← required? Json.string? "payload_b64" members
  let sender ← optional? reader.readUuid "from" members
  return {
    fileId := fileId
    name := name
    contentType := contentType
    chunkIndex := chunkIndex
    totalChunks := totalChunks
    fileSha256 := fileSha256
    fileSize := fileSize
    payloadB64 := payloadB64
    fromId := sender }

/-- The variants of `Frame` by their tags. -/
def variants (reader : FrameReader) (name : String) :
    Option (Json → Option Frame) :=
  if name = "clip" then
    some fun json => (reader.readClip json).map Frame.clip
  else if name = "welcome" then
    some fun json => (reader.readWelcome json).map Frame.welcome
  else if name = "error" then
    some fun json => (readError json).map Frame.error
  else if name = "file_chunk" then
    some fun json => (reader.readFileChunk json).map Frame.fileChunk
  else
    none

/-- `Frame::deserialize`. -/
def readFrame (reader : FrameReader) (json : Json) : Option Frame :=
  tagged? "type" reader.variants json

/-- `serde_json::from_str::<Frame>`. -/
def fromStr (reader : FrameReader) (content : String) : Option Frame :=
  (reader.parse content).bind reader.readFrame

end FrameReader

/-- The types of frames that this version knows. -/
def frameTypes : List String :=
  ["clip", "welcome", "error", "file_chunk"]

namespace FrameReader

/-- The known types are the tags of the variants. -/
theorem isSome_variants {reader : FrameReader} {name : String} :
    (reader.variants name).isSome ↔ name ∈ frameTypes := by
  unfold variants
  split_ifs <;> simp_all [frameTypes]

/-- The text is an object whose `type` is a string that is not known. -/
def UnknownFrame (reader : FrameReader) (content : String) : Prop :=
  ∃ members name,
    reader.parse content = some (.object members) ∧
      ("type", .string name) ∈ members ∧ name ∉ frameTypes

/-- A frame of an unknown type is as good as no frame at all. -/
theorem UnknownFrame.fromStr_eq_none
    {reader : FrameReader}
    {content : String}
    (unknown : reader.UnknownFrame content) :
    reader.fromStr content = none := by
  obtain ⟨members, name, parsed, member, notKnown⟩ := unknown
  rw [fromStr, parsed, Option.bind_some, readFrame]
  refine tagged?_eq_none member ?_
  rwa [← isSome_variants, Option.not_isSome_iff_eq_none] at notKnown

/-- A clip is read from its members, whatever their order. -/
example :
    FrameReader.readFrame ⟨fun _ => none, fun _ => some ⟨5⟩⟩
        (.object
          [("content", .string "hello"), ("type", .string "clip"),
            ("ts", .integer 0), ("id", .string "an identifier"),
            ("content_type", .string textContentType),
            ("more", .array [])]) =
      some (.clip (.text ⟨5⟩ 0 "hello")) := by
  decide +kernel

end FrameReader

end ClipboardWire
