import ClipboardWire.FileNames
import ClipboardWire.JsonText

namespace ClipboardWire

open JsonText

/-!
# Frames as JSON texts

The serialization that the attributes of `core/src/protocol.rs` ask for:
fields in the order of their declaration behind a `type` tag, absent options
left out, except that `last_clip` of a welcome is `null`.
-/

namespace Uuid

/-- The text of an identifier. -/
def jsonText (id : Uuid) : List Char :=
  stringText id.hyphenated

end Uuid

/-- A member that is left out when it is absent. -/
def optionalMember
    {Value : Type}
    (name : String)
    (text : Value → List Char)
    (value : Option Value) :
    List (String × List Char) :=
  value.toList.map fun present => (name, text present)

namespace ClipFrame

/-- The members of a clip, without its tag. -/
def members (frame : ClipFrame) : List (String × List Char) :=
  [("id", frame.id.jsonText),
    ("ts", numberText frame.ts.toInt),
    ("content_type", stringText frame.contentType)] ++
  optionalMember "content" stringText frame.content ++
  optionalMember "content_b64" stringText frame.contentB64 ++
  optionalMember "from" Uuid.jsonText frame.fromId

end ClipFrame

namespace FileChunkFrame

/-- The members of a file chunk, without its tag. -/
def members (chunk : FileChunkFrame) : List (String × List Char) :=
  [("file_id", chunk.fileId.jsonText),
    ("name", stringText chunk.name),
    ("content_type", stringText chunk.contentType),
    ("chunk_index", numberText chunk.chunkIndex.toNat),
    ("total_chunks", numberText chunk.totalChunks.toNat),
    ("file_sha256", stringText chunk.fileSha256),
    ("file_size", numberText chunk.fileSize.toNat),
    ("payload_b64", stringText chunk.payloadB64)] ++
  optionalMember "from" Uuid.jsonText chunk.fromId

end FileChunkFrame

/-- The name of an error code on the wire. -/
def ErrorCode.name : ErrorCode → String
  | .unauthorized => "unauthorized"
  | .badFrame => "bad_frame"
  | .frameTooLarge => "frame_too_large"
  | .unsupportedType => "unsupported_type"
  | .duplicateSession => "duplicate_session"

namespace Frame

/-- The tag of a frame. -/
def tag : Frame → String
  | .clip _ => "clip"
  | .welcome _ => "welcome"
  | .error _ => "error"
  | .fileChunk _ => "file_chunk"

/-- The members of a frame behind its tag. -/
def members : Frame → List (String × List Char)
  | .clip frame =>
      frame.members
  | .welcome frame =>
      [("server", stringText frame.server),
        ("client_id", frame.clientId.jsonText),
        ("last_clip",
          match frame.lastClip with
          | some cached => objectText cached.members
          | none => "null".toList)]
  | .error frame =>
      [("code", stringText frame.code.name),
        ("message", stringText frame.message)]
  | .fileChunk chunk =>
      chunk.members

/-- `serde_json::to_string`. -/
def text (frame : Frame) : String :=
  String.ofList
    (objectText (("type", stringText frame.tag) :: frame.members))

/-- The size of a frame: its tag and its members. -/
theorem utf8ByteSize_text (frame : Frame) :
    frame.text.utf8ByteSize =
      size (stringText frame.tag) +
        (frame.members.map memberSize).sum + 9 := by
  have key : size (stringText "type") = 6 := by
    decide
  rw [text, utf8ByteSize_ofList, size_objectText (by simp),
    List.map_cons, List.sum_cons]
  simp only [memberSize, key]
  omega

end Frame

/-- An identifier is printed in 38 bytes, quotes included. -/
theorem Uuid.size_jsonText (id : Uuid) :
    size id.jsonText = 38 := by
  have checked : uuidAlphabet.all (fun c => decide (Plain c)) = true := by
    decide
  have plain : ∀ c ∈ uuidAlphabet, Plain c := fun c member =>
    of_decide_eq_true (List.all_eq_true.mp checked c member)
  rw [jsonText,
    size_stringText_of_plain
      (fun c member => plain c (id.hyphenated_subset member)),
    id.length_hyphenated]

/-- The sender stamped on a relayed frame takes 46 bytes. -/
theorem memberSize_from (sender : Uuid) :
    memberSize ("from", sender.jsonText) = 46 := by
  have key : size (stringText "from") = 6 := by
    decide
  rw [memberSize, key, sender.size_jsonText]

end ClipboardWire
