import ClipboardWire.FrameJson
import ClipboardWire.TextReader

namespace ClipboardWire

open JsonText JsonValue TextReader

/-!
# Frames as JSON values

The value that the text of a frame stands for, member by member, and what the
deserialization of `core/src/protocol.rs` makes of it: a frame that has been
serialized is read back as it was.
-/

/-- A member that is left out when it is absent. -/
def optionalValue
    {Value : Type}
    (name : String)
    (json : Value → Json)
    (value : Option Value) :
    List (String × Json) :=
  value.toList.map fun present => (name, json present)

@[simp] theorem valuesOf_optionalValue
    {Value : Type}
    (name : String)
    (json : Value → Json)
    (value : Option Value) :
    valuesOf name (optionalValue name json value) = value.toList.map json := by
  cases value <;> simp [optionalValue]

@[simp] theorem valuesOf_optionalValue_of_ne
    {Value : Type}
    {name other : String}
    (different : other ≠ name)
    (json : Value → Json)
    (value : Option Value) :
    valuesOf name (optionalValue other json value) = [] := by
  cases value <;> simp [optionalValue, different]

/-- An identifier is written as a string. -/
def Uuid.json (id : Uuid) : Json :=
  .string id.hyphenated

/-- The members of a clip, without its tag. -/
def ClipFrame.values (frame : ClipFrame) : List (String × Json) :=
  [("id", frame.id.json),
    ("ts", .integer frame.ts.toInt),
    ("content_type", .string frame.contentType)] ++
  optionalValue "content" .string frame.content ++
  optionalValue "content_b64" .string frame.contentB64 ++
  optionalValue "from" Uuid.json frame.fromId

/-- The members of a file chunk, without its tag. -/
def FileChunkFrame.values (chunk : FileChunkFrame) : List (String × Json) :=
  [("file_id", chunk.fileId.json),
    ("name", .string chunk.name),
    ("content_type", .string chunk.contentType),
    ("chunk_index", .integer chunk.chunkIndex.toNat),
    ("total_chunks", .integer chunk.totalChunks.toNat),
    ("file_sha256", .string chunk.fileSha256),
    ("file_size", .integer chunk.fileSize.toNat),
    ("payload_b64", .string chunk.payloadB64)] ++
  optionalValue "from" Uuid.json chunk.fromId

namespace Frame

/-- The members of a frame behind its tag. -/
def values : Frame → List (String × Json)
  | .clip frame =>
      frame.values
  | .welcome frame =>
      [("server", .string frame.server),
        ("client_id", frame.clientId.json),
        ("last_clip",
          match frame.lastClip with
          | some cached => .object cached.values
          | none => .null)]
  | .error frame =>
      [("code", .string frame.code.name),
        ("message", .string frame.message)]
  | .fileChunk chunk =>
      chunk.values

/-- The value of a serialized frame. -/
def json (frame : Frame) : Json :=
  .object (("type", .string frame.tag) :: frame.values)

end Frame

/-- The text of a clip's members is the text of their values. -/
theorem memberTexts?_clip (frame : ClipFrame) :
    memberTexts? frame.values = some frame.members := by
  rcases frame with ⟨id, ts, contentType, content, contentB64, sender⟩
  cases content <;> cases contentB64 <;> cases sender <;> rfl

/-- The text of a file chunk's members is the text of their values. -/
theorem memberTexts?_fileChunk (chunk : FileChunkFrame) :
    memberTexts? chunk.values = some chunk.members := by
  rcases chunk with ⟨fileId, name, contentType, index, total, digest, size,
    payload, sender⟩
  cases sender <;> rfl

/-- The text of a frame is the text of its value. -/
theorem valueText?_json (frame : Frame) :
    valueText? frame.json = some frame.text.toList := by
  have members : memberTexts? frame.values = some frame.members := by
    cases frame with
    | clip frame =>
        exact memberTexts?_clip frame
    | welcome frame =>
        rcases frame with ⟨server, clientId, _ | cached⟩
        · rfl
        · simp only [Frame.values, Frame.members, memberTexts?, valueText?,
            memberTexts?_clip, Option.map_some]
          rfl
    | error frame =>
        rfl
    | fileChunk chunk =>
        exact memberTexts?_fileChunk chunk
  simp only [Frame.json, Frame.text, valueText?, memberTexts?, members,
    Option.map_some, String.toList_ofList]

/-- Hexadecimal digits of a fixed width are taken as one number. -/
theorem takeDigits_hexDigits
    (count number value taken : Nat)
    (rest : List Char) :
    takeDigits 16 value taken (hexDigits count number ++ rest) =
      takeDigits 16 (value * 16 ^ count + number % 16 ^ count)
        (taken + count) rest := by
  induction count generalizing number rest with
  | zero =>
      simp [hexDigits, Nat.mod_one]
  | succ count inductionHypothesis =>
      have last :
          toDigit 16 (Nat.digitChar (number % 16)) = some (number % 16) :=
        toDigit_digitChar (Nat.le_refl 16) (Nat.mod_lt _ (by decide))
      have value_eq :
          (value * 16 ^ count + number / 16 % 16 ^ count) * 16 +
              number % 16 =
            value * 16 ^ (count + 1) + number % 16 ^ (count + 1) := by
        rw [Nat.pow_succ', Nat.mod_mul, Nat.add_mul, Nat.mul_assoc value,
          Nat.mul_comm 16 (16 ^ count), Nat.mul_comm 16 (number / 16 % _)]
        omega
      rw [hexDigits, List.append_assoc, inductionHypothesis,
        List.singleton_append, takeDigits, last]
      simp only [value_eq, Nat.add_assoc]

/-- Hexadecimal digits are no hyphens. -/
theorem hyphen_notMem_hexDigits (count number : Nat) :
    '-' ∉ hexDigits count number := by
  induction count generalizing number with
  | zero =>
      simp [hexDigits]
  | succ count inductionHypothesis =>
      have checked : ∀ value : Fin 16, Nat.digitChar value ≠ '-' := by
        decide
      have last := checked ⟨number % 16, Nat.mod_lt _ (by decide)⟩
      simp only [hexDigits, List.mem_append, List.mem_singleton, not_or]
      exact ⟨inductionHypothesis (number / 16), last.symm⟩

namespace Uuid

/-- The identifier that a hyphenated text is the printed form of. -/
def ofHyphenated (text : String) : Option Uuid :=
  let digits := takeDigits 16 0 0 (text.toList.filter (· ≠ '-'))
  if digits.count = 32 ∧ digits.rest = [] then
    some ⟨BitVec.ofNat 128 digits.value⟩
  else
    none

/-- Without its hyphens the printed form is the digits. -/
theorem filter_hyphenated (id : Uuid) :
    id.hyphenated.toList.filter (· ≠ '-') = id.digits := by
  have digit (c : Char) (member : c ∈ id.digits) :
      decide (c ≠ '-') = true := by
    refine decide_eq_true fun isHyphen => ?_
    exact hyphen_notMem_hexDigits 32 id.bits.toNat (isHyphen ▸ member)
  conv_rhs => rw [← List.filter_eq_self.mpr digit, digits_groups]
  simp [hyphenated, List.filter_append]

/-- Identifiers are read back from their printed form. -/
theorem ofHyphenated_hyphenated (id : Uuid) :
    ofHyphenated id.hyphenated = some id := by
  have taken :
      takeDigits 16 0 0 id.digits = ⟨id.bits.toNat, 32, []⟩ := by
    have all := takeDigits_hexDigits 32 id.bits.toNat 0 0 []
    rw [List.append_nil, Nat.mod_eq_of_lt (by simpa using id.bits.isLt)] at all
    simpa [digits, takeDigits] using all
  rw [ofHyphenated, filter_hyphenated, taken]
  simp

end Uuid

namespace FrameReader

variable {reader : FrameReader}

/-- Identifiers are read back from their printed form. -/
def ReadsPrinted (reader : FrameReader) : Prop :=
  ∀ id : Uuid, reader.uuid id.hyphenated = some id

/-- An identifier is read back. -/
theorem readUuid_hyphenated (printed : reader.ReadsPrinted) (id : Uuid) :
    reader.readUuid (.string id.hyphenated) = some id :=
  printed id

/-- A number within the bounds is read. -/
theorem integerIn?_of_le
    {least greatest value : Int}
    (above : least ≤ value)
    (below : value ≤ greatest) :
    (Json.integer value).integerIn? least greatest = some value := by
  rw [Json.integerIn?, if_pos ⟨above, below⟩]

/-- A signed number is read back. -/
theorem readInt64_integer (number : Int64) :
    readInt64 (.integer number.toInt) = some number := by
  rw [readInt64, integerIn?_of_le number.minValue_le_toInt number.toInt_le]
  simp

/-- A 32-bit number is read back. -/
theorem readUInt32_integer (number : UInt32) :
    readUInt32 (.integer number.toNat) = some number := by
  have bound := number.toNat_lt
  rw [readUInt32, integerIn?_of_le (by omega) (by omega)]
  simp

/-- A 64-bit number is read back. -/
theorem readUInt64_integer (number : UInt64) :
    readUInt64 (.integer number.toNat) = some number := by
  have bound := number.toNat_lt
  rw [readUInt64, integerIn?_of_le (by omega) (by omega)]
  simp

/-- An error code is read back. -/
theorem readCode_name (code : ErrorCode) :
    readCode (.string code.name) = some code := by
  cases code <;> decide

/-- A string is read back. -/
theorem required?_string
    {name value : String}
    {members : List (String × Json)}
    (values : valuesOf name members = [.string value]) :
    required? Json.string? name members = some value :=
  required?_of_valuesOf values

/-- An identifier is read back. -/
theorem required?_uuid
    (printed : reader.ReadsPrinted)
    {name : String}
    {members : List (String × Json)}
    {value : Uuid}
    (values : valuesOf name members = [value.json]) :
    required? reader.readUuid name members = some value :=
  (required?_of_valuesOf values).trans (readUuid_hyphenated printed value)

/-- An optional string is read back. -/
theorem optional?_string
    {name : String}
    {members : List (String × Json)}
    {value : Option String}
    (values : valuesOf name members = value.toList.map .string) :
    optional? Json.string? name members = some value :=
  optional?_of_valuesOf .string (fun _ => rfl) (by simp) values

/-- An optional identifier is read back. -/
theorem optional?_uuid
    (printed : reader.ReadsPrinted)
    {name : String}
    {members : List (String × Json)}
    {value : Option Uuid}
    (values : valuesOf name members = value.toList.map Uuid.json) :
    optional? reader.readUuid name members = some value :=
  optional?_of_valuesOf Uuid.json (readUuid_hyphenated printed)
    (by simp [Uuid.json]) values

/-- A clip is read back from its members. -/
theorem readClip_values (printed : reader.ReadsPrinted) (frame : ClipFrame) :
    reader.readClip (.object frame.values) = some frame := by
  have id : required? reader.readUuid "id" frame.values = some frame.id :=
    required?_uuid printed (by simp [ClipFrame.values])
  have ts : required? readInt64 "ts" frame.values = some frame.ts :=
    (required?_of_valuesOf (by simp [ClipFrame.values])).trans
      (readInt64_integer frame.ts)
  have contentType :
      required? Json.string? "content_type" frame.values =
        some frame.contentType :=
    required?_string (by simp [ClipFrame.values])
  have content :
      optional? Json.string? "content" frame.values = some frame.content :=
    optional?_string (by simp [ClipFrame.values])
  have contentB64 :
      optional? Json.string? "content_b64" frame.values =
        some frame.contentB64 :=
    optional?_string (by simp [ClipFrame.values])
  have sender :
      optional? reader.readUuid "from" frame.values = some frame.fromId :=
    optional?_uuid printed (by simp [ClipFrame.values])
  simp [readClip, Json.fields?, id, ts, contentType, content, contentB64,
    sender]

/-- A welcome is read back from its members. -/
theorem readWelcome_values
    (printed : reader.ReadsPrinted)
    (frame : WelcomeFrame) :
    reader.readWelcome (.object (Frame.welcome frame).values) = some frame := by
  rcases frame with ⟨server, clientId, _ | cached⟩ <;>
    simp [readWelcome, Json.fields?, Frame.values, required?, optional?,
      readUuid_hyphenated printed, readClip_values printed, Json.string?,
      Uuid.json]

/-- An error is read back from its members. -/
theorem readError_values (frame : ErrorFrame) :
    readError (.object (Frame.error frame).values) = some frame := by
  simp [readError, Json.fields?, Frame.values, required?, readCode_name,
    Json.string?]

/-- A file chunk is read back from its members. -/
theorem readFileChunk_values
    (printed : reader.ReadsPrinted)
    (chunk : FileChunkFrame) :
    reader.readFileChunk (.object chunk.values) = some chunk := by
  have fileId :
      required? reader.readUuid "file_id" chunk.values = some chunk.fileId :=
    required?_uuid printed (by simp [FileChunkFrame.values])
  have name : required? Json.string? "name" chunk.values = some chunk.name :=
    required?_string (by simp [FileChunkFrame.values])
  have contentType :
      required? Json.string? "content_type" chunk.values =
        some chunk.contentType :=
    required?_string (by simp [FileChunkFrame.values])
  have chunkIndex :
      required? readUInt32 "chunk_index" chunk.values =
        some chunk.chunkIndex :=
    (required?_of_valuesOf (by simp [FileChunkFrame.values])).trans
      (readUInt32_integer chunk.chunkIndex)
  have totalChunks :
      required? readUInt32 "total_chunks" chunk.values =
        some chunk.totalChunks :=
    (required?_of_valuesOf (by simp [FileChunkFrame.values])).trans
      (readUInt32_integer chunk.totalChunks)
  have fileSha256 :
      required? Json.string? "file_sha256" chunk.values =
        some chunk.fileSha256 :=
    required?_string (by simp [FileChunkFrame.values])
  have fileSize :
      required? readUInt64 "file_size" chunk.values = some chunk.fileSize :=
    (required?_of_valuesOf (by simp [FileChunkFrame.values])).trans
      (readUInt64_integer chunk.fileSize)
  have payloadB64 :
      required? Json.string? "payload_b64" chunk.values =
        some chunk.payloadB64 :=
    required?_string (by simp [FileChunkFrame.values])
  have sender :
      optional? reader.readUuid "from" chunk.values = some chunk.fromId :=
    optional?_uuid printed (by simp [FileChunkFrame.values])
  simp [readFileChunk, Json.fields?, fileId, name, contentType, chunkIndex,
    totalChunks, fileSha256, fileSize, payloadB64, sender]

/-- The tag of a frame is its only member of that name. -/
theorem valuesOf_type (frame : Frame) :
    valuesOf "type" frame.values = [] ∧
      frame.values.filter (·.1 ≠ "type") = frame.values := by
  cases frame with
  | clip frame =>
      rcases frame with ⟨id, ts, contentType, content, contentB64, sender⟩
      cases content <;> cases contentB64 <;> cases sender <;>
        simp [valuesOf, Frame.values, ClipFrame.values, optionalValue]
  | welcome frame =>
      simp [valuesOf, Frame.values]
  | error frame =>
      simp [valuesOf, Frame.values]
  | fileChunk chunk =>
      rcases chunk with
        ⟨fileId, name, contentType, index, total, digest, size, payload,
          sender⟩
      cases sender <;>
        simp [valuesOf, Frame.values, FileChunkFrame.values, optionalValue]

/-- A frame is read back from its value. -/
theorem readFrame_json (printed : reader.ReadsPrinted) (frame : Frame) :
    reader.readFrame frame.json = some frame := by
  obtain ⟨noType, others⟩ := valuesOf_type frame
  have tagged :
      reader.readFrame frame.json =
        (reader.variants frame.tag).bind fun read =>
          read (.object frame.values) := by
    have only :
        valuesOf "type" (("type", .string frame.tag) :: frame.values) =
          [.string frame.tag] := by
      rw [valuesOf, List.filter_cons_of_pos (by simp), List.map_cons]
      exact congrArg _ noType
    rw [readFrame, Frame.json, tagged?, only]
    rw [List.filter_cons_of_neg (by simp), others]
  rw [tagged]
  cases frame with
  | clip frame =>
      exact congrArg (Option.map Frame.clip) (readClip_values printed frame)
  | welcome frame =>
      exact congrArg (Option.map Frame.welcome)
        (readWelcome_values printed frame)
  | error frame =>
      exact congrArg (Option.map Frame.error) (readError_values frame)
  | fileChunk chunk =>
      exact congrArg (Option.map Frame.fileChunk)
        (readFileChunk_values printed chunk)

end FrameReader

end ClipboardWire
