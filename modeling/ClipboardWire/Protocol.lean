import Mathlib.Algebra.Group.Nat.Defs
import Mathlib.Data.List.Basic
import Mathlib.Data.Nat.Basic

namespace ClipboardWire

/-!
# Wire protocol values

The frames of `core/src/protocol.rs` with every field the source declares, the
two `validate` methods with their error texts, and the protocol constants.
Identifiers are the 128 bits of a UUID; their hyphenated form is needed where
the source prints them (partial file names, JSON text).
-/

/-- Value advertised by the server in the `welcome` frame. -/
def protocolVersion : String :=
  "clipboardwire/0.3.0"

/-- `MAX_FRAME_BYTES`: default largest WebSocket frame the server accepts. -/
def maxFrameBytes : Nat :=
  50 * 1024 * 1024

/-- `FILE_CHUNK_BYTES`: raw bytes in every `file_chunk` frame but the last. -/
def fileChunkBytes : Nat :=
  4 * 1024 * 1024

/-- `content_type` of text payloads. -/
def textContentType : String :=
  "text/plain; charset=utf-8"

/-- `content_type` of PNG image payloads. -/
def imagePngContentType : String :=
  "image/png"

/-- Textual MIME types carry their payload in `content`. -/
def isTextContentType (contentType : String) : Bool :=
  "text/".toList.isPrefixOf contentType.toList

/-- Text frames have a textual content type. -/
theorem isTextContentType_text :
    isTextContentType textContentType = true := by
  decide

/-- Image frames do not have a textual content type. -/
theorem isTextContentType_imagePng :
    isTextContentType imagePngContentType = false := by
  decide

/-- A UUID, as its 128 bits. -/
structure Uuid where
  bits : BitVec 128
  deriving DecidableEq, Repr

/-- The `count` lowest hexadecimal digits of a number, the lowest last. -/
def hexDigits : Nat → Nat → List Char
  | 0, _ =>
      []
  | count + 1, value =>
      hexDigits count (value / 16) ++ [Nat.digitChar (value % 16)]

namespace Uuid

/-- The 32 hexadecimal digits of an identifier. -/
def digits (id : Uuid) : List Char :=
  hexDigits 32 id.bits.toNat

/-- The printed form of an identifier: lower-case, 8-4-4-4-12. -/
def hyphenated (id : Uuid) : String :=
  String.ofList
    (id.digits.take 8 ++ '-' ::
      ((id.digits.drop 8).take 4 ++ '-' ::
        ((id.digits.drop 12).take 4 ++ '-' ::
          ((id.digits.drop 16).take 4 ++ '-' ::
            id.digits.drop 20))))

end Uuid

/-- `clip` frame body. -/
structure ClipFrame where
  id : Uuid
  ts : Int64
  contentType : String
  content : Option String
  contentB64 : Option String
  fromId : Option Uuid
  deriving DecidableEq, Repr

/--
`ClipFrame::validate`: exactly one payload field is set, and it is the one
that the content type calls for.
-/
def ClipFrame.validate (frame : ClipFrame) : Except String Unit :=
  match frame.content.isSome, frame.contentB64.isSome with
  | true, true =>
      .error "clip frame has both `content` and `content_b64`"
  | false, false =>
      .error "clip frame has neither `content` nor `content_b64`"
  | true, false =>
      if isTextContentType frame.contentType then
        .ok ()
      else
        .error "`content` requires a text/* content_type"
  | false, true =>
      if isTextContentType frame.contentType then
        .error "`content_b64` requires a non-text content_type"
      else
        .ok ()

/-- The frame of a text clip that has not passed the hub yet. -/
def ClipFrame.text (id : Uuid) (ts : Int64) (content : String) : ClipFrame where
  id := id
  ts := ts
  contentType := textContentType
  content := some content
  contentB64 := none
  fromId := none

/-- A text clip is valid. -/
theorem ClipFrame.validate_text (id : Uuid) (ts : Int64) (content : String) :
    (ClipFrame.text id ts content).validate = .ok () :=
  if_pos isTextContentType_text

/-- `welcome` frame body. -/
structure WelcomeFrame where
  server : String
  clientId : Uuid
  lastClip : Option ClipFrame
  deriving DecidableEq, Repr

/-- Protocol-level error codes. -/
inductive ErrorCode where
  | unauthorized
  | badFrame
  | frameTooLarge
  | unsupportedType
  | duplicateSession
  deriving DecidableEq, Repr

/-- WebSocket close code that pairs with an error code. -/
def ErrorCode.closeCode : ErrorCode → UInt16
  | .unauthorized => 4001
  | .badFrame => 4002
  | .frameTooLarge => 4003
  | .unsupportedType => 4004
  | .duplicateSession => 4005

/-- `error` frame body. -/
structure ErrorFrame where
  code : ErrorCode
  message : String
  deriving DecidableEq, Repr

/-- `file_chunk` frame body: one chunk of a file transfer. -/
structure FileChunkFrame where
  fileId : Uuid
  name : String
  contentType : String
  chunkIndex : UInt32
  totalChunks : UInt32
  fileSha256 : String
  fileSize : UInt64
  payloadB64 : String
  fromId : Option Uuid
  deriving DecidableEq, Repr

/-- `FileChunkFrame::validate`: the checks made before a chunk is relayed. -/
def FileChunkFrame.validate (chunk : FileChunkFrame) : Except String Unit :=
  if chunk.name = "" then
    .error "file_chunk name must not be empty"
  else if '\x00' ∈ chunk.name.toList then
    .error "file_chunk name must not contain NUL bytes"
  else if chunk.totalChunks = 0 then
    .error "file_chunk total_chunks must be >= 1"
  else if chunk.totalChunks ≤ chunk.chunkIndex then
    .error "file_chunk chunk_index >= total_chunks"
  else if chunk.payloadB64 = "" then
    .error "file_chunk payload_b64 must not be empty"
  else if chunk.fileSha256 = "" then
    .error "file_chunk file_sha256 must not be empty"
  else
    .ok ()

/-- Any frame on the wire. -/
inductive Frame where
  | clip : ClipFrame → Frame
  | welcome : WelcomeFrame → Frame
  | error : ErrorFrame → Frame
  | fileChunk : FileChunkFrame → Frame
  deriving DecidableEq, Repr

namespace Frame

/-- The clip carried by a `clip` frame. -/
def clip? : Frame → Option ClipFrame
  | .clip frame => some frame
  | _ => none

/-- The chunk carried by a `file_chunk` frame. -/
def fileChunk? : Frame → Option FileChunkFrame
  | .fileChunk chunk => some chunk
  | _ => none

end Frame

@[simp] theorem length_hexDigits (count value : Nat) :
    (hexDigits count value).length = count := by
  induction count generalizing value with
  | zero =>
      rfl
  | succ count inductionHypothesis =>
      simp [hexDigits, inductionHypothesis]

/-- The digit characters of distinct numbers below sixteen are distinct. -/
private theorem digitChar_injective
    {first second : Nat}
    (firstBound : first < 16)
    (secondBound : second < 16)
    (same : Nat.digitChar first = Nat.digitChar second) :
    first = second := by
  have checked :
      ∀ left : Fin 16, ∀ right : Fin 16,
        Nat.digitChar left = Nat.digitChar right → left = right := by
    decide
  have := checked ⟨first, firstBound⟩ ⟨second, secondBound⟩ same
  exact Fin.mk.inj this

/-- Fixed-width hexadecimal digits determine a number that fits the width. -/
theorem hexDigits_injective
    {count first second : Nat}
    (firstBound : first < 16 ^ count)
    (secondBound : second < 16 ^ count)
    (same : hexDigits count first = hexDigits count second) :
    first = second := by
  induction count generalizing first second with
  | zero =>
      simp only [Nat.pow_zero] at firstBound secondBound
      omega
  | succ count inductionHypothesis =>
      simp only [hexDigits] at same
      obtain ⟨leading, last⟩ :=
        List.append_inj' same (by simp)
      have quotient : first / 16 = second / 16 :=
        inductionHypothesis
          (by rw [Nat.pow_succ] at firstBound; omega)
          (by rw [Nat.pow_succ] at secondBound; omega)
          leading
      have remainder : first % 16 = second % 16 :=
        digitChar_injective
          (Nat.mod_lt _ (by decide))
          (Nat.mod_lt _ (by decide))
          (by simpa using last)
      omega

namespace Uuid

@[simp] theorem length_digits (id : Uuid) :
    id.digits.length = 32 := by
  simp [digits]

/-- Distinct identifiers have distinct digits. -/
theorem digits_injective
    {first second : Uuid}
    (same : first.digits = second.digits) :
    first = second := by
  have bits :
      first.bits.toNat = second.bits.toNat :=
    hexDigits_injective
      (by simpa using first.bits.isLt)
      (by simpa using second.bits.isLt)
      same
  cases first
  cases second
  simpa [BitVec.toNat_inj] using bits

/-- The five groups of the printed form are all the digits. -/
theorem digits_groups (id : Uuid) :
    id.digits =
      id.digits.take 8 ++ (id.digits.drop 8).take 4 ++
        (id.digits.drop 12).take 4 ++
          (id.digits.drop 16).take 4 ++ id.digits.drop 20 := by
  conv_lhs => rw [← List.take_append_drop 20 id.digits]
  simp only [← List.take_add, Nat.reduceAdd]

/-- Distinct identifiers print differently. -/
theorem hyphenated_injective
    {first second : Uuid}
    (same : first.hyphenated = second.hyphenated) :
    first = second := by
  apply digits_injective
  have lists := congrArg String.toList same
  simp only [hyphenated, String.toList_ofList] at lists
  obtain ⟨group1, lists⟩ := List.append_inj lists (by simp)
  obtain ⟨-, lists⟩ := List.cons.inj lists
  obtain ⟨group2, lists⟩ := List.append_inj lists (by simp)
  obtain ⟨-, lists⟩ := List.cons.inj lists
  obtain ⟨group3, lists⟩ := List.append_inj lists (by simp)
  obtain ⟨-, lists⟩ := List.cons.inj lists
  obtain ⟨group4, lists⟩ := List.append_inj lists (by simp)
  obtain ⟨-, group5⟩ := List.cons.inj lists
  rw [digits_groups first, digits_groups second,
    group1, group2, group3, group4, group5]

/-- Every printed identifier has 36 characters. -/
theorem length_hyphenated (id : Uuid) :
    id.hyphenated.toList.length = 36 := by
  simp [hyphenated]

end Uuid

@[simp] theorem ClipFrame.validate_fromId
    (frame : ClipFrame)
    (sender : Option Uuid) :
    { frame with fromId := sender }.validate = frame.validate := by
  rfl

@[simp] theorem FileChunkFrame.validate_fromId
    (chunk : FileChunkFrame)
    (sender : Option Uuid) :
    { chunk with fromId := sender }.validate = chunk.validate := by
  rfl

/-- A valid chunk passes each of the six checks. -/
theorem FileChunkFrame.validate_eq_ok
    {chunk : FileChunkFrame} :
    chunk.validate = .ok () ↔
      chunk.name ≠ "" ∧
        '\x00' ∉ chunk.name.toList ∧
        chunk.totalChunks ≠ 0 ∧
        chunk.chunkIndex < chunk.totalChunks ∧
        chunk.payloadB64 ≠ "" ∧
        chunk.fileSha256 ≠ "" := by
  have bound :
      chunk.totalChunks ≤ chunk.chunkIndex ↔
        ¬ chunk.chunkIndex < chunk.totalChunks :=
    UInt32.not_lt.symm
  unfold validate
  rw [if_congr bound rfl rfl]
  split_ifs <;> simp_all [-UInt32.not_lt]

end ClipboardWire
