import ClipboardWire.FrameText
import ClipboardWire.HubFanOut

namespace ClipboardWire

open JsonText

/-!
# Size limits along the path of a frame

The server admits texts up to `max_frame_bytes`; what it accepts is stamped,
serialized again and sent to the other clients, and a clip is also wrapped
into later welcomes.  The clients connect with the default limits of their
WebSocket library, which are smaller.  The main result says which accepted
frames fit these limits: those whose own text leaves room for what the server
adds.
-/

/-- Limits of one side of a WebSocket connection. -/
structure WebSocketLimits where
  maxMessageSize : Nat
  maxFrameSize : Nat
  deriving DecidableEq, Repr

/-- A message that travels as a single frame is let through. -/
def WebSocketLimits.Admits
    (limits : WebSocketLimits)
    (bytes : Nat) : Prop :=
  bytes ≤ limits.maxMessageSize ∧ bytes ≤ limits.maxFrameSize

/-- `sync_handler` sets both limits to the same configured value. -/
def serverLimits (maxFrame : Nat) : WebSocketLimits where
  maxMessageSize := maxFrame
  maxFrameSize := maxFrame

/-- `connect_and_serve` passes no configuration: the library's defaults. -/
def clientLimits : WebSocketLimits where
  maxMessageSize := 64 * 1024 * 1024
  maxFrameSize := 16 * 1024 * 1024

/-- What the reader of `handle_socket` makes of one text message. -/
def readText
    (fromStr : String → Option Frame)
    (clientId : Uuid)
    (text : String) :
    Except ErrorFrame HubMessage :=
  match fromStr text with
  | some (.clip clip) =>
      match clip.validate with
      | .error reason =>
          .error ⟨.badFrame, reason⟩
      | .ok () =>
          .ok (.publish clientId { clip with fromId := none })
  | some (.fileChunk chunk) =>
      match chunk.validate with
      | .error reason =>
          .error ⟨.badFrame, reason⟩
      | .ok () =>
          .ok (.publishFile clientId { chunk with fromId := none })
  | some _ =>
      .error ⟨.badFrame, "unexpected frame type from client"⟩
  | none =>
      .error ⟨.badFrame, "malformed frame"⟩

/-- The frames that the writers send because of one hub message. -/
inductive Emits (message : HubMessage) : Frame → Prop where
  | clip {peer : Uuid} {clip : ClipFrame}
      (relayed : (RelayAction.process message).clipFor peer = some clip) :
      Emits message (.clip clip)
  | fileChunk {peer : Uuid} {chunk : FileChunkFrame}
      (relayed : (RelayAction.process message).chunkFor peer = some chunk) :
      Emits message (.fileChunk chunk)
  | welcome {peer : Uuid} {clip : ClipFrame}
      (cached : (RelayAction.process message).published? = some clip) :
      Emits message (Relay.welcomeFrame peer (some clip))

/-- What the server adds to the text of a frame by stamping its sender. -/
def stampBytes : Nat :=
  46

/-- What the server adds to the text of a clip by caching it in a welcome. -/
def welcomeBytes : Nat :=
  145

/-- The text of an accepted frame leaves room for what the server adds. -/
def LeavesRoom : HubMessage → Prop
  | .publish _ clip =>
      (Frame.clip clip).text.utf8ByteSize + welcomeBytes ≤
        clientLimits.maxFrameSize
  | .publishFile _ chunk =>
      (Frame.fileChunk chunk).text.utf8ByteSize + stampBytes ≤
        clientLimits.maxFrameSize
  | _ =>
      True

/-- Stamping a clip adds a member to its text. -/
private theorem utf8ByteSize_stamped_clip
    {clip : ClipFrame}
    (unstamped : clip.fromId = none)
    (sender : Uuid) :
    (Frame.clip { clip with fromId := some sender }).text.utf8ByteSize =
      (Frame.clip clip).text.utf8ByteSize + stampBytes := by
  simp only [Frame.utf8ByteSize_text, Frame.tag, Frame.members,
    ClipFrame.members, unstamped, optionalMember, Option.toList_none,
    Option.toList_some, List.map_nil, List.map_cons, List.map_append,
    List.sum_append, List.sum_cons, List.sum_nil, memberSize_from,
    stampBytes]
  omega

/-- The texts of chunks that differ in the payload differ by its size. -/
theorem utf8ByteSize_of_payload
    {chunk other : FileChunkFrame}
    (same : { chunk with payloadB64 := other.payloadB64 } = other) :
    (Frame.fileChunk other).text.utf8ByteSize +
        size (stringText chunk.payloadB64) =
      (Frame.fileChunk chunk).text.utf8ByteSize +
        size (stringText other.payloadB64) := by
  rw [← same]
  simp only [Frame.utf8ByteSize_text, Frame.tag, Frame.members,
    FileChunkFrame.members, List.map_cons, List.map_append, List.sum_append,
    List.sum_cons, memberSize]
  omega

/-- Stamping a chunk adds a member to its text. -/
theorem utf8ByteSize_stamped_chunk
    {chunk : FileChunkFrame}
    (unstamped : chunk.fromId = none)
    (sender : Uuid) :
    (Frame.fileChunk
        { chunk with fromId := some sender }).text.utf8ByteSize =
      (Frame.fileChunk chunk).text.utf8ByteSize + stampBytes := by
  simp only [Frame.utf8ByteSize_text, Frame.tag, Frame.members,
    FileChunkFrame.members, unstamped, optionalMember,
    Option.toList_none, Option.toList_some, List.map_nil, List.map_cons,
    List.map_append, List.sum_append, List.sum_cons, List.sum_nil,
    memberSize_from, stampBytes]
  omega

/-- A welcome wraps the cached clip into its own members. -/
private theorem utf8ByteSize_welcome
    (id : Uuid)
    (clip : ClipFrame) :
    (Relay.welcomeFrame id (some clip)).text.utf8ByteSize + stampBytes =
      (Frame.clip clip).text.utf8ByteSize + welcomeBytes := by
  have tags :
      size (stringText "welcome") = 9 ∧ size (stringText "clip") = 6 := by
    decide
  have keys :
      size (stringText "server") = 8 ∧
        size (stringText "client_id") = 11 ∧
        size (stringText "last_clip") = 11 ∧
        size (stringText protocolVersion) = 21 := by
    decide
  have nonempty : clip.members ≠ [] := by
    simp [ClipFrame.members]
  simp only [Frame.utf8ByteSize_text, Relay.welcomeFrame, Frame.tag,
    Frame.members, List.map_cons, List.map_nil, List.sum_cons,
    List.sum_nil, memberSize, size_objectText nonempty, tags, keys,
    id.size_jsonText, stampBytes, welcomeBytes]
  omega

/-- An accepted frame does not carry a sender. -/
private theorem readText_eq_ok
    {fromStr : String → Option Frame}
    {sender : Uuid}
    {text : String}
    {message : HubMessage}
    (accepted : readText fromStr sender text = .ok message) :
    (∃ clip, message = .publish sender clip ∧ clip.fromId = none) ∨
      ∃ chunk,
        message = .publishFile sender chunk ∧ chunk.fromId = none := by
  unfold readText at accepted
  split at accepted
  · split at accepted
    · cases accepted
    · cases accepted
      exact .inl ⟨_, rfl, rfl⟩
  · split at accepted
    · cases accepted
    · cases accepted
      exact .inr ⟨_, rfl, rfl⟩
  · cases accepted
  · cases accepted

/-- Some client is not the sender. -/
private theorem exists_peer (sender : Uuid) :
    ∃ peer, sender ≠ peer := by
  by_cases zero : sender = ⟨0⟩
  · refine ⟨⟨1⟩, ?_⟩
    rw [zero]
    decide
  · exact ⟨⟨0⟩, zero⟩

/--
Every frame that the server sends because of an accepted one is within the
limits of the receiving clients exactly when the text of the accepted frame
leaves room for what the server adds.
-/
theorem emitted_admitted_iff
    {fromStr : String → Option Frame}
    {sender : Uuid}
    {text : String}
    {message : HubMessage}
    (_admitted :
      text.utf8ByteSize ≤ (serverLimits maxFrameBytes).maxMessageSize)
    (accepted : readText fromStr sender text = .ok message) :
    (∀ frame, Emits message frame →
        clientLimits.Admits frame.text.utf8ByteSize) ↔
      LeavesRoom message := by
  have limits : clientLimits.maxFrameSize ≤ clientLimits.maxMessageSize := by
    decide
  rcases readText_eq_ok accepted with
    ⟨clip, rfl, unstamped⟩ | ⟨chunk, rfl, unstamped⟩
  · have stamped := utf8ByteSize_stamped_clip unstamped sender
    have wrapped (peer : Uuid) :=
      utf8ByteSize_welcome peer { clip with fromId := some sender }
    constructor
    · intro fits
      have emitted :
          Emits (.publish sender clip)
            (Relay.welcomeFrame sender
              (some { clip with fromId := some sender })) :=
        .welcome rfl
      have welcome := (fits _ emitted).2
      have wrapped := wrapped sender
      simp only [LeavesRoom, stampBytes, welcomeBytes] at *
      omega
    · intro room frame emitted
      simp only [LeavesRoom] at room
      cases emitted with
      | @clip peer _ relayed =>
          simp only [RelayAction.clipFor] at relayed
          split at relayed
          · cases relayed
          · cases relayed
            simp only [WebSocketLimits.Admits, stamped, stampBytes,
              welcomeBytes] at *
            omega
      | fileChunk relayed =>
          cases relayed
      | @welcome peer _ cached =>
          cases cached
          have wrapped := wrapped peer
          simp only [WebSocketLimits.Admits, stampBytes,
            welcomeBytes] at *
          omega
  · have stamped := utf8ByteSize_stamped_chunk unstamped sender
    constructor
    · intro fits
      obtain ⟨peer, different⟩ := exists_peer sender
      have relayed :
          (RelayAction.process (.publishFile sender chunk)).chunkFor peer =
            some { chunk with fromId := some sender } :=
        if_neg different
      have chunkFits := (fits _ (.fileChunk relayed)).2
      rw [stamped] at chunkFits
      exact chunkFits
    · intro room frame emitted
      simp only [LeavesRoom] at room
      cases emitted with
      | clip relayed =>
          cases relayed
      | @fileChunk peer _ relayed =>
          simp only [RelayAction.chunkFor] at relayed
          split at relayed
          · cases relayed
          · cases relayed
            simp only [WebSocketLimits.Admits, stamped]
            exact ⟨Nat.le_trans room limits, room⟩
      | welcome cached =>
          cases cached

/-- A parser that knows the text of one frame. -/
def parsesOnly (frame : Frame) (text : String) : Option Frame :=
  if text = frame.text then
    some frame
  else
    none

/-- A valid clip is accepted from its own text. -/
private theorem readText_parsesOnly
    {clip : ClipFrame}
    (valid : clip.validate = .ok ())
    (unstamped : clip.fromId = none)
    (sender : Uuid) :
    readText (parsesOnly (.clip clip)) sender (Frame.clip clip).text =
      .ok (.publish sender clip) := by
  have same : { clip with fromId := none } = clip := by
    cases clip
    cases unstamped
    rfl
  simp only [readText, parsesOnly, ↓reduceIte, valid, same]

/-- A short text clip. -/
def shortClip : ClipFrame :=
  .text ⟨5⟩ 0 "hello"

/-- A short clip leaves room, and fits wherever it is sent. -/
theorem emitted_admitted_iff_short :
    (∀ frame, Emits (.publish ⟨1⟩ shortClip) frame →
        clientLimits.Admits frame.text.utf8ByteSize) ↔
      LeavesRoom (.publish ⟨1⟩ shortClip) :=
  emitted_admitted_iff
    (by decide +kernel)
    (readText_parsesOnly rfl rfl ⟨1⟩)

/-- A text clip of a given number of letters. -/
def letterClip (count : Nat) : ClipFrame :=
  .text ⟨5⟩ 0 (String.ofList (List.replicate count 'a'))

/-- The text of a letter clip takes one byte a letter and 122 more. -/
private theorem utf8ByteSize_letterClip (count : Nat) :
    (Frame.clip (letterClip count)).text.utf8ByteSize = count + 122 := by
  have letter : Plain 'a' := by
    decide
  have content :
      size (stringText (String.ofList (List.replicate count 'a'))) =
        count + 2 := by
    rw [size_stringText_of_plain, String.toList_ofList,
      List.length_replicate]
    intro c member
    rw [String.toList_ofList] at member
    rw [List.eq_of_mem_replicate member]
    exact letter
  have tag : size (stringText "clip") = 6 := by
    decide
  have keys :
      size (stringText "id") = 4 ∧
        size (stringText "ts") = 4 ∧
        size (stringText "content_type") = 14 ∧
        size (stringText "content") = 9 ∧
        size (stringText textContentType) = 27 ∧
        size (numberText 0) = 1 := by
    decide
  simp only [Frame.utf8ByteSize_text, Frame.tag, Frame.members,
    ClipFrame.members, letterClip, ClipFrame.text, optionalMember,
    Option.toList_none, Option.toList_some, List.map_nil, List.map_cons,
    List.map_append, List.sum_append, List.sum_cons, List.sum_nil,
    memberSize, Uuid.size_jsonText, content, tag, keys]
  have timestamp : size (numberText (0 : Int64).toInt) = 1 := by
    decide
  rw [timestamp]
  omega

/-- A clip of 17 MiB is accepted, but no client can receive it. -/
theorem accepted_clip_not_admitted :
    (Frame.clip (letterClip (17 * 1024 * 1024))).text.utf8ByteSize ≤
        (serverLimits maxFrameBytes).maxMessageSize ∧
      readText (parsesOnly (.clip (letterClip (17 * 1024 * 1024)))) ⟨1⟩
          (Frame.clip (letterClip (17 * 1024 * 1024))).text =
        .ok (.publish ⟨1⟩ (letterClip (17 * 1024 * 1024))) ∧
      ∃ frame,
        Emits (.publish ⟨1⟩ (letterClip (17 * 1024 * 1024))) frame ∧
          ¬ clientLimits.Admits frame.text.utf8ByteSize := by
  have relayed :
      (RelayAction.process
          (.publish ⟨1⟩ (letterClip (17 * 1024 * 1024)))).clipFor ⟨2⟩ =
        some { letterClip (17 * 1024 * 1024) with fromId := some ⟨1⟩ } :=
    rfl
  refine ⟨?_, readText_parsesOnly rfl rfl ⟨1⟩, _, .clip relayed, ?_⟩
  · rw [utf8ByteSize_letterClip]
    decide
  · rintro ⟨-, fits⟩
    rw [utf8ByteSize_stamped_clip rfl, utf8ByteSize_letterClip] at fits
    revert fits
    decide

end ClipboardWire
