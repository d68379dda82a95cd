import ClipboardWire.AndroidProtocol
import ClipboardWire.ClientReplay
import ClipboardWire.ServerOrder
import Mathlib.Data.List.Forall2

namespace ClipboardWire

/-!
# From one clipboard to another

A change of a clipboard is encoded, printed, read and validated by the server,
stamped by the hub, printed again, and read and decoded by the receiver.  Each
of these steps has a module of its own; here they are put together along a
whole run of the server, for desktop and Android senders.
-/

namespace FrameReader

/-- The parser takes the text of a frame for the value that it stands for. -/
def Parses (reader : FrameReader) (frame : Frame) : Prop :=
  reader.parse frame.text = some frame.json

/-- A frame is read back from its text. -/
theorem fromStr_text
    {reader : FrameReader}
    {frame : Frame}
    (printed : reader.ReadsPrinted)
    (parses : reader.Parses frame) :
    reader.fromStr frame.text = some frame := by
  rw [fromStr, parses, Option.bind_some, readFrame_json printed]

end FrameReader

/-- The change that a desktop client finds in a text from the hub. -/
def changeOfText
    (reader : FrameReader)
    (codec : Codec)
    (png : PngCodec)
    (text : String) : Option ClipChange :=
  (reader.fromStr text).bind fun frame =>
    frame.clip?.bind (decoded? codec png)

section Journey

variable {reader : FrameReader} {codec : Codec} {png : PngCodec}
  {org : OrgJson} {config : ServerConfig} {sender : Uuid}

/--
A client has sent a text for a change of its clipboard: a desktop client by
`change_to_frame`, the Android service by `buildClipText` or `buildClipImage`.
The parsers of server and receiver are taken to be right about this text and
about the text that it is relayed as.
-/
inductive Copied
    (reader : FrameReader)
    (codec : Codec)
    (png : PngCodec)
    (org : OrgJson)
    (sender : Uuid) :
    String → ClipChange → Prop where
  | desktop {id : Uuid} {ts : Int64} {change : ClipChange} {clip : ClipFrame}
      (made : changeToFrame codec png id ts change = .ok clip)
      (wellFormed : change.WellFormed)
      (parses : reader.Parses (.clip clip))
      (relayed :
        reader.Parses (.clip { clip with fromId := some sender })) :
      Copied reader codec png org sender (Frame.clip clip).text change
  | phoneText {id : Uuid} {ts : Int64} {text : String}
      (parses :
        reader.parse (Android.buildClipText org id ts text) =
          some (Android.clipTextValue id ts text))
      (relayed :
        reader.Parses
          (.clip { ClipFrame.text id ts text with fromId := some sender })) :
      Copied reader codec png org sender
        (Android.buildClipText org id ts text) (.text text)
  | phoneImage {id : Uuid} {ts : Int64} {base64Png : String}
      {bytes : List UInt8} {image : ImageBytes}
      (payload : codec.decode base64Png = .ok bytes)
      (pixels : png.decode bytes = .ok image)
      (parses :
        reader.parse (Android.buildClipImage org id ts base64Png) =
          some (Android.clipImageValue id ts base64Png))
      (relayed :
        reader.Parses
          (.clip
            { ClipFrame.image id ts base64Png with fromId := some sender })) :
      Copied reader codec png org sender
        (Android.buildClipImage org id ts base64Png) (.image image)

/-- What the server and the receiver find in a text that a client sends. -/
structure Carried
    (reader : FrameReader)
    (codec : Codec)
    (png : PngCodec)
    (sender : Uuid)
    (text : String)
    (change : ClipChange)
    (clip : ClipFrame) : Prop where
  read : reader.fromStr text = some (.clip clip)
  valid : clip.validate = .ok ()
  change : frameToChange codec png clip = .ok change
  relayed : reader.Parses (.clip { clip with fromId := some sender })

/-- Every kind of client sends a valid clip that carries its change. -/
theorem Copied.exists_carried
    {text : String}
    {change : ClipChange}
    (printed : reader.ReadsPrinted)
    (base64 : ∀ bytes, codec.decode (codec.encode bytes) = .ok bytes)
    (lossless : png.Lossless)
    (copied : Copied reader codec png org sender text change) :
    ∃ clip, Carried reader codec png sender text change clip := by
  cases copied with
  | @desktop id ts _ clip made wellFormed parses relayed =>
      exact ⟨clip,
        { read := FrameReader.fromStr_text printed parses
          valid := (validate_of_changeToFrame made).1
          change :=
            frameToChange_of_changeToFrame base64 lossless wellFormed made
          relayed := relayed }⟩
  | @phoneText id ts text parses relayed =>
      refine ⟨.text id ts text,
        { read := ?_
          valid := ClipFrame.validate_text id ts text
          change := ?_
          relayed := relayed }⟩
      · rw [FrameReader.fromStr, parses, Option.bind_some,
          Android.readFrame_clipTextValue printed]
      · simp [frameToChange, ClipFrame.text, isTextContentType_text]
  | @phoneImage id ts base64Png bytes image payload pixels parses relayed =>
      refine ⟨.image id ts base64Png,
        { read := ?_
          valid := ClipFrame.validate_image id ts base64Png
          change := ?_
          relayed := relayed }⟩
      · rw [FrameReader.fromStr, parses, Option.bind_some,
          Android.readFrame_clipImageValue printed]
      · simp [frameToChange, ClipFrame.image, isTextContentType_imagePng,
          payload, decodePng, pixels]

/-- The clip that the server relays for a text from a client. -/
def clipRelayed?
    (fromStr : String → Option Frame)
    (config : ServerConfig)
    (sender : Uuid)
    (text : String) : Option ClipFrame :=
  (readerTurn fromStr config sender (.message (.text text))).pending.head?.bind
    fun message => message.relayed?.bind Frame.clip?

/-- A text that is relayed at all is relayed as the change that was copied. -/
theorem Carried.changeOfText_relayed
    {text : String}
    {change : ClipChange}
    {clip stamped : ClipFrame}
    (printed : reader.ReadsPrinted)
    (carried : Carried reader codec png sender text change clip)
    (relayed :
      clipRelayed? reader.fromStr config sender text = some stamped) :
    changeOfText reader codec png (Frame.clip stamped).text = some change := by
  have accepted :
      readText reader.fromStr sender text =
        .ok (.publish sender { clip with fromId := none }) := by
    simp only [readText, carried.read, carried.valid]
  have same : stamped = { clip with fromId := some sender } := by
    simp only [clipRelayed?, readerTurn, dispatch, accepted] at relayed
    split at relayed
    · exact (Option.some.inj relayed).symm
    · cases relayed
  subst stamped
  have decoded := carried.change
  rw [← frameToChange_fromId codec png clip (some sender)] at decoded
  rw [changeOfText, FrameReader.fromStr_text printed carried.relayed]
  simp [Frame.clip?, decoded?, decoded, Except.toOption]

/-- The texts that a client's socket has delivered. -/
def textsOf (sender : Uuid) (actions : List ServerAction) : List String :=
  actions.filterMap fun
    | .receive id (.message (.text content)) =>
        if id = sender then
          some content
        else
          none
    | _ =>
        none

/-- Only texts are relayed, so a client's frames are those of its texts. -/
theorem select_framesRead
    {Item : Type}
    (select : Frame → Option Item)
    (fromStr : String → Option Frame)
    (config : ServerConfig)
    (sender : Uuid)
    (actions : List ServerAction) :
    (framesRead fromStr config sender actions).filterMap select =
      (textsOf sender actions).filterMap fun text =>
        (readerTurn fromStr config sender
          (.message (.text text))).pending.head?.bind
            fun message => message.relayed?.bind select := by
  rw [framesRead, textsOf, List.filterMap_filterMap, List.filterMap_filterMap,
    List.filterMap_filterMap]
  refine congrArg (List.filterMap · actions) (funext fun action => ?_)
  cases action with
  | receive id event =>
      cases event with
      | message message =>
          by_cases own : id = sender
          · subst sender
            cases message with
            | text content =>
                simp only [ServerAction.read?, if_true, Option.bind_some]
            | _ =>
                simp only [ServerAction.read?, if_true, readerTurn,
                  Option.bind_none]
                split <;> rfl
          · cases message <;> simp [ServerAction.read?, own]
      | _ =>
          by_cases own : id = sender <;>
            simp [ServerAction.read?, own, readerTurn, ReaderTask.pending]
  | _ =>
      rfl

/-- A client's clips are those of its texts. -/
theorem clips_framesRead
    (fromStr : String → Option Frame)
    (config : ServerConfig)
    (sender : Uuid)
    (actions : List ServerAction) :
    (framesRead fromStr config sender actions).filterMap Frame.clip? =
      (textsOf sender actions).filterMap
        (clipRelayed? fromStr config sender) :=
  select_framesRead Frame.clip? fromStr config sender actions

/-- Of a list of copied texts, those that are relayed carry their changes. -/
theorem relayed_changes
    {texts : List String}
    {changes : List ClipChange}
    (printed : reader.ReadsPrinted)
    (base64 : ∀ bytes, codec.decode (codec.encode bytes) = .ok bytes)
    (lossless : png.Lossless)
    (copied :
      List.Forall₂ (Copied reader codec png org sender) texts changes) :
    List.SublistForall₂
      (fun clip change =>
        changeOfText reader codec png (Frame.clip clip).text = some change)
      (texts.filterMap (clipRelayed? reader.fromStr config sender))
      changes := by
  induction copied with
  | nil =>
      exact .nil
  | @cons text change texts changes copied _ inductionHypothesis =>
      obtain ⟨clip, carried⟩ :=
        copied.exists_carried printed base64 lossless
      cases relayed : clipRelayed? reader.fromStr config sender text with
      | none =>
          rw [List.filterMap_cons_none relayed]
          exact .cons_right inductionHypothesis
      | some stamped =>
          rw [List.filterMap_cons_some relayed]
          exact .cons (carried.changeOfText_relayed printed relayed)
            inductionHypothesis

/-- A part of a list that is related to another one is so, too. -/
private theorem sublistForall₂_of_sublist
    {First Second : Type}
    {Related : First → Second → Prop}
    {part whole : List First}
    {others : List Second}
    (related : List.SublistForall₂ Related whole others)
    (sublist : part.Sublist whole) :
    List.SublistForall₂ Related part others := by
  induction related generalizing part with
  | nil =>
      rw [List.sublist_nil.mp sublist]
      exact .nil
  | cons first _ inductionHypothesis =>
      cases sublist with
      | cons _ rest =>
          exact .cons_right (inductionHypothesis rest)
      | cons_cons _ rest =>
          exact .cons first (inductionHypothesis rest)
  | cons_right _ inductionHypothesis =>
      exact .cons_right (inductionHypothesis sublist)

/--
Copies arrive unchanged and in order.  When every text that a client's socket
has delivered was sent for a change of its clipboard, then in every run of the
server each clip of this client that a connection has been sent is, as a text
on the wire, decoded by the receiver to the change that was copied, and the
changes come in the order in which they were copied, each at most once.
-/
theorem copies_arrive_in_order
    {actions : List ServerAction}
    {server : Server}
    {receiver : Uuid}
    {connection : Connection}
    {changes : List ClipChange}
    (printed : reader.ReadsPrinted)
    (base64 : ∀ bytes, codec.decode (codec.encode bytes) = .ok bytes)
    (lossless : png.Lossless)
    (ran :
      StepRun.run? (Server.step? reader.fromStr config) (Server.start config)
        actions = some server)
    (known : server.relay.connections receiver = some connection)
    (copied :
      List.Forall₂ (Copied reader codec png org sender)
        (textsOf sender actions) changes) :
    List.SublistForall₂
      (fun clip change =>
        changeOfText reader codec png (Frame.clip clip).text = some change)
      ((connection.sent.filterMap Frame.clip?).filter
        (fun clip => clip.fromId = some sender))
      changes := by
  have inOrder := Server.clips_sent_in_order ran known sender
  rw [clips_framesRead] at inOrder
  exact sublistForall₂_of_sublist
    (relayed_changes printed base64 lossless copied) inOrder

end Journey

/-- Parsers that know the texts of some frames, and no others. -/
def FrameReader.knowing (frames : List Frame) : FrameReader where
  parse text :=
    (frames.find? fun frame => frame.text = text).map Frame.json
  uuid := Uuid.ofHyphenated

/-- A text is found at its frame when no two frames have the same text. -/
private theorem find?_text
    {frames : List Frame}
    (different : (frames.map Frame.text).Nodup)
    {frame : Frame}
    (member : frame ∈ frames) :
    frames.find? (fun other => other.text = frame.text) = some frame := by
  induction frames with
  | nil =>
      cases member
  | cons first rest inductionHypothesis =>
      rw [List.map_cons, List.nodup_cons] at different
      rcases List.mem_cons.mp member with rfl | inRest
      · rw [List.find?_cons_of_pos (by simp)]
      · have other : ¬ first.text = frame.text := by
          intro same
          exact different.1 (same ▸ List.mem_map_of_mem inRest)
        rw [List.find?_cons_of_neg (by simpa using other)]
        exact inductionHypothesis different.2 inRest

/-- Such parsers are right about the frames if their texts differ. -/
theorem FrameReader.parses_knowing
    {frames : List Frame}
    (different : (frames.map Frame.text).Nodup)
    {frame : Frame}
    (member : frame ∈ frames) :
    (FrameReader.knowing frames).Parses frame := by
  simp only [FrameReader.Parses, FrameReader.knowing,
    find?_text different member, Option.map_some]

/-- Such parsers read identifiers as they are printed. -/
theorem FrameReader.readsPrinted_knowing (frames : List Frame) :
    (FrameReader.knowing frames).ReadsPrinted := by
  intro id
  simp only [FrameReader.knowing, Uuid.ofHyphenated_hyphenated]

/-- A copied text. -/
def journeyClip : ClipFrame :=
  .text ⟨5⟩ 0 "hi"

/-- The frames on the wire when client 2 gets a copied text of client 1. -/
def journeyFrames : List Frame :=
  [.clip journeyClip, .clip { journeyClip with fromId := some ⟨1⟩ },
    Relay.welcomeFrame ⟨2⟩ none]

/-- The parsers of the sample know these frames. -/
def journeyReader : FrameReader :=
  .knowing journeyFrames

/-- Client 1 copies a text, and client 2 is sent it after its welcome. -/
def journey : List ServerAction :=
  Server.joining ⟨1⟩ ++ Server.joining ⟨2⟩ ++
    [.receive ⟨1⟩ (.message (.text (Frame.clip journeyClip).text)),
      .publish ⟨1⟩, .process (.publish ⟨1⟩ journeyClip),
      .write ⟨2⟩, .write ⟨2⟩]

/-- The server at the end of the sample. -/
def journeyServer : Server :=
  (StepRun.run? (Server.step? journeyReader.fromStr Server.pairConfig)
    (Server.start Server.pairConfig) journey).get (by decide +kernel)

/-- The connection of client 2. -/
def journeyConnection : Connection :=
  (journeyServer.relay.connections ⟨2⟩).get (by decide +kernel)

/-- The texts of the sample are different ones. -/
private theorem journey_texts_nodup :
    (journeyFrames.map Frame.text).Nodup := by
  decide +kernel

/-- The parsers of the sample are right about its frames. -/
theorem journeyReader_parses
    {frame : Frame}
    (member : frame ∈ journeyFrames) :
    journeyReader.Parses frame :=
  FrameReader.parses_knowing journey_texts_nodup member

/-- The parsers of the sample read identifiers as they are printed. -/
theorem journeyReader_readsPrinted : journeyReader.ReadsPrinted :=
  FrameReader.readsPrinted_knowing journeyFrames

/-- What client 1 has sent is the text of its copy. -/
private theorem journey_copied :
    List.Forall₂
      (Copied journeyReader ReceiverState.sampleCodec samplePng
        (Android.orgOf .null) ⟨1⟩)
      (textsOf ⟨1⟩ journey) [.text "hi"] := by
  exact .cons
    (@Copied.desktop journeyReader ReceiverState.sampleCodec samplePng
      (Android.orgOf .null) ⟨1⟩ ⟨5⟩ 0 (.text "hi") journeyClip rfl
      trivial
      (journeyReader_parses (by simp [journeyFrames]))
      (journeyReader_parses (by simp [journeyFrames])))
    .nil

/-- On the sample the other client decodes the text that was copied. -/
theorem copies_arrive_in_order_sample :
    List.SublistForall₂
      (fun clip change =>
        changeOfText journeyReader ReceiverState.sampleCodec samplePng
            (Frame.clip clip).text =
          some change)
      ((journeyConnection.sent.filterMap Frame.clip?).filter
        (fun clip => clip.fromId = some ⟨1⟩))
      [.text "hi"] := by
  have ran :
      StepRun.run? (Server.step? journeyReader.fromStr Server.pairConfig)
        (Server.start Server.pairConfig) journey = some journeyServer :=
    (Option.some_get _).symm
  have known :
      journeyServer.relay.connections ⟨2⟩ = some journeyConnection :=
    (Option.some_get _).symm
  exact copies_arrive_in_order journeyReader_readsPrinted
    ReceiverState.lawful_sampleCodec.decode_encode
    lossless_samplePng ran known journey_copied

end ClipboardWire
