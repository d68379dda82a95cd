import ClipboardWire.FrameValue

namespace ClipboardWire

open JsonValue

/-!
# The protocol of the Android client

`Protocol.kt`: `parseFrame` and the two builders, over the accessors of
`org.json` that they use.  What the library itself does with a text, and how
it converts values of another type, is a parameter; an exception is `none`.
The second half compares the two implementations of the wire format.
-/

/-- The parts of `org.json` that the client relies on. -/
structure OrgJson where
  /-- `JSONObject(text)`, as far as the value of the text. -/
  parse : String → Option Json
  /-- `JSONObject.toString`. -/
  print : Json → String
  /-- `String.valueOf` of a value that is no string. -/
  valueOf : Json → String
  /-- `getLong` of a value that is no integer in range. -/
  longValue : Json → Option Int64
  /-- What an integer that is no `Long` is read as. -/
  largeInteger : Int → Json

namespace OrgJson

mutual

/-- What the library makes of a value: only large integers may change. -/
def reading (org : OrgJson) : Json → Json
  | .integer value =>
      if (FrameReader.readInt64 (.integer value)).isSome then
        .integer value
      else
        org.largeInteger value
  | .array items =>
      .array (org.readingItems items)
  | .object members =>
      .object (org.readingMembers members)
  | other =>
      other

/-- What the library makes of the items of an array. -/
def readingItems (org : OrgJson) : List Json → List Json
  | [] => []
  | item :: rest => org.reading item :: org.readingItems rest

/-- What the library makes of the members of an object. -/
def readingMembers (org : OrgJson) :
    List (String × Json) → List (String × Json)
  | [] => []
  | (name, value) :: rest =>
      (name, org.reading value) :: org.readingMembers rest

end

/-- The value of a name; a repeated name keeps its last value. -/
def opt (name : String) (members : List (String × Json)) : Option Json :=
  (valuesOf name members).getLast?

/-- The text of a value. -/
def text (org : OrgJson) : Json → String
  | .string content => content
  | other => org.valueOf other

/-- `JSONObject.getString`. -/
def getString
    (org : OrgJson)
    (members : List (String × Json))
    (name : String) :
    Option String :=
  (opt name members).map org.text

/-- `JSONObject.optString`, with what to return when the name is missing. -/
def optString
    (org : OrgJson)
    (members : List (String × Json))
    (name : String)
    (fallback : Option String) :
    Option String :=
  match opt name members with
  | some value => some (org.text value)
  | none => fallback

/-- `JSONObject.getLong`. -/
def getLong
    (org : OrgJson)
    (members : List (String × Json))
    (name : String) :
    Option Int64 :=
  (opt name members).bind fun value =>
    match FrameReader.readInt64 value with
    | some number => some number
    | none => org.longValue value

/-- `JSONObject.optJSONObject`. -/
def optJSONObject (members : List (String × Json)) (name : String) :
    Option (List (String × Json)) :=
  match opt name members with
  | some (.object inner) => some inner
  | _ => none

end OrgJson

namespace Android

/-- `Frame.Clip`. -/
structure Clip where
  id : String
  ts : Int64
  contentType : String
  content : Option String
  contentB64 : Option String
  sender : Option String
  deriving DecidableEq, Repr

/-- `Frame.Welcome`. -/
structure Welcome where
  server : String
  clientId : String
  lastClip : Option Clip
  deriving DecidableEq, Repr

/-- `Protocol.Frame`. -/
inductive Frame where
  | welcome (frame : Welcome)
  | clip (frame : Clip)
  | error (code message : String)
  | unknown
  deriving DecidableEq, Repr

/-- `parseClip`. -/
def parseClip (org : OrgJson) (members : List (String × Json)) :
    Option Clip := do
  let id ← org.getString members "id"
  let ts ← org.getLong members "ts"
  let contentType ← org.getString members "content_type"
  return {
    id := id
    ts := ts
    contentType := contentType
    content := org.optString members "content" none
    contentB64 := org.optString members "content_b64" none
    sender := org.optString members "from" none }

/-- The part of `parseFrame` behind the type. -/
def parseMembers (org : OrgJson) (members : List (String × Json)) :
    String → Option Frame
  | "welcome" => do
      let server ← org.getString members "server"
      let clientId ← org.getString members "client_id"
      let lastClip ←
        match OrgJson.optJSONObject members "last_clip" with
        | some inner => (parseClip org inner).map some
        | none => some none
      return .welcome
        { server := server, clientId := clientId, lastClip := lastClip }
  | "clip" =>
      (parseClip org members).map Frame.clip
  | "error" => do
      let code ← org.getString members "code"
      let message ← org.getString members "message"
      return .error code message
  | _ =>
      some .unknown

/-- `parseFrame`. -/
def parseFrame (org : OrgJson) (content : String) : Option Frame :=
  match org.parse content with
  | some (.object members) =>
      parseMembers org members
        ((org.optString members "type" (some "")).getD "")
  | _ => none

/-- The object of `buildClipText`. -/
def clipTextValue (id : Uuid) (ts : Int64) (text : String) : Json :=
  .object
    [("type", .string "clip"),
      ("id", .string id.hyphenated),
      ("ts", .integer ts.toInt),
      ("content_type", .string textContentType),
      ("content", .string text)]

/-- `buildClipText`, with the identifier and the time that it draws. -/
def buildClipText (org : OrgJson) (id : Uuid) (ts : Int64) (text : String) :
    String :=
  org.print (clipTextValue id ts text)

/-- The object of `buildClipImage`. -/
def clipImageValue (id : Uuid) (ts : Int64) (base64Png : String) : Json :=
  .object
    [("type", .string "clip"),
      ("id", .string id.hyphenated),
      ("ts", .integer ts.toInt),
      ("content_type", .string imagePngContentType),
      ("content_b64", .string base64Png)]

/-- `buildClipImage`, with the identifier and the time that it draws. -/
def buildClipImage
    (org : OrgJson)
    (id : Uuid)
    (ts : Int64)
    (base64Png : String) :
    String :=
  org.print (clipImageValue id ts base64Png)

/-! ## The two implementations of the wire format -/

/-- The fields of a clip as the client names them. -/
def Clip.ofFrame (clip : ClipFrame) : Clip where
  id := clip.id.hyphenated
  ts := clip.ts
  contentType := clip.contentType
  content := clip.content
  contentB64 := clip.contentB64
  sender := clip.fromId.map Uuid.hyphenated

/-- The fields of a frame as the client names them. -/
def Frame.ofFrame : ClipboardWire.Frame → Frame
  | .clip frame =>
      .clip (.ofFrame frame)
  | .welcome frame =>
      .welcome
        { server := frame.server
          clientId := frame.clientId.hyphenated
          lastClip := frame.lastClip.map Clip.ofFrame }
  | .error frame =>
      .error frame.code.name frame.message
  | .fileChunk _ =>
      .unknown

/-- A clip has the same fields on both sides. -/
theorem parseClip_values (org : OrgJson) (clip : ClipFrame) :
    parseClip org clip.values = some (.ofFrame clip) := by
  rcases clip with ⟨id, ts, contentType, content, contentB64, sender⟩
  cases content <;> cases contentB64 <;> cases sender <;>
    simp [parseClip, OrgJson.getString, OrgJson.getLong, OrgJson.optString,
      OrgJson.opt, OrgJson.text, ClipFrame.values, optionalValue, valuesOf,
      FrameReader.readInt64_integer, Clip.ofFrame, Uuid.json]

/-- The tag of a clip is no field. -/
theorem parseClip_tag
    (org : OrgJson)
    (tag : Json)
    (members : List (String × Json)) :
    parseClip org (("type", tag) :: members) = parseClip org members := by
  simp [parseClip, OrgJson.getString, OrgJson.getLong, OrgJson.optString,
    OrgJson.opt, valuesOf]

@[simp] theorem OrgJson.reading_string (org : OrgJson) (text : String) :
    org.reading (.string text) = .string text := by
  simp only [OrgJson.reading]

/-- The values of a name are read one by one. -/
theorem OrgJson.valuesOf_readingMembers
    (org : OrgJson)
    (name : String)
    (members : List (String × Json)) :
    valuesOf name (org.readingMembers members) =
      (valuesOf name members).map org.reading := by
  induction members with
  | nil =>
      rfl
  | cons member rest inductionHypothesis =>
      simp only [valuesOf, OrgJson.readingMembers, List.filter_cons]
        at inductionHypothesis ⊢
      split
      · simp only [List.map_cons, inductionHypothesis]
      · exact inductionHypothesis

/-- The type of a frame is its tag. -/
theorem optString_type (org : OrgJson) (frame : ClipboardWire.Frame) :
    org.optString
        (("type", .string frame.tag) :: org.readingMembers frame.values)
        "type" (some "") =
      some frame.tag := by
  have noOther : valuesOf "type" (org.readingMembers frame.values) = [] := by
    rw [OrgJson.valuesOf_readingMembers, (FrameReader.valuesOf_type frame).1,
      List.map_nil]
  have only :
      valuesOf "type"
          (("type", .string frame.tag) :: org.readingMembers frame.values) =
        [.string frame.tag] := by
    rw [valuesOf, List.filter_cons_of_pos (by simp), List.map_cons]
    exact congrArg _ noOther
  simp only [OrgJson.optString, OrgJson.opt, only, List.getLast?_singleton,
    OrgJson.text]

/-- The library keeps the members of a clip. -/
theorem readingMembers_clip (org : OrgJson) (clip : ClipFrame) :
    org.readingMembers clip.values = clip.values := by
  rcases clip with ⟨id, ts, contentType, content, contentB64, sender⟩
  cases content <;> cases contentB64 <;> cases sender <;>
    simp [ClipFrame.values, optionalValue, OrgJson.readingMembers,
      OrgJson.reading, FrameReader.readInt64_integer, Uuid.json]

/-- The library keeps the members of a welcome. -/
theorem readingMembers_welcome (org : OrgJson) (welcome : WelcomeFrame) :
    org.readingMembers (ClipboardWire.Frame.welcome welcome).values =
      (ClipboardWire.Frame.welcome welcome).values := by
  rcases welcome with ⟨server, clientId, _ | cached⟩ <;>
    simp [ClipboardWire.Frame.values, OrgJson.readingMembers, OrgJson.reading,
      readingMembers_clip, Uuid.json]

/-- A frame has the same fields on both sides; file chunks are unknown. -/
theorem parseFrame_text
    {org : OrgJson}
    {frame : ClipboardWire.Frame}
    (parsed : org.parse frame.text = some (org.reading frame.json)) :
    parseFrame org frame.text = some (.ofFrame frame) := by
  simp only [parseFrame, parsed, ClipboardWire.Frame.json, OrgJson.reading,
    OrgJson.readingMembers, optString_type, Option.getD_some]
  cases frame with
  | clip clip =>
      have fields := parseClip_values org clip
      simp only [ClipboardWire.Frame.tag, ClipboardWire.Frame.values,
        readingMembers_clip, parseMembers, parseClip_tag, fields]
      rfl
  | welcome welcome =>
      rw [readingMembers_welcome]
      rcases welcome with ⟨server, clientId, _ | cached⟩ <;>
        simp [ClipboardWire.Frame.tag, ClipboardWire.Frame.values,
          parseMembers, OrgJson.getString, OrgJson.optJSONObject, OrgJson.opt,
          OrgJson.text, valuesOf, parseClip_values, Frame.ofFrame, Uuid.json]
  | error error =>
      simp [ClipboardWire.Frame.tag, ClipboardWire.Frame.values,
        OrgJson.readingMembers, OrgJson.reading, parseMembers,
        OrgJson.getString, OrgJson.opt, OrgJson.text, valuesOf, Frame.ofFrame]
  | fileChunk chunk =>
      rfl

end Android

/-- The frame of an image clip that has not passed the hub yet. -/
def ClipFrame.image (id : Uuid) (ts : Int64) (base64Png : String) :
    ClipFrame where
  id := id
  ts := ts
  contentType := imagePngContentType
  content := none
  contentB64 := some base64Png
  fromId := none

/-- An image clip is valid. -/
theorem ClipFrame.validate_image (id : Uuid) (ts : Int64) (base64Png : String) :
    (ClipFrame.image id ts base64Png).validate = .ok () :=
  if_neg (by rw [ClipFrame.image, isTextContentType_imagePng]; decide)

namespace Android

/-- A built text is read as the clip with this text. -/
theorem readFrame_clipTextValue
    {reader : FrameReader}
    (printed : reader.ReadsPrinted)
    (id : Uuid)
    (ts : Int64)
    (text : String) :
    reader.readFrame (clipTextValue id ts text) =
      some (.clip (.text id ts text)) :=
  FrameReader.readFrame_json printed (.clip (.text id ts text))

/-- A built image is read as the clip with this image. -/
theorem readFrame_clipImageValue
    {reader : FrameReader}
    (printed : reader.ReadsPrinted)
    (id : Uuid)
    (ts : Int64)
    (base64Png : String) :
    reader.readFrame (clipImageValue id ts base64Png) =
      some (.clip (.image id ts base64Png)) :=
  FrameReader.readFrame_json printed (.clip (.image id ts base64Png))

/--
The wire format is the same on both sides, for every text that the libraries
take for the value it stands for: a frame is read back as it was, the client
finds the same fields in it, and what the client builds is a valid clip with
the given payload.
-/
theorem wire_agreement
    {reader : FrameReader}
    (org : OrgJson)
    (printed : reader.ReadsPrinted) :
    (∀ frame : ClipboardWire.Frame,
      (reader.parse frame.text = some frame.json →
        reader.fromStr frame.text = some frame) ∧
      (org.parse frame.text = some (org.reading frame.json) →
        parseFrame org frame.text = some (.ofFrame frame))) ∧
    (∀ id ts text,
      reader.parse (buildClipText org id ts text) =
        some (clipTextValue id ts text) →
      ∃ clip,
        reader.fromStr (buildClipText org id ts text) = some (.clip clip) ∧
          clip.validate = .ok () ∧ clip.content = some text) ∧
    (∀ id ts base64Png,
      reader.parse (buildClipImage org id ts base64Png) =
        some (clipImageValue id ts base64Png) →
      ∃ clip,
        reader.fromStr (buildClipImage org id ts base64Png) =
            some (.clip clip) ∧
          clip.validate = .ok () ∧ clip.contentB64 = some base64Png) := by
  refine ⟨fun frame => ⟨fun parsed => ?_, parseFrame_text⟩,
    fun id ts text parsed => ?_, fun id ts base64Png parsed => ?_⟩
  · rw [FrameReader.fromStr, parsed, Option.bind_some,
      FrameReader.readFrame_json printed]
  · refine ⟨.text id ts text, ?_, ClipFrame.validate_text id ts text, rfl⟩
    rw [FrameReader.fromStr, parsed, Option.bind_some,
      readFrame_clipTextValue printed]
  · refine ⟨.image id ts base64Png, ?_,
      ClipFrame.validate_image id ts base64Png, rfl⟩
    rw [FrameReader.fromStr, parsed, Option.bind_some,
      readFrame_clipImageValue printed]

/-- Every slash inside a printed value is escaped. -/
def slashEscaped (text : List Char) : List Char :=
  text.flatMap fun c => if c = '/' then ['\\', c] else [c]

/-- A text is one of the two texts of a value. -/
def PrintsAs (value : Json) (text : String) : Prop :=
  JsonText.valueText? value = some text.toList ∨
    (JsonText.valueText? value).map slashEscaped = some text.toList

instance (value : Json) (text : String) : Decidable (PrintsAs value text) :=
  inferInstanceAs (Decidable (_ ∨ _))

/-- The desktop side, for the texts of one value. -/
def readerOf (value : Json) : FrameReader where
  parse text := if PrintsAs value text then some value else none
  uuid := Uuid.ofHyphenated

/-- The Android side, for the texts of one value. -/
def orgOf (value : Json) : OrgJson where
  parse text := if PrintsAs value text then some value else none
  print other :=
    String.ofList (slashEscaped ((JsonText.valueText? other).getD []))
  valueOf _ := ""
  longValue _ := none
  largeInteger _ := .float

theorem readsPrinted_readerOf (value : Json) :
    (readerOf value).ReadsPrinted := by
  intro id
  simp only [readerOf, Uuid.ofHyphenated_hyphenated]

theorem parse_readerOf
    {value : Json}
    {text : String}
    (prints : PrintsAs value text) :
    (readerOf value).parse text = some value :=
  if_pos prints

theorem parse_orgOf
    {value : Json}
    {text : String}
    (prints : PrintsAs value text) :
    (orgOf value).parse text = some value :=
  if_pos prints

/-- The text of a frame is one of the texts of its value. -/
theorem printsAs_json (frame : ClipboardWire.Frame) :
    PrintsAs frame.json frame.text :=
  .inl (valueText?_json frame)

/-- What the Android side prints for a frame is a text of its value. -/
theorem printsAs_print (frame : ClipboardWire.Frame) (value : Json) :
    PrintsAs frame.json ((orgOf value).print frame.json) := by
  refine .inr ?_
  simp only [orgOf, valueText?_json, Option.map_some, Option.getD_some,
    String.toList_ofList]

/-- A welcome with a cached text. -/
def sampleWelcome : WelcomeFrame where
  server := protocolVersion
  clientId := ⟨7⟩
  lastClip :=
    some { ClipFrame.text ⟨5⟩ 0 "hello" with fromId := some ⟨3⟩ }

theorem sampleWelcome_agreement :
    let welcome := ClipboardWire.Frame.welcome sampleWelcome
    let text := clipTextValue ⟨11⟩ 1 "hi"
    let image := clipImageValue ⟨13⟩ 2 "AA=="
    ((readerOf welcome.json).fromStr welcome.text = some welcome ∧
      parseFrame (orgOf welcome.json) welcome.text =
        some (.ofFrame welcome)) ∧
    (∃ clip,
      (readerOf text).fromStr (buildClipText (orgOf text) ⟨11⟩ 1 "hi") =
          some (.clip clip) ∧
        clip.validate = .ok () ∧ clip.content = some "hi") ∧
    ∃ clip,
      (readerOf image).fromStr
            (buildClipImage (orgOf image) ⟨13⟩ 2 "AA==") =
          some (.clip clip) ∧
        clip.validate = .ok () ∧ clip.contentB64 = some "AA==" := by
  intro welcome text image
  have printed := printsAs_json welcome
  have kept : (orgOf welcome.json).reading welcome.json = welcome.json := by
    simp only [welcome, ClipboardWire.Frame.json, OrgJson.reading,
      OrgJson.readingMembers, readingMembers_welcome]
  have textPrinted :
      PrintsAs text (buildClipText (orgOf text) ⟨11⟩ 1 "hi") :=
    printsAs_print (.clip (.text ⟨11⟩ 1 "hi")) text
  have imagePrinted :
      PrintsAs image (buildClipImage (orgOf image) ⟨13⟩ 2 "AA==") :=
    printsAs_print (.clip (.image ⟨13⟩ 2 "AA==")) image
  have agreement (value : Json) :=
    wire_agreement (orgOf value) (readsPrinted_readerOf value)
  refine ⟨⟨?_, ?_⟩, ?_, ?_⟩
  · exact ((agreement welcome.json).1 welcome).1 (parse_readerOf printed)
  · refine ((agreement welcome.json).1 welcome).2 ?_
    rw [kept, parse_orgOf printed]
  · exact (agreement text).2.1 ⟨11⟩ 1 "hi" (parse_readerOf textPrinted)
  · exact (agreement image).2.2 ⟨13⟩ 2 "AA==" (parse_readerOf imagePrinted)

end Android

end ClipboardWire
