import ClipboardWire.AndroidProtocol
import ClipboardWire.ClientClipboard
import ClipboardWire.StepRun

namespace ClipboardWire

namespace Android

/-!
# The sync service of the Android client

`SendDecision`, `SendBridge.attempt` and the clipboard handling of
`ClipboardSyncService.kt`: the clips that come in, the listener of the local
clipboard, and the sends that the user asks for.  Codecs and the clipboard
belong to the platform.  Whether `sendText` accepts a message is up to the
WebSocket, so every step that may send says what it would answer.

Whoever sets the clipboard, the platform calls the listener afterwards.  Here
an inbound clip or a copy of the user and the call of the listener that it
causes are one atomic step: nothing comes between them.
-/

/-- `ClipPayload`. -/
inductive ClipPayload where
  | text (text : String)
  | image (base64Png : String)
  deriving DecidableEq, Repr

/-- `Trigger`. -/
inductive Trigger where
  | manual
  | auto
  deriving DecidableEq, Repr

/-- `SendOutcome`. -/
inductive SendOutcome where
  | sent
  | nothingToSend
  | alreadyOnDesktop
  | skippedSensitive
  | tooLarge
  | notRunning
  | notConnected
  | readFailed
  deriving DecidableEq, Repr

/-- `MAX_FRAME_CHARS`. -/
def maxFrameChars : Nat :=
  15 * 1024 * 1024

/-- `Char.isWhitespace`. -/
def isWhitespace (c : Char) : Bool :=
  let code := c.toNat
  (0x09 ≤ code ∧ code ≤ 0x0D) || (0x1C ≤ code ∧ code ≤ 0x20) ||
    (0x2000 ≤ code ∧ code ≤ 0x200A) ||
      [0xA0, 0x1680, 0x2028, 0x2029, 0x202F, 0x205F, 0x3000].contains code

/-- `CharSequence.isBlank`. -/
def isBlank (text : String) : Bool :=
  text.toList.all isWhitespace

/-- The length of a string in UTF-16. -/
def utf16Length (text : String) : Nat :=
  (text.toList.map fun c => if c.toNat < 0x10000 then 1 else 2).sum

namespace ClipPayload

/-- `fingerprint`. -/
def fingerprint : ClipPayload → String
  | .text content => content
  | .image base64Png => base64Png

/-- A text of white space. -/
def isBlankText : ClipPayload → Bool
  | .text content => isBlank content
  | .image _ => false

/-- An image that does not fit into a frame. -/
def isTooLarge : ClipPayload → Bool
  | .text _ => false
  | .image base64Png => maxFrameChars < utf16Length base64Png

end ClipPayload

/-- `SendDecision.decide`. -/
def SendDecision.decide
    (payload : Option ClipPayload)
    (trigger : Trigger)
    (fromOwnProvider sensitive serviceRunning connected : Bool)
    (lastSent lastReceived : Option String) :
    SendOutcome :=
  match payload with
  | none =>
      .nothingToSend
  | some payload =>
      if payload.isBlankText then
        .nothingToSend
      else if fromOwnProvider then
        .alreadyOnDesktop
      else if trigger = .auto ∧ sensitive then
        .skippedSensitive
      else if lastSent = some payload.fingerprint then
        .alreadyOnDesktop
      else if trigger = .auto ∧ lastReceived = some payload.fingerprint then
        .alreadyOnDesktop
      else if payload.isTooLarge then
        .tooLarge
      else if ¬ serviceRunning then
        .notRunning
      else if ¬ connected then
        .notConnected
      else
        .sent

/-- What the service relies on in the platform; an exception is `none`. -/
structure Platform where
  /-- `Base64.decode` with `DEFAULT`. -/
  decodeBase64 : String → Option (List UInt8)
  /-- `Base64.encodeToString` with `NO_WRAP`. -/
  encodeBase64 : List UInt8 → String
  /-- `BitmapFactory.decodeByteArray`. -/
  decodeByteArray : List UInt8 → Option ImageBytes
  /-- `Bitmap.compress` to a PNG. -/
  compress : ImageBytes → List UInt8
  /-- The URI of the image in the cache directory. -/
  imageUri : String

/-- An item of a clip on the clipboard. -/
structure ClipItem where
  text : Option String
  uri : Option String
  deriving DecidableEq, Repr

/-- A clip on the clipboard, with the first type of its description. -/
structure ClipData where
  mimeType : Option String
  items : List ClipItem
  deriving DecidableEq, Repr

/-- The type of an image starts like this. -/
def isImageContentType (mime : String) : Bool :=
  "image/".toList.isPrefixOf mime.toList

namespace ClipData

/-- `ClipData.newPlainText`. -/
def newPlainText (text : String) : ClipData where
  mimeType := some "text/plain"
  items := [⟨some text, none⟩]

/-- `ClipData.newUri`, for a PNG file of the provider. -/
def newUri (uri : String) : ClipData where
  mimeType := some imagePngContentType
  items := [⟨none, some uri⟩]

/-- The text of a textual clip. -/
def text? (clip : ClipData) : Option String := do
  let item ← clip.items.head?
  let mime ← clip.mimeType
  if isTextContentType mime then item.text else none

/-- The URI of an image clip. -/
def imageUri? (clip : ClipData) : Option String := do
  let item ← clip.items.head?
  let mime ← clip.mimeType
  if isTextContentType mime then
    none
  else if isImageContentType mime then
    item.uri
  else
    none

end ClipData

/-- The service, and what it sees of the phone. -/
structure Phone where
  /-- `SendBridge.service` is set. -/
  serviceRunning : Bool
  connected : Bool
  clientId : Option String
  lastSentContent : Option String
  lastReceivedContent : Option String
  primaryClip : Option ClipData
  /-- The file that inbound images are written to. -/
  clipboardImage : Option (List UInt8)

namespace Clip

/-- `clip.content ?: clip.contentB64`. -/
def fingerprint (clip : Clip) : Option String :=
  clip.content.or clip.contentB64

/-- What a clip carries. -/
def payload (clip : Clip) : Option ClipPayload :=
  (clip.content.map ClipPayload.text).or
    (clip.contentB64.map ClipPayload.image)

/-- The text of a text clip. -/
def text? (clip : Clip) : Option String :=
  if isTextContentType clip.contentType then clip.content else none

/-- The picture of an image clip. -/
def image? (clip : Clip) : Option String :=
  if clip.contentType = imagePngContentType then clip.contentB64 else none

end Clip

namespace Phone

variable (platform : Platform)

/-- `setPrimaryClip`. -/
def setPrimaryClip (phone : Phone) (clip : ClipData) : Phone :=
  { phone with primaryClip := some clip }

/-- A clip comes from this connection. -/
def IsOwn (phone : Phone) (clip : Clip) : Prop :=
  clip.sender ≠ none ∧ clip.sender = phone.clientId

instance (phone : Phone) (clip : Clip) : Decidable (phone.IsOwn clip) :=
  inferInstanceAs (Decidable (_ ∧ _))

/-- The `when` of `applyInboundClip`, and whether it sets the clipboard. -/
def applyContent (phone : Phone) (clip : Clip) : Phone × Bool :=
  match clip.text? with
  | some text =>
      (phone.setPrimaryClip (.newPlainText text), true)
  | none =>
      match
        (clip.image?.bind platform.decodeBase64).bind
          platform.decodeByteArray with
      | some bitmap =>
          ({ phone with
              clipboardImage := some (platform.compress bitmap) }.setPrimaryClip
            (.newUri platform.imageUri), true)
      | none =>
          (phone, false)

/-- `applyInboundClip`, and whether it sets the clipboard. -/
def applyInboundClip (phone : Phone) (clip : Clip) : Phone × Bool :=
  if phone.IsOwn clip then
    (phone, false)
  else
    match clip.fingerprint with
    | none =>
        (phone, false)
    | some fingerprint =>
        if phone.lastReceivedContent = some fingerprint then
          (phone, false)
        else
          { phone with
            lastReceivedContent := some fingerprint
            lastSentContent := some fingerprint }.applyContent platform clip

/-- `openInputStream`; other providers serve what they like. -/
def openInputStream
    (phone : Phone)
    (stream : Option (List UInt8))
    (uri : String) :
    Option (List UInt8) :=
  if uri = platform.imageUri then phone.clipboardImage else stream

/-- What the listener finds on the clipboard. -/
def localPayload?
    (phone : Phone)
    (stream : Option (List UInt8)) :
    Option ClipPayload := do
  let clip ← phone.primaryClip
  match clip.text? with
  | some text =>
      return .text text
  | none =>
      let uri ← clip.imageUri?
      let bytes ← phone.openInputStream platform stream uri
      let bitmap ← platform.decodeByteArray bytes
      return .image (platform.encodeBase64 (platform.compress bitmap))

/-- `onLocalClipboardChanged`, and what it hands to `sendText`. -/
def onLocalClipboardChanged
    (phone : Phone)
    (stream : Option (List UInt8)) :
    Phone × Option ClipPayload :=
  match phone.localPayload? platform stream with
  | none =>
      (phone, none)
  | some payload =>
      if phone.lastSentContent = some payload.fingerprint ∨
          phone.lastReceivedContent = some payload.fingerprint then
        (phone, none)
      else
        -- The content is remembered before `sendText` has answered.
        ({ phone with lastSentContent := some payload.fingerprint },
          some payload)

/-- `sendFromForeground`, with the answer of `sendText`. -/
def sendFromForeground
    (phone : Phone)
    (payload : ClipPayload)
    (trigger : Trigger)
    (fromOwnProvider sensitive accepted : Bool) :
    Phone × SendOutcome :=
  let outcome :=
    SendDecision.decide (some payload) trigger fromOwnProvider sensitive true
      phone.connected phone.lastSentContent phone.lastReceivedContent
  if outcome ≠ .sent then
    (phone, outcome)
  else if ¬ accepted then
    (phone, .notConnected)
  else
    ({ phone with lastSentContent := some payload.fingerprint }, .sent)

end Phone

/-- `ClipRead`, with its image encoded. -/
structure ClipRead where
  payload : Option ClipPayload
  fromOwnProvider : Bool
  sensitive : Bool
  deriving DecidableEq, Repr

/-- `SendBridge.attempt`; starting the service is a step of its own. -/
def Phone.attempt
    (phone : Phone)
    (read : Option ClipRead)
    (trigger : Trigger)
    (accepted : Bool) :
    Phone × SendOutcome :=
  match read with
  | none =>
      (phone, .readFailed)
  | some read =>
      if ¬ phone.serviceRunning then
        (phone,
          SendDecision.decide read.payload trigger read.fromOwnProvider
            read.sensitive false false none none)
      else
        match read.payload with
        | none =>
            (phone, .nothingToSend)
        | some payload =>
            phone.sendFromForeground payload trigger read.fromOwnProvider
              read.sensitive accepted

/-! ## Runs of the service -/

/-- What happens to the phone, with the answer of `sendText` if it is asked. -/
inductive PhoneEvent where
  /-- An app sets the clipboard, whose URI yields these bytes. -/
  | copy
      (clip : ClipData)
      (stream : Option (List UInt8))
      (accepted : Bool)
  | receive (clip : Clip) (accepted : Bool)
  | welcome (frame : Welcome) (accepted : Bool)
  | disconnect
  | attempt (read : Option ClipRead) (trigger : Trigger) (accepted : Bool)
  | start
  | stop

/-- The phone, with the payloads that went either way, the newest first. -/
structure PhoneLog where
  phone : Phone
  exchanged : List ClipPayload

namespace PhoneLog

/-- The service has just been created, or has just been welcomed. -/
def fresh
    (clientId : Option String)
    (primaryClip : Option ClipData)
    (clipboardImage : Option (List UInt8)) :
    PhoneLog where
  phone :=
    { serviceRunning := true
      connected := clientId.isSome
      clientId := clientId
      lastSentContent := none
      lastReceivedContent := none
      primaryClip := primaryClip
      clipboardImage := clipboardImage }
  exchanged := []

variable (platform : Platform)

/-- The listener runs. -/
def listen
    (log : PhoneLog)
    (stream : Option (List UInt8))
    (accepted : Bool) :
    PhoneLog :=
  let (phone, offered) := log.phone.onLocalClipboardChanged platform stream
  { phone := phone
    exchanged :=
      if accepted then offered.toList ++ log.exchanged else log.exchanged }

/-- A clip that is no echo has been received, whether or not it is applied. -/
def applied (log : PhoneLog) (clip : Clip) : PhoneLog where
  phone := (log.phone.applyInboundClip platform clip).1
  exchanged := clip.payload.toList ++ log.exchanged

/-- A clip is applied, and the listener runs if that sets the clipboard. -/
def receive (log : PhoneLog) (clip : Clip) (accepted : Bool) : PhoneLog :=
  if log.phone.IsOwn clip then
    log
  else if (log.phone.applyInboundClip platform clip).2 then
    (log.applied platform clip).listen platform none accepted
  else
    log.applied platform clip

/-- The clipboard is set, before anybody has seen it. -/
def setPrimaryClip (log : PhoneLog) (clip : ClipData) : PhoneLog :=
  { log with phone := log.phone.setPrimaryClip clip }

/-- The first half of `onConnected`. -/
def welcomed (log : PhoneLog) (frame : Welcome) : PhoneLog :=
  { log with
    phone :=
      { log.phone with clientId := some frame.clientId, connected := true } }

/-- A send that the user, or the main screen, asks for. -/
def attempt
    (log : PhoneLog)
    (read : Option ClipRead)
    (trigger : Trigger)
    (accepted : Bool) :
    PhoneLog :=
  let (phone, outcome) := log.phone.attempt read trigger accepted
  { phone := phone
    exchanged :=
      if outcome = .sent then
        (read.bind ClipRead.payload).toList ++ log.exchanged
      else
        log.exchanged }

/-- A new service knows neither a connection nor a content. -/
def restart (log : PhoneLog) : PhoneLog :=
  { fresh none log.phone.primaryClip log.phone.clipboardImage with
    exchanged := log.exchanged }

/-- One event; without a service nothing is received and nobody listens. -/
def step? (log : PhoneLog) : PhoneEvent → Option PhoneLog
  | .copy clip stream accepted =>
      if log.phone.serviceRunning then
        some ((log.setPrimaryClip clip).listen platform stream accepted)
      else
        some (log.setPrimaryClip clip)
  | .receive clip accepted =>
      if log.phone.serviceRunning then
        some (log.receive platform clip accepted)
      else
        none
  | .welcome frame accepted =>
      if log.phone.serviceRunning then
        match frame.lastClip with
        | some clip =>
            some ((log.welcomed frame).receive platform clip accepted)
        | none =>
            some (log.welcomed frame)
      else
        none
  | .disconnect =>
      some { log with phone := { log.phone with connected := false } }
  | .attempt read trigger accepted =>
      some (log.attempt read trigger accepted)
  | .start =>
      if log.phone.serviceRunning then
        none
      else
        some log.restart
  | .stop =>
      some { log with phone := { log.phone with serviceRunning := false } }

end PhoneLog

end Android

end ClipboardWire
