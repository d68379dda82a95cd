import ClipboardWire.AndroidService
import ClipboardWire.Base64

namespace ClipboardWire

namespace Android

/-!
# Duplicates and echoes on the phone

The first half is about texts that come and go while the phone is connected:
whether an inbound text gets to the clipboard, and whether a copied one gets to
the hub.  The second half is about the listener call that applying an inbound
clip causes.
-/

variable {platform : Platform}

/-- The text on the clipboard. -/
def Phone.clipboardText (phone : Phone) : Option String :=
  phone.primaryClip.bind ClipData.text?

/-- The text that an event is about, unless it is an echo. -/
def PhoneEvent.text? (phone : Phone) : PhoneEvent → Option String
  | .copy clip _ _ => clip.text?
  | .receive clip _ => if phone.IsOwn clip then none else clip.text?
  | _ => none

/-- A text that is copied or comes in while `sendText` accepts messages. -/
def PhoneEvent.IsText : PhoneEvent → Prop
  | .copy clip _ accepted => clip.text? ≠ none ∧ accepted = true
  | .receive clip accepted => clip.text? ≠ none ∧ accepted = true
  | _ => False

namespace PhoneLog

/--
An inbound text that is no echo is on the clipboard once it is applied; a
copied text is sent if it is not what went to or came from the hub last.
-/
def KeepsGenuine (platform : Platform) (log : PhoneLog) : PhoneEvent → Prop
  | .receive clip _ =>
      ∀ text,
        clip.text? = some text →
        ¬ log.phone.IsOwn clip →
        (log.phone.applyInboundClip platform clip).1.clipboardText = some text
  | .copy clip stream _ =>
      ∀ text,
        clip.text? = some text →
        log.exchanged.head? ≠ some (.text text) →
        ((log.phone.setPrimaryClip clip).onLocalClipboardChanged platform
          stream).2 = some (.text text)
  | _ => True

/--
A text that equals the last one that was received and applied is also the last
one that was sent: nothing else went out since.
-/
def RepeatsLatest (log : PhoneLog) (event : PhoneEvent) : Prop :=
  ∀ text,
    event.text? log.phone = some text →
    log.phone.lastReceivedContent = some text →
    log.phone.lastSentContent = some text

/-- The filters know the latest exchange, and so does the clipboard. -/
structure Aligned (log : PhoneLog) : Prop where
  running : log.phone.serviceRunning = true
  latest : log.exchanged.head? = log.phone.lastSentContent.map .text
  shown :
    log.phone.lastReceivedContent ≠ none →
      log.phone.clipboardText = log.phone.lastSentContent

/-- The listener finds a text that has been copied. -/
theorem localPayload?_of_text
    {phone : Phone}
    {stream : Option (List UInt8)}
    {text : String}
    (shown : phone.clipboardText = some text) :
    phone.localPayload? platform stream = some (.text text) := by
  obtain ⟨clip, isClip, isText⟩ := Option.bind_eq_some_iff.mp shown
  simp [Phone.localPayload?, isClip, isText]

/-- What the listener does with a text. -/
theorem onLocalClipboardChanged_of_text
    {phone : Phone}
    {stream : Option (List UInt8)}
    {text : String}
    (shown : phone.clipboardText = some text) :
    phone.onLocalClipboardChanged platform stream =
      if phone.lastSentContent = some text ∨
          phone.lastReceivedContent = some text then
        (phone, none)
      else
        ({ phone with lastSentContent := some text }, some (.text text)) := by
  rw [Phone.onLocalClipboardChanged, localPayload?_of_text shown]
  rfl

/-- What the listener makes of a text, when the text is accepted. -/
theorem listen_of_text
    {log : PhoneLog}
    {stream : Option (List UInt8)}
    {text : String}
    (shown : log.phone.clipboardText = some text) :
    log.listen platform stream true =
      if log.phone.lastSentContent = some text ∨
          log.phone.lastReceivedContent = some text then
        log
      else
        { phone := { log.phone with lastSentContent := some text }
          exchanged := .text text :: log.exchanged } := by
  simp only [listen, onLocalClipboardChanged_of_text shown]
  split <;> rfl

/-- An inbound text is its content. -/
theorem content_of_text
    {clip : Clip}
    {text : String}
    (isText : clip.text? = some text) :
    clip.content = some text := by
  unfold Clip.text? at isText
  split at isText
  · exact isText
  · cases isText

/-- What is done with an inbound text that is no echo. -/
theorem applyInboundClip_of_text
    {phone : Phone}
    {clip : Clip}
    {text : String}
    (isText : clip.text? = some text)
    (foreign : ¬ phone.IsOwn clip) :
    phone.applyInboundClip platform clip =
      if phone.lastReceivedContent = some text then
        (phone, false)
      else
        ({ phone with
            lastReceivedContent := some text
            lastSentContent := some text }.setPrimaryClip
          (.newPlainText text), true) := by
  simp only [Phone.applyInboundClip, if_neg foreign, Clip.fingerprint,
    content_of_text isText, Option.some_or, Phone.applyContent, isText]

/-- The clipboard holds the text that it was just set to. -/
theorem clipboardText_setPrimaryClip (phone : Phone) (clip : ClipData) :
    (phone.setPrimaryClip clip).clipboardText = clip.text? := by
  rfl

/-- A text that is set as such is read as such. -/
theorem text?_newPlainText (text : String) :
    (ClipData.newPlainText text).text? = some text := by
  have textual : isTextContentType "text/plain" = true := by
    decide
  simp [ClipData.newPlainText, ClipData.text?, textual]

/-- As long as the filters know the latest exchange, only returns are lost. -/
theorem Aligned.keeps_iff_repeats
    {log : PhoneLog}
    {event : PhoneEvent}
    (aligned : log.Aligned)
    (isText : event.IsText) :
    log.KeepsGenuine platform event ↔ log.RepeatsLatest event := by
  cases event with
  | copy clip stream accepted =>
      obtain ⟨text, hasText⟩ := Option.ne_none_iff_exists'.mp isText.1
      have shown := clipboardText_setPrimaryClip log.phone clip
      rw [hasText] at shown
      have latest :
          log.exchanged.head? = some (.text text) ↔
            log.phone.lastSentContent = some text := by
        simp [aligned.latest]
      simp only [KeepsGenuine, RepeatsLatest, PhoneEvent.text?, hasText,
        Option.some.injEq, forall_eq', ne_eq, latest,
        onLocalClipboardChanged_of_text shown]
      by_cases sent : log.phone.lastSentContent = some text <;>
        by_cases received : log.phone.lastReceivedContent = some text <;>
          simp [Phone.setPrimaryClip, sent, received]
  | receive clip accepted =>
      obtain ⟨text, hasText⟩ := Option.ne_none_iff_exists'.mp isText.1
      by_cases own : log.phone.IsOwn clip
      · simp [KeepsGenuine, RepeatsLatest, PhoneEvent.text?, own]
      · simp only [KeepsGenuine, RepeatsLatest, PhoneEvent.text?, hasText,
          Option.some.injEq, forall_eq', own, not_false_eq_true,
          forall_const, applyInboundClip_of_text hasText own]
        by_cases received : log.phone.lastReceivedContent = some text
        · have shown := aligned.shown (by simp [received])
          simp [received, shown]
        · simp [received, clipboardText_setPrimaryClip, text?_newPlainText]
  | _ =>
      exact isText.elim

theorem Aligned.step
    {log next : PhoneLog}
    {event : PhoneEvent}
    (aligned : log.Aligned)
    (isText : event.IsText)
    (repeats : log.RepeatsLatest event)
    (stepped : log.step? platform event = some next) :
    next.Aligned := by
  cases event with
  | copy clip stream accepted =>
      obtain ⟨⟨text, hasText⟩, rfl⟩ :=
        isText.imp_left Option.ne_none_iff_exists'.mp
      have shown := clipboardText_setPrimaryClip log.phone clip
      rw [hasText] at shown
      simp only [step?, aligned.running, if_true, Option.some.injEq] at stepped
      subst next
      rw [@listen_of_text platform (log.setPrimaryClip clip) stream text shown]
      split
      · rename_i suppressed
        have sent : log.phone.lastSentContent = some text :=
          suppressed.elim id (repeats text hasText)
        exact
          { running := aligned.running
            latest := aligned.latest
            shown := fun _ => shown.trans sent.symm }
      · exact
          { running := aligned.running
            latest := rfl
            shown := fun _ => shown }
  | receive clip accepted =>
      obtain ⟨⟨text, hasText⟩, rfl⟩ :=
        isText.imp_left Option.ne_none_iff_exists'.mp
      simp only [step?, aligned.running, if_true, Option.some.injEq] at stepped
      subst next
      by_cases own : log.phone.IsOwn clip
      · rwa [receive, if_pos own]
      · have payload : clip.payload = some (.text text) := by
          simp [Clip.payload, content_of_text hasText]
        by_cases received : log.phone.lastReceivedContent = some text
        · have sent : log.phone.lastSentContent = some text :=
            repeats text (by simp [PhoneEvent.text?, own, hasText]) received
          simp only [receive, if_neg own, applied,
            applyInboundClip_of_text hasText own, if_pos received, payload]
          exact
            { running := aligned.running
              latest := by simp [sent]
              shown := aligned.shown }
        · simp only [receive, if_neg own, applied,
            applyInboundClip_of_text hasText own, if_neg received, payload,
            if_true]
          rw [@listen_of_text platform _ none text ?_, if_pos (.inl rfl)]
          · exact
              { running := aligned.running
                latest := rfl
                shown := fun _ => text?_newPlainText text }
          · exact text?_newPlainText text
  | _ =>
      exact isText.elim

/--
Texts come and go from when the phone has been welcomed.  Every genuine one
gets to the other side exactly if no text comes back, from either side, that
was the last one received while another one has been sent since.
-/
theorem keepsGenuine_iff
    (clientId : String)
    (primaryClip : Option ClipData)
    (clipboardImage : Option (List UInt8))
    {events : List PhoneEvent}
    (texts : ∀ event ∈ events, event.IsText) :
    StepRun.Along (step? platform) (KeepsGenuine platform)
        (fresh (some clientId) primaryClip clipboardImage) events ↔
      StepRun.Along (step? platform) RepeatsLatest
        (fresh (some clientId) primaryClip clipboardImage) events := by
  refine StepRun.Along.congr_of_kept (motive := Aligned) ?_
    (fun member aligned => aligned.keeps_iff_repeats (texts _ member))
    (fun member aligned repeats stepped =>
      aligned.step (texts _ member) repeats stepped)
  exact
    { running := rfl
      latest := rfl
      shown := fun received => (received rfl).elim }

end PhoneLog

/-- A platform whose PNG files start with the level of their compression. -/
def samplePlatform : Platform where
  decodeBase64 text := (Base64.decode text).toOption
  encodeBase64 := Base64.encode
  decodeByteArray bytes :=
    (samplePng.decode bytes.tail).toOption.filter fun image =>
      image.rgba.length = image.pixelBytes
  compress image :=
    6 :: (littleEndian image.width ++ littleEndian image.height ++ image.rgba)
  imageUri := "content://provider/clipboard_image.png"

/-- A text from another client. -/
def inboundText (text : String) : Clip where
  id := "an identifier"
  ts := 0
  contentType := textContentType
  content := some text
  contentB64 := none
  sender := some "desktop"

namespace PhoneLog

/-- The desktop copies one text, and the phone another one. -/
def oneEach : List PhoneEvent :=
  [.receive (inboundText "first") true,
    .copy (.newPlainText "second") none true]

/-- Then the first text is copied again, on the desktop. -/
def firstAgain : List PhoneEvent :=
  oneEach ++ [.receive (inboundText "first") true]

theorem text_of_mem_firstAgain :
    ∀ event ∈ firstAgain, event.IsText := by
  have inbound : (inboundText "first").text? ≠ none := by
    decide
  have copied : (ClipData.newPlainText "second").text? ≠ none := by
    decide
  simp [firstAgain, oneEach, PhoneEvent.IsText, inbound, copied]

theorem oneEach_keepsGenuine_iff :
    StepRun.Along (step? samplePlatform) (KeepsGenuine samplePlatform)
        (fresh (some "phone") none none) oneEach ↔
      StepRun.Along (step? samplePlatform) RepeatsLatest
        (fresh (some "phone") none none) oneEach :=
  keepsGenuine_iff "phone" none none fun event member =>
    text_of_mem_firstAgain event (List.mem_append_left _ member)

/-- The text that comes back does not get to the clipboard. -/
theorem firstAgain_not_keepsGenuine :
    ¬ ∀ (platform : Platform) (clientId : String) (events : List PhoneEvent),
        (∀ event ∈ events, event.IsText) →
          StepRun.Along (step? platform) (KeepsGenuine platform)
            (fresh (some clientId) none none) events := by
  intro always
  have along := always samplePlatform "phone" firstAgain text_of_mem_firstAgain
  have genuine := along.meets (List.prefix_refl firstAgain) rfl
  exact absurd (genuine "first" rfl (by decide)) (by decide)

end PhoneLog

/-! ## Echoes of inbound clips -/

/-- An encoded picture is decoded to the same pixels. -/
def Platform.Lossless (platform : Platform) : Prop :=
  ∀ bytes bitmap,
    platform.decodeByteArray bytes = some bitmap →
      platform.decodeByteArray (platform.compress bitmap) = some bitmap

/-- A picture that is set by its URI is read by its URI. -/
theorem imageUri?_newUri (uri : String) :
    (ClipData.newUri uri).text? = none ∧
      (ClipData.newUri uri).imageUri? = some uri := by
  have notText := isTextContentType_imagePng
  have image : isImageContentType imagePngContentType = true := by
    decide
  simp [ClipData.newUri, ClipData.text?, ClipData.imageUri?, notText, image]

namespace Phone

variable (platform : Platform)

/-- What the listener hands to `sendText` because a clip has been applied. -/
def bounce (phone : Phone) (clip : Clip) : Option ClipPayload :=
  if (phone.applyInboundClip platform clip).2 then
    ((phone.applyInboundClip platform clip).1.onLocalClipboardChanged platform
      none).2
  else
    none

/--
An image that is applied is what the phone makes of its pixels: it is the text
that encoding the decoded picture gives.
-/
def EncodesAlike (phone : Phone) (clip : Clip) : Prop :=
  ∀ bitmap,
    ¬ phone.IsOwn clip →
    phone.lastReceivedContent ≠ clip.fingerprint →
    clip.text? = none →
    (clip.image?.bind platform.decodeBase64).bind platform.decodeByteArray =
      some bitmap →
    clip.fingerprint =
      some (platform.encodeBase64 (platform.compress bitmap))

variable {platform}

/-- The listener finds the picture that has been written for it. -/
theorem localPayload?_of_image
    {phone : Phone}
    {bitmap : ImageBytes}
    (lossless :
      platform.decodeByteArray (platform.compress bitmap) = some bitmap)
    (shown : phone.primaryClip = some (.newUri platform.imageUri))
    (written : phone.clipboardImage = some (platform.compress bitmap)) :
    phone.localPayload? platform none =
      some (.image (platform.encodeBase64 (platform.compress bitmap))) := by
  obtain ⟨notText, image⟩ := imageUri?_newUri platform.imageUri
  simp [localPayload?, shown, notText, image, openInputStream, written,
    lossless]

/-- The listener keeps quiet exactly about contents that are remembered. -/
theorem offered_eq_none_iff
    {phone : Phone}
    {stream : Option (List UInt8)}
    {payload : ClipPayload}
    (found : phone.localPayload? platform stream = some payload) :
    (phone.onLocalClipboardChanged platform stream).2 = none ↔
      phone.lastSentContent = some payload.fingerprint ∨
        phone.lastReceivedContent = some payload.fingerprint := by
  simp only [onLocalClipboardChanged, found]
  split <;> simp_all

section Applied

variable
  {phone : Phone}
  {clip : Clip}
  {fingerprint : String}
  (own : ¬ phone.IsOwn clip)
  (isFingerprint : clip.fingerprint = some fingerprint)
  (received : phone.lastReceivedContent ≠ some fingerprint)

include own isFingerprint received

/-- A clip that is not refused is remembered and applied. -/
theorem applyInboundClip_eq_applyContent (platform : Platform) :
    phone.applyInboundClip platform clip =
      { phone with
        lastReceivedContent := some fingerprint
        lastSentContent := some fingerprint }.applyContent platform clip := by
  simp [applyInboundClip, own, isFingerprint, received]

/-- A text that is applied is found on the clipboard as it was remembered. -/
theorem bounce_of_text
    (platform : Platform)
    {text : String}
    (isText : clip.text? = some text) :
    phone.bounce platform clip = none := by
  have same : fingerprint = text := by
    have content := PhoneLog.content_of_text isText
    rw [Clip.fingerprint, content] at isFingerprint
    exact (Option.some.inj isFingerprint).symm
  let next : Phone :=
    { phone with
      lastReceivedContent := some fingerprint
      lastSentContent := some fingerprint
      primaryClip := some (.newPlainText text) }
  have bounced :
      phone.bounce platform clip =
        (next.onLocalClipboardChanged platform none).2 := by
    have applied :=
      applyInboundClip_eq_applyContent own isFingerprint received platform
    simp [bounce, applied, applyContent, isText, setPrimaryClip, next]
  have found : next.localPayload? platform none = some (.text text) :=
    PhoneLog.localPayload?_of_text (PhoneLog.text?_newPlainText text)
  rw [bounced, offered_eq_none_iff found]
  exact .inl (congrArg some same)

/--
An image that is applied is sent back unless the file written for it has the
text that was remembered.
-/
theorem bounce_of_image
    (lossless : platform.Lossless)
    {bitmap : ImageBytes}
    (notText : clip.text? = none)
    (picture :
      (clip.image?.bind platform.decodeBase64).bind platform.decodeByteArray =
        some bitmap) :
    phone.bounce platform clip = none ↔
      fingerprint = platform.encodeBase64 (platform.compress bitmap) := by
  obtain ⟨bytes, -, decoded⟩ := Option.bind_eq_some_iff.mp picture
  let next : Phone :=
    { phone with
      lastReceivedContent := some fingerprint
      lastSentContent := some fingerprint
      primaryClip := some (.newUri platform.imageUri)
      clipboardImage := some (platform.compress bitmap) }
  have bounced :
      phone.bounce platform clip =
        (next.onLocalClipboardChanged platform none).2 := by
    have applied :=
      applyInboundClip_eq_applyContent own isFingerprint received platform
    simp [bounce, applied, applyContent, notText, picture, setPrimaryClip, next]
  have found :
      next.localPayload? platform none =
        some (.image (platform.encodeBase64 (platform.compress bitmap))) :=
    localPayload?_of_image (lossless bytes bitmap decoded) rfl rfl
  rw [bounced, offered_eq_none_iff found]
  simp [next, ClipPayload.fingerprint]

end Applied

/--
In every state and for every inbound clip, the listener call that applying it
causes sends nothing exactly if an image that is applied encodes alike.
-/
theorem bounce_eq_none_iff
    (lossless : platform.Lossless)
    (phone : Phone)
    (clip : Clip) :
    phone.bounce platform clip = none ↔ phone.EncodesAlike platform clip := by
  by_cases own : phone.IsOwn clip
  · simp [bounce, applyInboundClip, EncodesAlike, own]
  cases isFingerprint : clip.fingerprint with
  | none =>
      have noImage : clip.image? = none := by
        have empty := Option.or_eq_none_iff.mp isFingerprint
        simp [Clip.image?, empty.2]
      simp [bounce, applyInboundClip, EncodesAlike, isFingerprint, noImage]
  | some fingerprint =>
      by_cases received : phone.lastReceivedContent = some fingerprint
      · simp [bounce, applyInboundClip, EncodesAlike, isFingerprint, received]
      cases isText : clip.text? with
      | some text =>
          have quiet :=
            bounce_of_text own isFingerprint received platform isText
          simp [quiet, EncodesAlike, isText]
      | none =>
          cases picture :
              (clip.image?.bind platform.decodeBase64).bind
                platform.decodeByteArray with
          | none =>
              have applied :=
                applyInboundClip_eq_applyContent own isFingerprint received
                  platform
              simp [bounce, applied, applyContent, isText, picture,
                EncodesAlike]
          | some bitmap =>
              rw [bounce_of_image own isFingerprint received lossless isText
                picture]
              simp [EncodesAlike, isText, picture, own, received,
                isFingerprint]

/-- The sample platform keeps every pixel. -/
theorem lossless_samplePlatform : samplePlatform.Lossless := by
  intro bytes bitmap decoded
  have wellFormed : bitmap.rgba.length = bitmap.pixelBytes := by
    simpa using (Option.filter_eq_some_iff.mp decoded).2
  have kept := lossless_samplePng wellFormed rfl
  simp only [samplePlatform, List.tail_cons, kept, Except.toOption,
    Option.filter_some, wellFormed, decide_true, if_true]

/-- A picture of one pixel, in a file of some level. -/
def pixelFile (level : UInt8) : List UInt8 :=
  [level, 1, 0, 0, 0, 1, 0, 0, 0, 255, 0, 0, 255]

/-- The picture from another client. -/
def inboundImage (level : UInt8) : Clip where
  id := "an identifier"
  ts := 0
  contentType := imagePngContentType
  content := none
  contentB64 := some (Base64.encode (pixelFile level))
  sender := some "desktop"

/-- The phone of the sample has just been welcomed. -/
def welcomedPhone : Phone :=
  (PhoneLog.fresh (some "phone") none none).phone

theorem welcomedPhone_bounce_iff :
    welcomedPhone.bounce samplePlatform (inboundImage 6) = none ↔
      welcomedPhone.EncodesAlike samplePlatform (inboundImage 6) :=
  bounce_eq_none_iff lossless_samplePlatform welcomedPhone (inboundImage 6)

/-- A picture that the desktop compressed in another way is sent back. -/
theorem inboundImage_bounced :
    ¬ ∀ (platform : Platform) (phone : Phone) (clip : Clip),
        platform.Lossless → phone.bounce platform clip = none := by
  intro always
  have quiet :=
    always samplePlatform welcomedPhone (inboundImage 9)
      lossless_samplePlatform
  exact absurd quiet (by decide)

end Phone

end Android

end ClipboardWire
