import ClipboardWire.FileReceiver

namespace ClipboardWire

/-!
# Clipboard changes, their frames and the clipboard thread

The values of `core/src/client/clipboard.rs`, the conversions between a change
and a `clip` frame of `core/src/client/mod.rs`, and the two things that the
clipboard thread does: `poll_clipboard` and `apply_change`.  What the operating
system answers to a read or a write is an argument.  The PNG encoder and
decoder come from a library and are a parameter, like the codec of the file
transfers.
-/

/-- An RGBA image in row-major order, four bytes a pixel. -/
structure ImageBytes where
  width : UInt32
  height : UInt32
  rgba : List UInt8
  deriving DecidableEq, Repr

/-- The number of bytes that the pixels of an image take. -/
def ImageBytes.pixelBytes (image : ImageBytes) : Nat :=
  image.width.toNat * image.height.toNat * 4

/-- A change to the local clipboard. -/
inductive ClipChange where
  | text (content : String)
  | image (image : ImageBytes)
  | files (paths : List Path)
  deriving DecidableEq, Repr

/-- The PNG encoder and decoder; an error carries its text. -/
structure PngCodec where
  encode : ImageBytes → Except String (List UInt8)
  decode : List UInt8 → Except String ImageBytes

/-- `encode_png`. -/
def encodePng
    (png : PngCodec)
    (image : ImageBytes) :
    Except String (List UInt8) :=
  if image.rgba.length < image.pixelBytes then
    .error "invalid RGBA buffer (width*height*4 != bytes)"
  else
    match png.encode image with
    | .error reason => .error ("PNG encoder: " ++ reason)
    | .ok bytes => .ok bytes

/-- `decode_png`. -/
def decodePng
    (png : PngCodec)
    (bytes : List UInt8) :
    Except String ImageBytes :=
  match png.decode bytes with
  | .error reason => .error ("PNG decoder: " ++ reason)
  | .ok image => .ok image

/-- `change_to_frame`, with the identifier and the time that it draws. -/
def changeToFrame
    (codec : Codec)
    (png : PngCodec)
    (id : Uuid)
    (ts : Int64) :
    ClipChange → Except String ClipFrame
  | .text content =>
      .ok (.text id ts content)
  | .image image =>
      match encodePng png image with
      | .error reason =>
          .error ("encoding clipboard image to PNG: " ++ reason)
      | .ok bytes =>
          .ok
            { id := id
              ts := ts
              contentType := imagePngContentType
              content := none
              contentB64 := some (codec.encode bytes)
              fromId := none }
  | .files _ =>
      .error "ClipChange::Files cannot be encoded as a single ClipFrame"

/-- Why an inbound frame does not reach the clipboard. -/
inductive FrameRejection where
  | unsupportedType
  | decode (message : String)
  deriving DecidableEq, Repr

/-- `frame_to_change`. -/
def frameToChange
    (codec : Codec)
    (png : PngCodec)
    (clip : ClipFrame) :
    Except FrameRejection ClipChange :=
  if isTextContentType clip.contentType then
    match clip.content with
    | none =>
        .error (.decode "text/* frame missing `content`")
    | some text =>
        .ok (.text text)
  else if clip.contentType = imagePngContentType then
    match clip.contentB64 with
    | none =>
        .error (.decode "image/png frame missing `content_b64`")
    | some payload =>
        match codec.decode payload with
        | .error reason =>
            .error (.decode ("base64 decode failed: " ++ reason))
        | .ok bytes =>
            match decodePng png bytes with
            | .error reason => .error (.decode reason)
            | .ok image => .ok (.image image)
  else
    .error .unsupportedType

/-- What one read of the operating system's clipboard returns. -/
inductive ClipboardRead (Value : Type) where
  | available (value : Value)
  | notAvailable
  | failed (reason : String)

/-- The three reads of one poll. -/
structure ClipboardReads where
  files : ClipboardRead (List Path)
  image : ClipboardRead ImageBytes
  text : ClipboardRead String

/-- The last-seen value of each kind. -/
structure Trackers where
  lastText : Option String
  lastImage : Option ImageBytes
  lastFiles : Option (List Path)
  deriving DecidableEq, Repr

/-- The trackers of a clipboard thread that has just started. -/
def Trackers.fresh : Trackers where
  lastText := none
  lastImage := none
  lastFiles := none

/-- A value becomes the last one seen of its kind. -/
def Trackers.saw (seen : Trackers) : ClipChange → Trackers
  | .text content => { seen with lastText := some content }
  | .image image => { seen with lastImage := some image }
  | .files paths => { seen with lastFiles := some paths }

/-- A nonempty file list that has not been seen last. -/
def newFiles
    (read : ClipboardRead (List Path))
    (seen : Trackers) :
    Option (List Path) :=
  match read with
  | .available paths =>
      if paths ≠ [] ∧ seen.lastFiles ≠ some paths then
        some paths
      else
        none
  | .notAvailable | .failed _ =>
      none

/-- An image that has not been seen last. -/
def newImage
    (read : ClipboardRead ImageBytes)
    (seen : Trackers) :
    Option ImageBytes :=
  match read with
  | .available image =>
      if seen.lastImage ≠ some image then
        some image
      else
        none
  | .notAvailable | .failed _ =>
      none

/-- The text part of a poll; a clipboard without text clears its tracker. -/
def pollText
    (read : ClipboardRead String)
    (seen : Trackers) :
    Option ClipChange × Trackers :=
  match read with
  | .available text =>
      if seen.lastText ≠ some text then
        (some (.text text), seen.saw (.text text))
      else
        (none, seen)
  | .notAvailable =>
      (none, { seen with lastText := none })
  | .failed _ =>
      (none, seen)

/-- `poll_clipboard`: files first, then the image, then the text. -/
def pollClipboard
    (reads : ClipboardReads)
    (seen : Trackers) :
    Option ClipChange × Trackers :=
  match newFiles reads.files seen with
  | some paths =>
      (some (.files paths), seen.saw (.files paths))
  | none =>
      match newImage reads.image seen with
      | some image =>
          (some (.image image), seen.saw (.image image))
      | none =>
          pollText reads.text seen

/-- The clipboard once a change is written; an empty list is skipped. -/
def ClipChange.writtenOver (clipboard : Option ClipChange) :
    ClipChange → Option ClipChange
  | .files [] => clipboard
  | change => some change

theorem ClipChange.writtenOver_of_ne
    {change : ClipChange}
    (writes : change ≠ .files [])
    (clipboard : Option ClipChange) :
    change.writtenOver clipboard = some change := by
  unfold writtenOver
  split
  · exact (writes rfl).elim
  · rfl

/-- `apply_change`: a write that the system refuses changes nothing. -/
def applyChange
    (refused : Option String)
    (change : ClipChange)
    (clipboard : Option ClipChange)
    (seen : Trackers) :
    Option ClipChange × Trackers :=
  match refused with
  | some _ => (clipboard, seen)
  | none => (change.writtenOver clipboard, seen.saw change)

/-- The reads of a clipboard that holds one value, when none of them fails. -/
def readsOf : Option ClipChange → ClipboardReads
  | none =>
      ⟨.notAvailable, .notAvailable, .notAvailable⟩
  | some (.text content) =>
      ⟨.notAvailable, .notAvailable, .available content⟩
  | some (.image image) =>
      ⟨.notAvailable, .available image, .notAvailable⟩
  | some (.files paths) =>
      ⟨.available paths, .notAvailable, .notAvailable⟩

/-- What the code relies on in the image library: PNG keeps every pixel. -/
def PngCodec.Lossless (png : PngCodec) : Prop :=
  ∀ {image bytes},
    image.rgba.length = image.pixelBytes →
      png.encode image = .ok bytes →
        png.decode bytes = .ok image

/-- A change whose pixels, if it is an image, fill the image exactly. -/
def ClipChange.WellFormed : ClipChange → Prop
  | .text _ => True
  | .image pixels => pixels.rgba.length = pixels.pixelBytes
  | .files _ => True

instance : DecidablePred ClipChange.WellFormed
  | .text _ =>
      inferInstanceAs (Decidable True)
  | .image pixels =>
      inferInstanceAs
        (Decidable (pixels.rgba.length = pixels.pixelBytes))
  | .files _ =>
      inferInstanceAs (Decidable True)

/-- A frame made from a change passes the checks of the server. -/
theorem validate_of_changeToFrame
    {codec : Codec}
    {png : PngCodec}
    {id : Uuid}
    {ts : Int64}
    {change : ClipChange}
    {clip : ClipFrame}
    (made : changeToFrame codec png id ts change = .ok clip) :
    clip.validate = .ok () ∧ clip.fromId = none := by
  cases change with
  | text content =>
      cases made
      exact ⟨ClipFrame.validate_text id ts content, rfl⟩
  | image image =>
      simp only [changeToFrame] at made
      cases encoded : encodePng png image with
      | error reason =>
          simp [encoded] at made
      | ok bytes =>
          simp only [encoded, Except.ok.injEq] at made
          subst clip
          simp [ClipFrame.validate, isTextContentType_imagePng]
  | files paths =>
      cases made

/-- A change that was made into a frame comes out of the frame again. -/
theorem frameToChange_of_changeToFrame
    {codec : Codec}
    {png : PngCodec}
    {id : Uuid}
    {ts : Int64}
    {change : ClipChange}
    {clip : ClipFrame}
    (base64 : ∀ bytes, codec.decode (codec.encode bytes) = .ok bytes)
    (lossless : png.Lossless)
    (wellFormed : change.WellFormed)
    (made : changeToFrame codec png id ts change = .ok clip) :
    frameToChange codec png clip = .ok change := by
  cases change with
  | text content =>
      cases made
      simp [frameToChange, ClipFrame.text, isTextContentType_text]
  | image image =>
      simp only [changeToFrame, encodePng] at made
      split at made
      · cases made
      · rename_i bytes encoded
        simp only [Except.ok.injEq] at made
        subst clip
        split at encoded
        · cases encoded
        · split at encoded
          · cases encoded
          · rename_i result
            cases encoded
            have decoded := lossless wellFormed result
            simp [frameToChange, isTextContentType_imagePng, base64,
              decodePng, decoded]
  | files paths =>
      cases made

/-- No frame puts a file list on the clipboard. -/
theorem frameToChange_ne_files
    {codec : Codec}
    {png : PngCodec}
    {clip : ClipFrame}
    {change : ClipChange}
    (decoded : frameToChange codec png clip = .ok change)
    (paths : List Path) :
    change ≠ .files paths := by
  rintro rfl
  unfold frameToChange at decoded
  split at decoded
  · split at decoded <;> cases decoded
  · split at decoded
    · split at decoded
      · cases decoded
      · split at decoded
        · cases decoded
        · split at decoded <;> cases decoded
    · cases decoded

@[simp] theorem frameToChange_fromId
    (codec : Codec)
    (png : PngCodec)
    (clip : ClipFrame)
    (sender : Option Uuid) :
    frameToChange codec png { clip with fromId := sender } =
      frameToChange codec png clip := by
  rfl

/-- The four bytes of a number, least significant first. -/
def littleEndian (value : UInt32) : List UInt8 :=
  [UInt8.ofNat (value.toNat % 256),
    UInt8.ofNat (value.toNat / 256 % 256),
    UInt8.ofNat (value.toNat / 65536 % 256),
    UInt8.ofNat (value.toNat / 16777216 % 256)]

/-- The number with the given bytes. -/
def ofLittleEndian (first second third fourth : UInt8) : UInt32 :=
  UInt32.ofNat
    (first.toNat + second.toNat * 256 + third.toNat * 65536 +
      fourth.toNat * 16777216)

/-- A lossless image format: the two sizes, then the pixels as they are. -/
def samplePng : PngCodec where
  encode := fun image =>
    .ok (littleEndian image.width ++ littleEndian image.height ++ image.rgba)
  decode := fun
    | w0 :: w1 :: w2 :: w3 :: h0 :: h1 :: h2 :: h3 :: rgba =>
        .ok ⟨ofLittleEndian w0 w1 w2 w3, ofLittleEndian h0 h1 h2 h3, rgba⟩
    | _ =>
        .error "truncated"

/-- Four bytes determine a number. -/
private theorem ofLittleEndian_littleEndian (value : UInt32) :
    ofLittleEndian
        (UInt8.ofNat (value.toNat % 256))
        (UInt8.ofNat (value.toNat / 256 % 256))
        (UInt8.ofNat (value.toNat / 65536 % 256))
        (UInt8.ofNat (value.toNat / 16777216 % 256)) = value := by
  have bound := value.toNat_lt
  apply UInt32.toNat_inj.mp
  simp only [ofLittleEndian, UInt32.toNat_ofNat', UInt8.toNat_ofNat']
  omega

/-- The sample format keeps every pixel. -/
theorem lossless_samplePng : samplePng.Lossless := by
  intro image bytes _ encoded
  cases encoded
  simp only [samplePng, littleEndian, List.cons_append, List.nil_append,
    ofLittleEndian_littleEndian]

end ClipboardWire
