import ClipboardWire.ClientClipboard
import ClipboardWire.FileTransfer

namespace ClipboardWire

/-!
# Changes of the clipboard and their frames

`change_to_frame`, `frame_to_change` and `ClipFrame::validate` look at the
content type and at the two payloads one by one.  The first agrees with the
other two; between those there is a gap, since the decoder never looks at the
payload that it does not use.
-/

/-- The image has at least one pixel, and four bytes for each of them. -/
structure ImageBytes.IsImage (image : ImageBytes) : Prop where
  width : 0 < image.width.toNat
  height : 0 < image.height.toNat
  complete : image.rgba.length = image.pixelBytes

/-- The image library encodes every image that has a pixel. -/
def PngCodec.Encodes (png : PngCodec) : Prop :=
  ∀ {image}, image.IsImage → ∃ bytes, png.encode image = .ok bytes

/-- A text, or an image with pixels: what goes into one frame. -/
def ClipChange.FitsFrame : ClipChange → Prop
  | .text _ => True
  | .image pixels => pixels.IsImage
  | .files _ => False

namespace ClipFrame

/-- The frame has a text and a binary payload. -/
def HasBoth (clip : ClipFrame) : Prop :=
  clip.content.isSome = true ∧ clip.contentB64.isSome = true

/-- A textual frame passes with a text and no binary payload. -/
theorem validate_text_iff
    {clip : ClipFrame}
    (textual : isTextContentType clip.contentType = true)
    (present : clip.content.isSome = true) :
    clip.validate = .ok () ↔ ¬ clip.HasBoth := by
  unfold validate HasBoth
  rw [textual, present]
  cases clip.contentB64.isSome <;> simp

/-- Any other frame passes with a binary payload and no text. -/
theorem validate_binary_iff
    {clip : ClipFrame}
    (binary : ¬ isTextContentType clip.contentType = true)
    (present : clip.contentB64.isSome = true) :
    clip.validate = .ok () ↔ ¬ clip.HasBoth := by
  unfold validate HasBoth
  rw [Bool.not_eq_true] at binary
  rw [binary, present]
  cases clip.content.isSome <;> simp

end ClipFrame

section Decoding

variable {codec : Codec} {png : PngCodec}

/-- What fits into a frame is put into one. -/
theorem exists_changeToFrame
    (codec : Codec)
    (encodes : png.Encodes)
    {change : ClipChange}
    (fits : change.FitsFrame)
    (id : Uuid)
    (ts : Int64) :
    ∃ clip, changeToFrame codec png id ts change = .ok clip := by
  cases change with
  | text content =>
      exact ⟨_, rfl⟩
  | image image =>
      obtain ⟨bytes, encoded⟩ := encodes fits
      have complete : ¬ image.rgba.length < image.pixelBytes := by
        rw [fits.complete]
        exact Nat.lt_irrefl _
      simp only [changeToFrame, encodePng, if_neg complete, encoded]
      exact ⟨_, rfl⟩
  | files paths =>
      exact fits.elim

/-- What fits into a frame has all of its pixels. -/
theorem ClipChange.FitsFrame.wellFormed
    {change : ClipChange}
    (fits : change.FitsFrame) :
    change.WellFormed := by
  cases change with
  | text content => trivial
  | image image => exact fits.complete
  | files paths => exact fits.elim

/-- A frame that is decoded has the payload of its type, and passes the checks
unless it has the other one as well. -/
theorem validate_iff_of_frameToChange
    {clip : ClipFrame}
    {change : ClipChange}
    (decoded : frameToChange codec png clip = .ok change) :
    clip.validate = .ok () ↔ ¬ clip.HasBoth := by
  unfold frameToChange at decoded
  split at decoded
  · rename_i textual
    split at decoded
    · cases decoded
    · rename_i text present
      exact ClipFrame.validate_text_iff textual (by rw [present]; rfl)
  · rename_i binary
    split at decoded
    · split at decoded
      · cases decoded
      · rename_i payload present
        exact ClipFrame.validate_binary_iff binary (by rw [present]; rfl)
    · cases decoded

/-- Changes and frames correspond, up to the frames with both payloads. -/
theorem changes_correspond_iff
    (base64 : ∀ bytes, codec.decode (codec.encode bytes) = .ok bytes)
    (encodes : png.Encodes)
    (lossless : png.Lossless) :
    (∀ (id : Uuid) (ts : Int64) (change : ClipChange),
      change.FitsFrame →
      ∃ clip,
        changeToFrame codec png id ts change = .ok clip ∧
          clip.validate = .ok () ∧
          frameToChange codec png clip = .ok change) ∧
    ∀ (clip : ClipFrame) (change : ClipChange),
      frameToChange codec png clip = .ok change →
      (clip.validate = .ok () ↔ ¬ clip.HasBoth) := by
  constructor
  · intro id ts change fits
    obtain ⟨clip, made⟩ := exists_changeToFrame codec encodes fits id ts
    exact ⟨clip, made, (validate_of_changeToFrame made).1,
      frameToChange_of_changeToFrame base64 lossless fits.wellFormed made⟩
  · intro clip change decoded
    exact validate_iff_of_frameToChange decoded

end Decoding

/-- The sample format encodes every image. -/
theorem encodes_samplePng : samplePng.Encodes :=
  fun _ => ⟨_, rfl⟩

/-- A text goes through its frame, and so does an image of one pixel. -/
theorem changes_correspond_samples :
    (∃ clip,
      changeToFrame ReceiverState.sampleCodec samplePng ⟨1⟩ 0 (.text "hi") =
          .ok clip ∧
        clip.validate = .ok () ∧
        frameToChange ReceiverState.sampleCodec samplePng clip =
          .ok (.text "hi")) ∧
      ∃ clip,
        changeToFrame ReceiverState.sampleCodec samplePng ⟨1⟩ 0
            (.image ⟨1, 1, [9, 8, 7, 255]⟩) =
          .ok clip ∧
          clip.validate = .ok () ∧
          frameToChange ReceiverState.sampleCodec samplePng clip =
            .ok (.image ⟨1, 1, [9, 8, 7, 255]⟩) :=
  have corresponds :=
    (changes_correspond_iff ReceiverState.lawful_sampleCodec.decode_encode
      encodes_samplePng lossless_samplePng).1
  ⟨corresponds ⟨1⟩ 0 (.text "hi") trivial,
    corresponds ⟨1⟩ 0 (.image ⟨1, 1, [9, 8, 7, 255]⟩)
      ⟨by decide, by decide, by decide⟩⟩

/-- A textual frame with a second payload is decoded, but does not pass. -/
theorem frameToChange_hasBoth :
    frameToChange ReceiverState.sampleCodec samplePng
        ⟨⟨1⟩, 0, "text/plain", some "hi", some "aGk=", none⟩ =
          .ok (.text "hi") ∧
      ClipFrame.validate
            ⟨⟨1⟩, 0, "text/plain", some "hi", some "aGk=", none⟩ ≠
        .ok () := by
  decide

end ClipboardWire
