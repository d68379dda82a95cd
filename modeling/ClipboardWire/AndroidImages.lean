import ClipboardWire.AndroidService
import ClipboardWire.ImageScaling
import ClipboardWire.ResourceTrace

namespace ClipboardWire

namespace Android

open ResourceTrace

/-!
# Encoding an image on the phone

`ClipReader.encodeImage`: an image is decoded, at a smaller size after every
`OutOfMemoryError`, and compressed, scaled down until its text fits into a
frame or the retries are used up.  The platform may run out of memory or throw
in any call.  Whatever it does, a bitmap is recycled once, after its last use.
-/

/-- `MAX_SHRINK_RETRIES` -/
def maxShrinkRetries : Nat :=
  3

/-- A bitmap object, with its size. -/
structure Bitmap where
  object : Nat
  width : Int
  height : Int
  deriving DecidableEq, Repr

/-- What `BitmapFactory.decodeByteArray` answers. -/
inductive Decoded where
  | bitmap (width height : Int)
  | null
  | outOfMemory
  | throws
  deriving DecidableEq, Repr

/-- What `encodePng` answers. -/
inductive Compressed where
  | text (base64 : String)
  | outOfMemory
  | throws
  deriving DecidableEq, Repr

/-- The text, where there is one. -/
def Compressed.text? : Compressed → Option String
  | .text base64 => some base64
  | .outOfMemory | .throws => none

/-- What `Bitmap.createScaledBitmap` answers. -/
inductive Scaled where
  /-- The size is the same, and so is the object. -/
  | same
  | fresh
  /-- An `OutOfMemoryError`, or an exception. -/
  | throws
  deriving DecidableEq, Repr

/-- The answers of the platform to the calls of one `encodeImage`. -/
structure ImageAnswers where
  /-- `openInputStream` and `readBytes` yield the bytes of the file. -/
  reads : Bool
  /-- `outWidth` and `outHeight`; an exception is `none`. -/
  bounds : Option (Int32 × Int32)
  /-- The call with this number, and its `inSampleSize`. -/
  decode : Nat → Int32 → Decoded
  compress : Nat → Bitmap → Compressed
  scale : Nat → Bitmap → Int → Int → Scaled
  /-- A side times `shrinkFactor`, or half of it, rounded. -/
  scaledSide : Option Nat → Int → Int

/-- The calls of one `encodeImage`. -/
inductive ImageEvent where
  | decode (sample : Int32)
  | created (bitmap : Nat)
  | compress (bitmap : Nat)
  | scale (bitmap : Nat) (width height : Int)
  | recycle (bitmap : Nat)
  deriving DecidableEq, Repr

/-- The calls so far, and what has come of them. -/
structure ImageRun (Result : Type) where
  events : List ImageEvent
  result : Result

namespace ImageEvent

/-- What an event does with a bitmap. -/
def resource? : ImageEvent → Option (ResourceEvent Nat)
  | .decode _ => none
  | .created bitmap => some (.acquire bitmap)
  | .compress bitmap | .scale bitmap _ _ => some (.use bitmap)
  | .recycle bitmap => some (.release bitmap)

/-- The sample size of a decoding. -/
def sample? : ImageEvent → Option Int32
  | .decode sample => some sample
  | _ => none

/-- The event is a call of `encodePng`. -/
def isCompress : ImageEvent → Bool
  | .compress _ => true
  | _ => false

end ImageEvent

namespace ImageAnswers

variable (answers : ImageAnswers)

/-- The loop around `decodeByteArray`, with the retries that are left. -/
def decodeLoop : Nat → Int32 → ImageRun (Option Bitmap)
  | left, sample =>
      match answers.decode (maxShrinkRetries - left) sample with
      | .bitmap width height =>
          ⟨[.decode sample, .created 0], some ⟨0, width, height⟩⟩
      | .null | .throws =>
          ⟨[.decode sample], none⟩
      | .outOfMemory =>
          match left with
          | 0 =>
              ⟨[.decode sample], none⟩
          | left + 1 =>
              let rest := decodeLoop left (double sample)
              ⟨.decode sample :: rest.events, rest.result⟩

/--
The loop around `encodePng`, with the retries that are left and the number of
the next bitmap: the bitmap that is held at its end, and the text.
-/
def encodeLoop : Nat → Nat → Bitmap → ImageRun (Bitmap × Option String)
  | left, next, current =>
      match answers.compress (maxShrinkRetries - left) current with
      | .throws =>
          ⟨[.compress current.object], (current, none)⟩
      | answer =>
          let encoded := answer.text?
          if encoded.any (utf16Length · ≤ maxFrameChars) then
            ⟨[.compress current.object], (current, encoded)⟩
          else
            match left with
            | 0 =>
                ⟨[.compress current.object], (current, encoded)⟩
            | left + 1 =>
                let chars := encoded.map utf16Length
                let width := max (answers.scaledSide chars current.width) 1
                let height := max (answers.scaledSide chars current.height) 1
                let before : List ImageEvent :=
                  [.compress current.object,
                    .scale current.object width height]
                match
                  answers.scale (maxShrinkRetries - left - 1) current width
                    height with
                | .throws =>
                    ⟨before, (current, none)⟩
                | .same =>
                    let rest := encodeLoop left next current
                    ⟨before ++ rest.events, rest.result⟩
                | .fresh =>
                    let rest :=
                      encodeLoop left (next + 1) ⟨next, width, height⟩
                    ⟨before ++
                        .created next :: .recycle current.object ::
                          rest.events,
                      rest.result⟩

/-- `encodeImage`; `fuel` bounds the loop of `sampleSizeFor`. -/
def encodeImage (fuel : Nat) : Option (ImageRun (Option String)) :=
  if ¬ answers.reads then
    some ⟨[], none⟩
  else
    match answers.bounds with
    | none =>
        some ⟨[], none⟩
    | some (width, height) =>
        if width ≤ 0 ∨ height ≤ 0 then
          some ⟨[], none⟩
        else
          match sampleSizeFor fuel width height defaultMaxSide with
          | .error _ =>
              some ⟨[], none⟩
          | .ok none =>
              none
          | .ok (some sample) =>
              let decoded := answers.decodeLoop maxShrinkRetries sample
              match decoded.result with
              | none =>
                  some ⟨decoded.events, none⟩
              | some bitmap =>
                  let encoded :=
                    answers.encodeLoop maxShrinkRetries 1 bitmap
                  -- the `finally` recycles whatever bitmap is held
                  some
                    ⟨decoded.events ++ encoded.events ++
                        [.recycle encoded.result.1.object],
                      encoded.result.2⟩

variable {answers : ImageAnswers}

/-- The default limit is a limit. -/
private theorem defaultMaxSide_pos : 0 < defaultMaxSide := by
  decide

/-- With the default limit the first sample size is always found. -/
private theorem sampleSizeFor_returns (width height : Int32) :
    ∃ sample,
      sampleSizeFor 31 width height defaultMaxSide = .ok (some sample) := by
  have within : max width.toInt height.toInt ≤
      defaultMaxSide.toInt * 2 ^ 30 :=
    longest_le (by decide) (.inl (by decide))
  have stops :
      isTooLong (max width height).toInt64 defaultMaxSide (double^[30] 1) =
        false := by
    rw [← Bool.not_eq_true, isTooLong_iff, toInt_doubled (by decide), not_lt]
    exact within
  obtain ⟨sample, found⟩ :=
    Option.isSome_iff_exists.mp
      (WhileLoop.isSome_run? stops (by decide : 30 < 31))
  exact ⟨sample, by simp only [sampleSizeFor, found, defaultMaxSide_pos,
    if_true]⟩

/-- What the loop of the decodings does. -/
private structure Decodes
    (left : Nat)
    (sample : Int32)
    (run : ImageRun (Option Bitmap)) : Prop where
  samples :
    ∃ tries,
      tries ≤ left + 1 ∧
        run.events.filterMap ImageEvent.sample? =
          (List.range tries).map fun doubled => double^[doubled] sample
  resources :
    run.events.filterMap ImageEvent.resource? =
      run.result.toList.map fun bitmap => .acquire bitmap.object
  first : ∀ bitmap, run.result = some bitmap → bitmap.object = 0
  compress : run.events.countP ImageEvent.isCompress = 0

private theorem Decodes.single
    {left : Nat}
    {sample : Int32}
    {run : ImageRun (Option Bitmap)}
    (samples : run.events.filterMap ImageEvent.sample? = [sample])
    (resources :
      run.events.filterMap ImageEvent.resource? =
        run.result.toList.map fun bitmap => .acquire bitmap.object)
    (first : ∀ bitmap, run.result = some bitmap → bitmap.object = 0)
    (compress : run.events.countP ImageEvent.isCompress = 0) :
    Decodes left sample run where
  samples := ⟨1, Nat.le_add_left 1 left, samples⟩
  resources := resources
  first := first
  compress := compress

/-- The decoding doubles the sample size and creates at most one bitmap. -/
private theorem decodes_decodeLoop (left : Nat) (sample : Int32) :
    Decodes left sample (answers.decodeLoop left sample) := by
  fun_induction decodeLoop answers left sample with
  | case1 left sample width height decoded =>
      exact .single rfl rfl (by simp) rfl
  | case2 left sample decoded =>
      exact .single rfl rfl (by simp) rfl
  | case3 left sample decoded =>
      exact .single rfl rfl (by simp) rfl
  | case4 sample decoded =>
      exact .single rfl rfl (by simp) rfl
  | case5 sample left rest decoded inductionHypothesis =>
      obtain ⟨⟨tries, few, samples⟩, resources, first, compress⟩ :=
        inductionHypothesis
      refine ⟨⟨tries + 1, Nat.succ_le_succ few, ?_⟩, resources, first,
        compress⟩
      have doubled : ImageEvent.sample? (.decode sample) = some sample := rfl
      rw [List.filterMap_cons_some doubled, samples, List.range_succ_eq_map,
        List.map_cons, List.map_map]
      rfl

/-- What the loop of the compressions does, from a bitmap that is held. -/
private structure Encodes
    (answers : ImageAnswers)
    (left next : Nat)
    (current : Bitmap)
    (run : ImageRun (Bitmap × Option String)) : Prop where
  resources :
    ∀ spent,
      (∀ object ∈ spent, object < next) →
      current.object < next →
        ∃ later,
          StepRun.run? (ResourceTrace.step? 2) ⟨[current.object], spent⟩
              (run.events.filterMap ImageEvent.resource?) =
            some ⟨[run.result.1.object], later⟩
  compress : run.events.countP ImageEvent.isCompress ≤ left + 1
  samples : run.events.filterMap ImageEvent.sample? = []
  text :
    ∀ text,
      run.result.2 = some text →
        (∃ call bitmap, answers.compress call bitmap = .text text) ∧
          (utf16Length text ≤ maxFrameChars ∨
            run.events.countP ImageEvent.isCompress = left + 1)

private theorem Encodes.single
    {left next : Nat}
    {current : Bitmap}
    {encoded : Option String}
    (text :
      ∀ text,
        encoded = some text →
          answers.compress (maxShrinkRetries - left) current = .text text ∧
            (utf16Length text ≤ maxFrameChars ∨ left = 0)) :
    Encodes answers left next current
      ⟨[.compress current.object], (current, encoded)⟩ where
  resources := fun spent _ _ => ⟨spent, by simp [ImageEvent.resource?,
    StepRun.run?, ResourceTrace.step?]⟩
  compress := Nat.le_add_left 1 left
  samples := rfl
  text := by
    intro content isText
    obtain ⟨compressed, small | last⟩ := text content isText
    · exact ⟨⟨_, _, compressed⟩, .inl small⟩
    · exact ⟨⟨_, _, compressed⟩,
        .inr (by simp [last, ImageEvent.isCompress])⟩

/-- A text that was returned is the answer. -/
private theorem eq_text_of_text?
    {answer : Compressed}
    {text : String}
    (returned : answer.text? = some text) :
    answer = .text text := by
  cases answer <;> cases returned
  rfl

private theorem Encodes.more
    {left next later : Nat}
    {current scaled : Bitmap}
    {run : ImageRun (Bitmap × Option String)}
    (rest : Encodes answers left later scaled run)
    (round : List ImageEvent)
    (resources :
      ∀ spent,
        (∀ object ∈ spent, object < next) →
        current.object < next →
          ∃ after,
            (∀ object ∈ after, object < later) ∧
              scaled.object < later ∧
              StepRun.run? (ResourceTrace.step? 2)
                  ⟨[current.object], spent⟩
                  (round.filterMap ImageEvent.resource?) =
                some ⟨[scaled.object], after⟩)
    (compress : round.countP ImageEvent.isCompress = 1)
    (samples : round.filterMap ImageEvent.sample? = []) :
    Encodes answers (left + 1) next current
      ⟨round ++ run.events, run.result⟩ where
  resources := by
    intro spent older below
    obtain ⟨after, stillOlder, stillBelow, ran⟩ :=
      resources spent older below
    obtain ⟨final, remaining⟩ := rest.resources after stillOlder stillBelow
    refine ⟨final, ?_⟩
    rw [List.filterMap_append]
    exact StepRun.run?_append_eq_some.mpr ⟨_, ran, remaining⟩
  compress := by
    have few := rest.compress
    rw [List.countP_append, compress]
    omega
  samples := by
    rw [List.filterMap_append, samples, rest.samples, List.append_nil]
  text := by
    intro text isText
    obtain ⟨call, small | last⟩ := rest.text text isText
    · exact ⟨call, .inl small⟩
    · refine ⟨call, .inr ?_⟩
      rw [List.countP_append, compress, last]
      omega

/-- The encoding holds one bitmap between its rounds, and makes few more. -/
private theorem encodes_encodeLoop
    (left next : Nat)
    (current : Bitmap) :
    Encodes answers left next current
      (answers.encodeLoop left next current) := by
  fun_induction encodeLoop answers left next current with
  | case1 left next current threw =>
      exact .single (by simp)
  | case2 left next current compressed encoded fits =>
      refine .single fun text isText => ⟨eq_text_of_text? isText, .inl ?_⟩
      simpa [encoded, isText] using fits
  | case3 next current compressed encoded tooLarge =>
      exact .single fun text isText => ⟨eq_text_of_text? isText, .inr rfl⟩
  | case4 next current left compressed encoded tooLarge chars width height
      before threw =>
      refine ⟨fun spent _ _ => ⟨spent, ?_⟩, Nat.le_add_left 1 _, rfl,
        by simp⟩
      simp [before, ImageEvent.resource?, StepRun.run?, ResourceTrace.step?]
  | case5 next current left rest _ _ _ _ _ _ before same
      inductionHypothesis =>
      refine inductionHypothesis.more before ?_ rfl rfl
      intro spent older below
      refine ⟨spent, older, below, ?_⟩
      simp [before, ImageEvent.resource?, StepRun.run?, ResourceTrace.step?]
  | case6 next current left _ _ _ _ width height before fresh rest
      inductionHypothesis =>
      refine inductionHypothesis.more
        [.compress current.object, .scale current.object width height,
          .created next, .recycle current.object] ?_ rfl rfl
      intro spent older below
      have unused : next ∉ spent := fun member =>
        absurd (older next member) (Nat.lt_irrefl next)
      have other : next ≠ current.object := Nat.ne_of_gt below
      refine ⟨current.object :: spent, fun object member => ?_,
        Nat.lt_succ_self next, ?_⟩
      · rcases List.mem_cons.mp member with rfl | inSpent
        · exact Nat.lt_succ_of_lt below
        · exact Nat.lt_succ_of_lt (older object inSpent)
      · simp [ImageEvent.resource?, StepRun.run?, ResourceTrace.step?, unused,
          other]

/-- What the calls of one `encodeImage` are like. -/
structure Careful
    (answers : ImageAnswers)
    (run : ImageRun (Option String)) : Prop where
  /-- At most two bitmaps at a time, each used only until it is recycled. -/
  disciplined :
    Disciplined 2 (run.events.filterMap ImageEvent.resource?)
  /-- Each bitmap that was created has been recycled once. -/
  recycled :
    ∀ bitmap,
      run.events.count (.recycle bitmap) =
          run.events.count (.created bitmap) ∧
        run.events.count (.created bitmap) ≤ 1
  /-- The sample size doubles from one decoding to the next. -/
  samples :
    ∃ sample tries,
      tries ≤ maxShrinkRetries + 1 ∧
        run.events.filterMap ImageEvent.sample? =
          (List.range tries).map fun doubled => double^[doubled] sample
  compress :
    run.events.countP ImageEvent.isCompress ≤ maxShrinkRetries + 1
  /-- The text is one of an image, and too long only after every retry. -/
  text :
    ∀ text,
      run.result = some text →
        (∃ call bitmap, answers.compress call bitmap = .text text) ∧
          (utf16Length text ≤ maxFrameChars ∨
            run.events.countP ImageEvent.isCompress = maxShrinkRetries + 1)

/-- The ledger's count of an event is the count of the call behind it. -/
private theorem count_resource
    (events : List ImageEvent)
    {call : ImageEvent}
    {event : ResourceEvent Nat}
    (own :
      ∀ other : ImageEvent, other.resource? = some event ↔ other = call) :
    (events.filterMap ImageEvent.resource?).count event =
      events.count call := by
  rw [List.count_filterMap, List.count]
  refine List.countP_congr fun other _ => ?_
  simp [own]

/-- In disciplined events each bitmap is recycled as often as created. -/
private theorem recycled_of_disciplined
    {events : List ImageEvent}
    (disciplined :
      Disciplined 2 (events.filterMap ImageEvent.resource?))
    (bitmap : Nat) :
    events.count (.recycle bitmap) = events.count (.created bitmap) ∧
      events.count (.created bitmap) ≤ 1 := by
  have counts := disciplined.count_release bitmap
  rw [count_resource events
      (fun other => by cases other <;> simp [ImageEvent.resource?] :
        ∀ other : ImageEvent,
          other.resource? = some (.release bitmap) ↔ other = .recycle bitmap),
    count_resource events
      (fun other => by cases other <;> simp [ImageEvent.resource?] :
        ∀ other : ImageEvent,
          other.resource? = some (.acquire bitmap) ↔
            other = .created bitmap)] at counts
  exact counts

/-- Without a call of the bitmap functions there is nothing to recycle. -/
private theorem careful_nothing : Careful answers ⟨[], none⟩ where
  disciplined := ⟨[], rfl⟩
  recycled := fun _ => ⟨rfl, Nat.zero_le 1⟩
  samples := ⟨0, 0, Nat.zero_le _, rfl⟩
  compress := Nat.zero_le _
  text := by simp

private theorem Decodes.careful
    {sample : Int32}
    {run : ImageRun (Option Bitmap)}
    (decodes : Decodes maxShrinkRetries sample run)
    (nothing : run.result = none) :
    Careful answers ⟨run.events, none⟩ := by
  have disciplined :
      Disciplined 2 (run.events.filterMap ImageEvent.resource?) := by
    rw [decodes.resources, nothing]
    exact ⟨[], rfl⟩
  obtain ⟨tries, few, samples⟩ := decodes.samples
  exact
    { disciplined := disciplined
      recycled := recycled_of_disciplined disciplined
      samples := ⟨sample, tries, few, samples⟩
      compress := by
        rw [decodes.compress]
        exact Nat.zero_le _
      text := by simp }

private theorem Decodes.careful_encoded
    {sample : Int32}
    {decoded : ImageRun (Option Bitmap)}
    {bitmap : Bitmap}
    {encoded : ImageRun (Bitmap × Option String)}
    (decodes : Decodes maxShrinkRetries sample decoded)
    (isBitmap : decoded.result = some bitmap)
    (encodes : Encodes answers maxShrinkRetries 1 bitmap encoded) :
    Careful answers
      ⟨decoded.events ++ encoded.events ++
          [.recycle encoded.result.1.object],
        encoded.result.2⟩ := by
  have first := decodes.first bitmap isBitmap
  have disciplined :
      Disciplined 2
        ((decoded.events ++ encoded.events ++
          [ImageEvent.recycle encoded.result.1.object]).filterMap
            ImageEvent.resource?) := by
    have created :
        StepRun.run? (ResourceTrace.step? 2) Ledger.empty
            (decoded.events.filterMap ImageEvent.resource?) =
          some ⟨[bitmap.object], []⟩ := by
      rw [decodes.resources, isBitmap, first]
      simp [StepRun.run?, ResourceTrace.step?, first, Ledger.empty]
    obtain ⟨later, ran⟩ :=
      encodes.resources [] (by simp) (by rw [first]; decide)
    refine ⟨encoded.result.1.object :: later, ?_⟩
    rw [List.filterMap_append, List.filterMap_append]
    refine StepRun.run?_append_eq_some.mpr
      ⟨_, StepRun.run?_append_eq_some.mpr ⟨_, created, ran⟩, ?_⟩
    simp [ImageEvent.resource?, StepRun.run?, ResourceTrace.step?]
  obtain ⟨tries, few, samples⟩ := decodes.samples
  have compress :
      (decoded.events ++ encoded.events ++
        [ImageEvent.recycle encoded.result.1.object]).countP
          ImageEvent.isCompress =
        encoded.events.countP ImageEvent.isCompress := by
    simp [decodes.compress, ImageEvent.isCompress]
  exact
    { disciplined := disciplined
      recycled := recycled_of_disciplined disciplined
      samples := by
        refine ⟨sample, tries, few, ?_⟩
        rw [List.filterMap_append, List.filterMap_append, encodes.samples,
          samples, List.append_nil]
        exact List.append_nil _
      compress := by
        rw [compress]
        exact encodes.compress
      text := by
        rw [compress]
        exact encodes.text }

/--
`encodeImage` is careful whatever the platform does.  It always returns, after
at most four decodings and four compressions; each bitmap is recycled once,
after its last use, with at most two of them at a time; and it returns a text
that does not fit into a frame only after the last retry.
-/
theorem encodeImage_careful (answers : ImageAnswers) :
    (answers.encodeImage 31).isSome ∧
      ∀ fuel run,
        answers.encodeImage fuel = some run → Careful answers run := by
  constructor
  · unfold encodeImage
    split
    · rfl
    · split
      · rfl
      · rename_i width height bounds
        split
        · rfl
        · obtain ⟨sample, found⟩ := sampleSizeFor_returns width height
          simp only [found]
          split <;> rfl
  · intro fuel run returned
    unfold encodeImage at returned
    split at returned
    · cases returned
      exact careful_nothing
    · split at returned
      · cases returned
        exact careful_nothing
      · split at returned
        · cases returned
          exact careful_nothing
        · split at returned
          · cases returned
            exact careful_nothing
          · cases returned
          · rename_i sample _
            have decodes :=
              @decodes_decodeLoop answers maxShrinkRetries sample
            simp only at returned
            split at returned
            · rename_i nothing
              cases returned
              exact decodes.careful nothing
            · rename_i bitmap isBitmap
              cases returned
              exact decodes.careful_encoded isBitmap
                (encodes_encodeLoop maxShrinkRetries 1 bitmap)

/-- A phone that is short of memory: half of the calls fail. -/
def shortOfMemory : ImageAnswers where
  reads := true
  bounds := some (10000, 200)
  decode call sample :=
    if call = 0 then .outOfMemory else .bitmap (10000 / sample.toInt) 25
  compress call _ :=
    if call = 0 then .outOfMemory else .text "iVBO"
  scale _ _ _ _ := .fresh
  scaledSide chars side := if chars.isNone then side / 2 else side

/-- What it does. -/
def shortRun : ImageRun (Option String) where
  events :=
    [.decode 4, .decode 8, .created 0, .compress 0, .scale 0 625 12,
      .created 1, .recycle 0, .compress 1, .recycle 1]
  result := some "iVBO"

/-- The first bitmap is recycled when it has been scaled. -/
theorem encodeImage_careful_sample :
    shortOfMemory.encodeImage 31 = some shortRun ∧
      Careful shortOfMemory shortRun := by
  have returned : shortOfMemory.encodeImage 31 = some shortRun := by
    rfl
  exact ⟨returned,
    (encodeImage_careful shortOfMemory).2 31 shortRun returned⟩

end ImageAnswers

end Android

end ClipboardWire
