import ClipboardWire.AndroidSend

namespace ClipboardWire

namespace Android

/-!
# Sensitive clips

A clip that a password manager copies is flagged in its description.  The main
screen sends a clip by itself when it gets the focus, unless the clip is
flagged; `SendDecision` looks at the flag again.  The listener of the service
sends a clip by itself as well, and does not look at the flag.  Nothing flagged
leaves the phone by itself exactly in the runs in which the listener sends no
flagged clip.
-/

/-- `android.net.Uri`, as far as `ClipReader` looks at it. -/
structure UriParts where
  /-- The scheme is `content`. -/
  isContent : String → Bool
  /-- The authority is the one of the app's own file provider. -/
  isOwnProvider : String → Bool

/-- `ClipRead`, with an image that is still to be encoded. -/
structure PendingRead where
  payload : Option ClipPayload
  fromOwnProvider : Bool
  sensitive : Bool
  imageUri : Option String
  timestamp : Nat
  deriving DecidableEq, Repr

namespace PendingRead

/-- `EMPTY`. -/
def empty : PendingRead where
  payload := none
  fromOwnProvider := false
  sensitive := false
  imageUri := none
  timestamp := 0

/-- `imageRead`. -/
def imageRead
    (uris : UriParts)
    (uri : String)
    (sensitive : Bool) :
    PendingRead :=
  if ¬ uris.isContent uri then
    empty
  else if uris.isOwnProvider uri then
    { empty with
      payload := some (.image "")
      fromOwnProvider := true
      sensitive := sensitive }
  else
    { empty with sensitive := sensitive, imageUri := some uri }

/-- `imageKey` of `onWindowFocusChanged`. -/
def imageKey? (read : Option PendingRead) : Option (String × Nat) := do
  let read ← read
  let uri ← read.imageUri
  return (uri, read.timestamp)

/-- `resolveImage`, with the answer of `encodeImage`. -/
def resolveImage
    (read : Option PendingRead)
    (encoded : Option String) :
    Option ClipRead := do
  let read ← read
  match read.imageUri with
  | none =>
      return ⟨read.payload, read.fromOwnProvider, read.sensitive⟩
  | some _ =>
      let base64 ← encoded
      return ⟨some (.image base64), read.fromOwnProvider, read.sensitive⟩

end PendingRead

/-- A running `autoSendJob`, and whether the clip that it read is flagged. -/
structure AutoSend where
  read : Option PendingRead
  flagged : Bool
  deriving DecidableEq, Repr

/-- A clip that was sent; the listener sends without a trigger. -/
structure SentClip where
  payload : ClipPayload
  trigger : Option Trigger
  flagged : Bool
  deriving DecidableEq, Repr

/-- The service and the main screen, next to a log of what was sent. -/
structure Handset where
  phone : Phone
  /-- `EXTRA_IS_SENSITIVE` of the primary clip. -/
  sensitive : Bool
  /-- The time in the description of the primary clip. -/
  timestamp : Nat
  autoSendJob : Option AutoSend
  lastAutoImage : Option (String × Nat)
  sent : List SentClip

/-- What happens to the phone, with the answers of the system. -/
inductive HandsetEvent where
  /-- An app sets the clipboard. -/
  | copy (clip : ClipData) (sensitive : Bool) (timestamp : Nat)
  /-- The service's listener is called. -/
  | clipChanged (stream : Option (List UInt8)) (accepted : Bool)
  /-- The read throws, or coerces an item without a text. -/
  | focusChanged (hasFocus : Bool) (read : Option (Option String))
  /-- The coroutine of the main screen sends what it has read. -/
  | autoSend (encoded : Option String) (accepted : Bool)
  /-- The main screen is destroyed, and its coroutine cancelled. -/
  | destroy
  /-- The user asks for a send. -/
  | manualSend (read : Option ClipRead) (accepted : Bool)
  | receive (clip : Clip) (timestamp : Nat)
  | welcome (frame : Welcome) (timestamp : Nat)
  | disconnect
  | start
  | stop

/-- `UNDELIVERED`. -/
def undelivered : List SendOutcome :=
  [.notConnected, .notRunning, .readFailed]

namespace Handset

/-- Nothing has been sent yet. -/
def start (phone : Phone) (sensitive : Bool) (timestamp : Nat) : Handset where
  phone := phone
  sensitive := sensitive
  timestamp := timestamp
  autoSendJob := none
  lastAutoImage := none
  sent := []

section

variable (platform : Platform) (uris : UriParts)

/-- `ClipReader.fromClipboard`, when it does not throw. -/
def fromClipboard (handset : Handset) (coerced : Option String) : PendingRead :=
  match handset.phone.primaryClip with
  | none =>
      .empty
  | some clip =>
      match clip.items.head?, clip.mimeType with
      | some item, some mime =>
          if isTextContentType mime then
            match item.text.or coerced with
            | none =>
                { PendingRead.empty with timestamp := handset.timestamp }
            | some text =>
                { PendingRead.empty with
                  payload := some (.text text)
                  sensitive := handset.sensitive
                  timestamp := handset.timestamp }
          else if isImageContentType mime then
            match item.uri with
            | none =>
                .empty
            | some uri =>
                { PendingRead.imageRead uris uri handset.sensitive with
                  timestamp := handset.timestamp }
          else
            { PendingRead.empty with timestamp := handset.timestamp }
      | _, _ =>
          .empty

/-- `onWindowFocusChanged` of the main screen. -/
def onWindowFocusChanged
    (handset : Handset)
    (hasFocus : Bool)
    (read : Option (Option String)) :
    Handset :=
  if ¬ hasFocus ∨ ¬ handset.phone.serviceRunning then
    handset
  else if handset.autoSendJob.isSome then
    handset
  else
    let read := read.map (handset.fromClipboard uris)
    if read.any (·.sensitive) then
      handset
    else if (PendingRead.imageKey? read).isSome ∧
        PendingRead.imageKey? read = handset.lastAutoImage then
      handset
    else
      { handset with autoSendJob := some ⟨read, handset.sensitive⟩ }

/-- What an attempt has sent. -/
def sentBy
    (read : Option ClipRead)
    (trigger : Trigger)
    (flagged : Bool)
    (outcome : SendOutcome) :
    List SentClip :=
  if outcome = .sent then
    (read.bind ClipRead.payload).toList.map fun payload =>
      ⟨payload, some trigger, flagged⟩
  else
    []

/-- The rest of the coroutine of the main screen. -/
def finishAutoSend
    (handset : Handset)
    (job : AutoSend)
    (encoded : Option String)
    (accepted : Bool) :
    Handset :=
  let read := PendingRead.resolveImage job.read encoded
  let (phone, outcome) := handset.phone.attempt read .auto accepted
  let imageKey := PendingRead.imageKey? job.read
  { handset with
    phone := phone
    autoSendJob := none
    lastAutoImage :=
      if imageKey.isSome ∧ outcome ∉ undelivered then
        imageKey
      else
        handset.lastAutoImage
    sent := sentBy read .auto job.flagged outcome ++ handset.sent }

/-- A send that the user asks for. -/
def manualSend
    (handset : Handset)
    (read : Option ClipRead)
    (accepted : Bool) :
    Handset :=
  let (phone, outcome) := handset.phone.attempt read .manual accepted
  { handset with
    phone := phone
    sent :=
      sentBy read .manual (read.any ClipRead.sensitive) outcome ++
        handset.sent }

/-- The service's listener. -/
def listen
    (handset : Handset)
    (stream : Option (List UInt8))
    (accepted : Bool) :
    Handset :=
  let (phone, offered) := handset.phone.onLocalClipboardChanged platform stream
  { handset with
    phone := phone
    sent :=
      if accepted then
        offered.toList.map
            (fun payload => ⟨payload, none, handset.sensitive⟩) ++
          handset.sent
      else
        handset.sent }

/-- An inbound clip; the clips of the app are not flagged. -/
def receive (handset : Handset) (clip : Clip) (timestamp : Nat) : Handset :=
  let (phone, changed) := handset.phone.applyInboundClip platform clip
  if changed then
    { handset with phone := phone, sensitive := false, timestamp := timestamp }
  else
    { handset with phone := phone }

/-- The first half of `onConnected`. -/
def welcomed (handset : Handset) (frame : Welcome) : Handset :=
  { handset with
    phone :=
      { handset.phone with
        clientId := some frame.clientId
        connected := true } }

/-- A new service knows neither a connection nor a content. -/
def restart (handset : Handset) : Handset :=
  { handset with
    phone :=
      { handset.phone with
        serviceRunning := true
        connected := false
        clientId := none
        lastSentContent := none
        lastReceivedContent := none } }

/-- One event; without a service nothing is received and nobody listens. -/
def step? (handset : Handset) : HandsetEvent → Option Handset
  | .copy clip sensitive timestamp =>
      some
        { handset with
          phone := handset.phone.setPrimaryClip clip
          sensitive := sensitive
          timestamp := timestamp }
  | .clipChanged stream accepted =>
      if handset.phone.serviceRunning then
        some (handset.listen platform stream accepted)
      else
        none
  | .focusChanged hasFocus read =>
      some (handset.onWindowFocusChanged uris hasFocus read)
  | .autoSend encoded accepted =>
      handset.autoSendJob.map fun job =>
        handset.finishAutoSend job encoded accepted
  | .destroy =>
      some { handset with autoSendJob := none }
  | .manualSend read accepted =>
      some (handset.manualSend read accepted)
  | .receive clip timestamp =>
      if handset.phone.serviceRunning then
        some (handset.receive platform clip timestamp)
      else
        none
  | .welcome frame timestamp =>
      if handset.phone.serviceRunning then
        match frame.lastClip with
        | some clip =>
            some ((handset.welcomed frame).receive platform clip timestamp)
        | none =>
            some (handset.welcomed frame)
      else
        none
  | .disconnect =>
      some
        { handset with phone := { handset.phone with connected := false } }
  | .start =>
      if handset.phone.serviceRunning then
        none
      else
        some handset.restart
  | .stop =>
      some
        { handset with
          phone := { handset.phone with serviceRunning := false } }

end

end Handset

/-! ## What leaves the phone by itself -/

/-- The user has asked for it, or it is not flagged. -/
def SentClip.Allowed (clip : SentClip) : Prop :=
  clip.trigger = some .manual ∨ clip.flagged = false

/-- A job that has read a flagged clip has nothing to send. -/
def AutoSend.Empty (job : AutoSend) : Prop :=
  job.flagged = true →
    ∀ encoded,
      (PendingRead.resolveImage job.read encoded).bind ClipRead.payload = none

namespace Handset

/-- Every clip that was sent was allowed to be. -/
def Discreet (handset : Handset) : Prop :=
  ∀ clip ∈ handset.sent, clip.Allowed

/-- So it is after an event as well. -/
def StaysDiscreet
    (platform : Platform)
    (uris : UriParts)
    (handset : Handset)
    (event : HandsetEvent) :
    Prop :=
  ∀ next, handset.step? platform uris event = some next → next.Discreet

/--
The listener is not called for a flagged clip, or it finds nothing that it
does not remember, or `sendText` refuses what it finds.
-/
def KeepsFlag (platform : Platform) (handset : Handset) : HandsetEvent → Prop
  | .clipChanged stream accepted =>
      handset.phone.serviceRunning = true →
      handset.sensitive = true →
      accepted = true →
      ∀ payload, ¬ handset.phone.Offers platform stream payload
  | _ =>
      True

/-- Nothing flagged has left by itself, and nothing flagged is about to. -/
structure Guarded (handset : Handset) : Prop where
  discreet : handset.Discreet
  job : ∀ job, handset.autoSendJob = some job → job.Empty

variable
  {platform : Platform}
  {uris : UriParts}
  {handset : Handset}

/-- The image of a flagged clip carries the flag, or it is refused. -/
theorem imageRead_of_flagged
    {uri : String}
    (unmarked : (PendingRead.imageRead uris uri true).sensitive = false) :
    PendingRead.imageRead uris uri true = .empty := by
  unfold PendingRead.imageRead at unmarked ⊢
  split_ifs at unmarked with otherScheme own
  · exact if_pos otherScheme

/-- A read of a flagged clip carries the flag, or nothing at all. -/
theorem fromClipboard_of_flagged
    (flagged : handset.sensitive = true)
    {coerced : Option String}
    (unmarked : (handset.fromClipboard uris coerced).sensitive = false) :
    (handset.fromClipboard uris coerced).payload = none ∧
      (handset.fromClipboard uris coerced).imageUri = none := by
  cases shown : handset.phone.primaryClip with
  | none =>
      simp [fromClipboard, shown, PendingRead.empty]
  | some clip =>
      simp only [fromClipboard, shown, flagged] at unmarked ⊢
      split
      · rename_i item mime isItem isMime
        simp only [isItem, isMime] at unmarked
        by_cases textual : isTextContentType mime
        · cases isText : item.text.or coerced <;>
            simp_all [PendingRead.empty]
        · by_cases pictured : isImageContentType mime
          · cases isUri : item.uri with
            | none =>
                simp [textual, pictured, PendingRead.empty]
            | some uri =>
                simp only [textual, pictured, isUri, if_true, if_false,
                  Bool.false_eq_true] at unmarked ⊢
                rw [imageRead_of_flagged unmarked]
                exact ⟨rfl, rfl⟩
          · simp [textual, pictured, PendingRead.empty]
      · exact ⟨rfl, rfl⟩

/-- Without an image to encode the payload is what has been read. -/
theorem resolveImage_payload_eq_none
    {read : PendingRead}
    (noPayload : read.payload = none)
    (noImage : read.imageUri = none)
    (encoded : Option String) :
    (PendingRead.resolveImage (some read) encoded).bind ClipRead.payload =
      none := by
  simp [PendingRead.resolveImage, noPayload, noImage]

/-- A job that the main screen starts has not got a flagged clip. -/
theorem empty_of_read
    {read : Option (Option String)}
    (unmarked : ¬ (read.map (handset.fromClipboard uris)).any (·.sensitive)) :
    AutoSend.Empty
      ⟨read.map (handset.fromClipboard uris), handset.sensitive⟩ := by
  intro flagged encoded
  cases read with
  | none =>
      rfl
  | some coerced =>
      obtain ⟨noPayload, noImage⟩ :=
        fromClipboard_of_flagged flagged (by simpa using unmarked)
      exact resolveImage_payload_eq_none noPayload noImage encoded

/-- What an attempt sends is what has been read. -/
theorem mem_sentBy
    {read : Option ClipRead}
    {trigger : Trigger}
    {flagged : Bool}
    {outcome : SendOutcome}
    {clip : SentClip}
    (member : clip ∈ sentBy read trigger flagged outcome) :
    read.bind ClipRead.payload = some clip.payload ∧
      clip.trigger = some trigger ∧ clip.flagged = flagged := by
  unfold sentBy at member
  split at member
  · obtain ⟨payload, isPayload, rfl⟩ := List.mem_map.mp member
    exact ⟨Option.mem_toList.mp isPayload, rfl, rfl⟩
  · cases member

/-- The listener sends what it offers, whatever the flag says. -/
theorem listen_discreet_iff
    (discreet : handset.Discreet)
    {stream : Option (List UInt8)}
    {accepted : Bool} :
    (handset.listen platform stream accepted).Discreet ↔
      (handset.sensitive = true →
        accepted = true →
        ∀ payload, ¬ handset.phone.Offers platform stream payload) := by
  cases accepted with
  | false =>
      simpa [listen, Discreet] using discreet
  | true =>
      simp only [Discreet] at discreet
      simp only [listen, Discreet, if_true, List.forall_mem_append,
        List.forall_mem_map, Option.mem_toList, Phone.offered_eq_some_iff,
        SentClip.Allowed, forall_const]
      constructor
      · rintro ⟨allowed, -⟩ flagged payload offers
        simpa [flagged] using allowed payload offers
      · intro silent
        refine ⟨fun payload offers => .inr ?_, discreet⟩
        by_contra flagged
        exact silent (by simpa using flagged) payload offers

/-- An event that sends nothing and starts no job keeps the guard. -/
theorem Guarded.of_same
    {next : Handset}
    (guarded : handset.Guarded)
    (sent : next.sent = handset.sent)
    (job : next.autoSendJob = handset.autoSendJob) :
    next.Guarded where
  discreet := by
    rw [Discreet, sent]
    exact guarded.discreet
  job := by
    rw [job]
    exact guarded.job

/-- The main screen starts no job for a flagged clip. -/
theorem Guarded.onWindowFocusChanged
    (guarded : handset.Guarded)
    (hasFocus : Bool)
    (read : Option (Option String)) :
    (handset.onWindowFocusChanged uris hasFocus read).Guarded := by
  unfold Handset.onWindowFocusChanged
  split
  · exact guarded
  · split
    · exact guarded
    · dsimp only
      split
      · exact guarded
      · rename_i unmarked
        split
        · exact guarded
        · refine ⟨guarded.discreet, ?_⟩
          rintro job ⟨⟩
          exact empty_of_read unmarked

/-- The job of the main screen sends nothing flagged. -/
theorem Guarded.finishAutoSend
    (guarded : handset.Guarded)
    {job : AutoSend}
    (running : handset.autoSendJob = some job)
    (encoded : Option String)
    (accepted : Bool) :
    (handset.finishAutoSend job encoded accepted).Guarded where
  discreet := by
    refine List.forall_mem_append.mpr
      ⟨fun clip member => .inr ?_, guarded.discreet⟩
    obtain ⟨isPayload, -, flag⟩ := mem_sentBy member
    by_contra flagged
    have nothing :=
      guarded.job job running (by simpa [flag] using flagged) encoded
    rw [nothing] at isPayload
    cases isPayload
  job := by
    rintro job ⟨⟩

/-- The user may send anything. -/
theorem Guarded.manualSend
    (guarded : handset.Guarded)
    (read : Option ClipRead)
    (accepted : Bool) :
    (handset.manualSend read accepted).Guarded where
  discreet := by
    refine List.forall_mem_append.mpr
      ⟨fun clip member => .inl ?_, guarded.discreet⟩
    exact (mem_sentBy member).2.1
  job := guarded.job

/-- An inbound clip sends nothing. -/
theorem Guarded.receive
    (guarded : handset.Guarded)
    (clip : Clip)
    (timestamp : Nat) :
    (handset.receive platform clip timestamp).Guarded := by
  unfold Handset.receive
  dsimp only
  split
  · exact guarded.of_same rfl rfl
  · exact guarded.of_same rfl rfl

/-- Only the listener can send a flagged clip by itself. -/
theorem Guarded.step
    {next : Handset}
    {event : HandsetEvent}
    (guarded : handset.Guarded)
    (keeps : handset.KeepsFlag platform event)
    (stepped : handset.step? platform uris event = some next) :
    next.Guarded := by
  cases event with
  | copy clip sensitive timestamp =>
      cases stepped
      exact guarded.of_same rfl rfl
  | clipChanged stream accepted =>
      obtain ⟨running, ⟨⟩⟩ := Option.ite_none_right_eq_some.mp stepped
      exact ⟨(listen_discreet_iff guarded.discreet).mpr (keeps running),
        guarded.job⟩
  | focusChanged hasFocus read =>
      cases stepped
      exact guarded.onWindowFocusChanged hasFocus read
  | autoSend encoded accepted =>
      obtain ⟨job, running, rfl⟩ := Option.map_eq_some_iff.mp stepped
      exact guarded.finishAutoSend running encoded accepted
  | destroy =>
      cases stepped
      refine ⟨guarded.discreet, ?_⟩
      rintro job ⟨⟩
  | manualSend read accepted =>
      cases stepped
      exact guarded.manualSend read accepted
  | receive clip timestamp =>
      obtain ⟨-, ⟨⟩⟩ := Option.ite_none_right_eq_some.mp stepped
      exact guarded.receive clip timestamp
  | welcome frame timestamp =>
      have welcomed : (handset.welcomed frame).Guarded :=
        guarded.of_same rfl rfl
      obtain ⟨-, stepped⟩ := Option.ite_none_right_eq_some.mp stepped
      cases isLast : frame.lastClip with
      | none =>
          simp only [isLast, Option.some.injEq] at stepped
          exact stepped ▸ welcomed
      | some clip =>
          simp only [isLast, Option.some.injEq] at stepped
          exact stepped ▸ welcomed.receive clip timestamp
  | disconnect =>
      cases stepped
      exact guarded.of_same rfl rfl
  | start =>
      obtain ⟨-, ⟨⟩⟩ := Option.ite_none_left_eq_some.mp stepped
      exact guarded.of_same rfl rfl
  | stop =>
      cases stepped
      exact guarded.of_same rfl rfl

/-- An event keeps the phone discreet exactly if it keeps the flag. -/
theorem Guarded.staysDiscreet_iff
    {event : HandsetEvent}
    (guarded : handset.Guarded) :
    handset.StaysDiscreet platform uris event ↔
      handset.KeepsFlag platform event := by
  constructor
  · intro stays
    cases event with
    | clipChanged stream accepted =>
        intro running
        exact (listen_discreet_iff guarded.discreet).mp
          (stays _ (if_pos running))
    | _ =>
        trivial
  · intro keeps next stepped
    exact (guarded.step keeps stepped).discreet

theorem guarded_start (phone : Phone) (sensitive : Bool) (timestamp : Nat) :
    (start phone sensitive timestamp).Guarded where
  discreet := by
    rintro clip ⟨⟩
  job := by
    rintro job ⟨⟩

/--
Over every run, everything that leaves the phone without a request is free of
the flag exactly if the listener never hands over a flagged clip.
-/
theorem staysDiscreet_along_iff
    (platform : Platform)
    (uris : UriParts)
    (phone : Phone)
    (sensitive : Bool)
    (timestamp : Nat)
    (events : List HandsetEvent) :
    StepRun.Along (step? platform uris) (StaysDiscreet platform uris)
        (start phone sensitive timestamp) events ↔
      StepRun.Along (step? platform uris) (KeepsFlag platform)
        (start phone sensitive timestamp) events :=
  StepRun.Along.congr_of_kept (motive := Guarded)
    (guarded_start phone sensitive timestamp)
    (fun _ guarded => guarded.staysDiscreet_iff)
    (fun _ guarded keeps stepped => guarded.step keeps stepped)

/-- A password manager copies a password while the app is shown. -/
def passwordCopied : List HandsetEvent :=
  [.copy (.newPlainText "hunter2") true 1, .clipChanged none true]

/-- URIs of another app. -/
def foreignUris : UriParts where
  isContent _ := true
  isOwnProvider _ := false

/-- The listener sends the password. -/
theorem passwordCopied_not_staysDiscreet :
    ¬ ∀ (platform : Platform) (uris : UriParts) (phone : Phone)
        (events : List HandsetEvent),
        StepRun.Along (step? platform uris) (StaysDiscreet platform uris)
          (start phone false 0) events := by
  intro always
  have along :=
    always samplePlatform foreignUris
      (PhoneLog.fresh (some "phone") none none).phone passwordCopied
  have discreet := along.2.1 _ rfl
  have allowed :=
    discreet ⟨.text "hunter2", none, true⟩ (by decide)
  rcases allowed with requested | unflagged
  · cases requested
  · cases unflagged

end Handset

end Android

end ClipboardWire
