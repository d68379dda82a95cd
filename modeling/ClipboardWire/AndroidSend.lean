import ClipboardWire.AndroidDuplicates

namespace ClipboardWire

namespace Android

/-!
# What the phone says about the desktop

A send attempt that ends with `ALREADY_ON_DESKTOP` should be about a payload
that has been exchanged with the hub.  The code compares fingerprints that it
remembers; the invariant is that every remembered fingerprint belongs to a
payload that was exchanged.
-/

variable {platform : Platform}

/-- The fingerprints that an attempt compares with. -/
def Phone.Remembers
    (phone : Phone)
    (trigger : Trigger)
    (text : String) : Prop :=
  phone.lastSentContent = some text ∨
    trigger = .auto ∧ phone.lastReceivedContent = some text

instance (phone : Phone) (trigger : Trigger) (text : String) :
    Decidable (phone.Remembers trigger text) :=
  inferInstanceAs (Decidable (_ ∨ _))

/-- An attempt gets to the comparison of its payload. -/
def ClipRead.Compares
    (read : ClipRead)
    (trigger : Trigger)
    (payload : ClipPayload) :
    Prop :=
  read.payload = some payload ∧ payload.isBlankText = false ∧
    read.fromOwnProvider = false ∧
      ¬ (trigger = .auto ∧ read.sensitive = true)

instance (read : ClipRead) (trigger : Trigger) (payload : ClipPayload) :
    Decidable (read.Compares trigger payload) :=
  inferInstanceAs (Decidable (_ ∧ _))

/-- When the decision is that the payload is on the desktop. -/
theorem SendDecision.decide_eq_alreadyOnDesktop
    {payload : Option ClipPayload}
    {trigger : Trigger}
    {fromOwnProvider sensitive serviceRunning connected : Bool}
    {lastSent lastReceived : Option String}
    (already :
      SendDecision.decide payload trigger fromOwnProvider sensitive
        serviceRunning connected lastSent lastReceived = .alreadyOnDesktop) :
    fromOwnProvider = true ∨
      ∃ content,
        (ClipRead.mk payload fromOwnProvider sensitive).Compares trigger
          content ∧
        (lastSent = some content.fingerprint ∨
          trigger = .auto ∧ lastReceived = some content.fingerprint) := by
  cases payload with
  | none =>
      cases already
  | some content =>
      by_cases blank : content.isBlankText = true
      · rw [SendDecision.decide, if_pos blank] at already
        cases already
      by_cases own : fromOwnProvider = true
      · exact .inl own
      by_cases skipped : trigger = .auto ∧ sensitive = true
      · rw [SendDecision.decide, if_neg blank, if_neg own,
          if_pos skipped] at already
        cases already
      refine .inr ⟨content,
        ⟨rfl, by simpa using blank, by simpa using own, skipped⟩, ?_⟩
      by_cases sent : lastSent = some content.fingerprint
      · exact .inl sent
      refine .inr ?_
      by_contra received
      -- Behind the comparisons the payload is sent, or something prevents it.
      rw [SendDecision.decide, if_neg blank, if_neg own, if_neg skipped,
        if_neg sent, if_neg received] at already
      split_ifs at already

/-- A compared payload that is remembered is taken to be on the desktop. -/
theorem SendDecision.decide_of_remembered
    {payload : ClipPayload}
    {trigger : Trigger}
    {serviceRunning connected : Bool}
    {lastSent lastReceived : Option String}
    (read : ClipRead)
    (compares : read.Compares trigger payload)
    (remembered :
      lastSent = some payload.fingerprint ∨
        trigger = .auto ∧ lastReceived = some payload.fingerprint) :
    SendDecision.decide read.payload trigger read.fromOwnProvider
        read.sensitive serviceRunning connected lastSent lastReceived =
      .alreadyOnDesktop := by
  obtain ⟨isPayload, notBlank, foreign, notSkipped⟩ := compares
  rw [isPayload, SendDecision.decide, if_neg (by simp [notBlank]),
    if_neg (by simp [foreign]), if_neg notSkipped]
  by_cases sent : lastSent = some payload.fingerprint
  · rw [if_pos sent]
  · rw [if_neg sent, if_pos (remembered.resolve_left sent)]

/-- What an attempt compares when it says that the payload is there. -/
theorem Phone.attempt_eq_alreadyOnDesktop
    {phone : Phone}
    {read : Option ClipRead}
    {trigger : Trigger}
    {accepted : Bool}
    (already :
      (phone.attempt read trigger accepted).2 = .alreadyOnDesktop) :
    ∃ clip,
      read = some clip ∧
        (clip.fromOwnProvider = true ∨
          ∃ payload,
            clip.Compares trigger payload ∧
              phone.serviceRunning = true ∧
                phone.Remembers trigger payload.fingerprint) := by
  cases read with
  | none =>
      cases already
  | some clip =>
      refine ⟨clip, rfl, ?_⟩
      simp only [Phone.attempt] at already
      split at already
      · refine
          (SendDecision.decide_eq_alreadyOnDesktop already).imp_right ?_
        rintro ⟨payload, -, remembered⟩
        simp at remembered
      · rename_i running
        cases isPayload : clip.payload with
        | none =>
            simp [isPayload] at already
        | some payload =>
            have decided :
                SendDecision.decide clip.payload trigger clip.fromOwnProvider
                    clip.sensitive true phone.connected phone.lastSentContent
                    phone.lastReceivedContent =
                  .alreadyOnDesktop := by
              rw [isPayload]
              simp only [isPayload, Phone.sendFromForeground] at already
              split_ifs at already
              exact already
            refine
              (SendDecision.decide_eq_alreadyOnDesktop decided).imp_right ?_
            rintro ⟨content, compares, remembered⟩
            exact ⟨content, compares, by simpa using running, remembered⟩

/-- The listener finds a payload that it does not remember. -/
def Phone.Offers
    (platform : Platform)
    (phone : Phone)
    (stream : Option (List UInt8))
    (payload : ClipPayload) :
    Prop :=
  phone.localPayload? platform stream = some payload ∧
    phone.lastSentContent ≠ some payload.fingerprint ∧
      phone.lastReceivedContent ≠ some payload.fingerprint

/-- What the listener does with what it finds. -/
theorem Phone.onLocalClipboardChanged_cases
    (platform : Platform)
    (phone : Phone)
    (stream : Option (List UInt8)) :
    (phone.onLocalClipboardChanged platform stream = (phone, none)) ∨
      ∃ payload,
        phone.Offers platform stream payload ∧
          phone.onLocalClipboardChanged platform stream =
            ({ phone with lastSentContent := some payload.fingerprint },
              some payload) := by
  cases found : phone.localPayload? platform stream with
  | none =>
      simp [onLocalClipboardChanged, found]
  | some payload =>
      by_cases known :
          phone.lastSentContent = some payload.fingerprint ∨
            phone.lastReceivedContent = some payload.fingerprint
      · simp [onLocalClipboardChanged, found, known]
      · exact .inr ⟨payload, ⟨found, not_or.mp known⟩, by
          simp [onLocalClipboardChanged, found, known]⟩

/-- The listener hands over what it offers, and nothing else. -/
theorem Phone.offered_eq_some_iff
    {platform : Platform}
    {phone : Phone}
    {stream : Option (List UInt8)}
    {payload : ClipPayload} :
    (phone.onLocalClipboardChanged platform stream).2 = some payload ↔
      phone.Offers platform stream payload := by
  constructor
  · intro offered
    rcases Phone.onLocalClipboardChanged_cases platform phone stream with
      nothing | ⟨found, offers, sent⟩
    · rw [nothing] at offered
      cases offered
    · rw [sent] at offered
      cases offered
      exact offers
  · rintro ⟨found, notSent, notReceived⟩
    simp [Phone.onLocalClipboardChanged, found, notSent, notReceived]

namespace PhoneLog

/-- An attempt that says so is about the own provider or was exchanged. -/
def TellsTruth (log : PhoneLog) : PhoneEvent → Prop
  | .attempt read trigger accepted =>
      (log.phone.attempt read trigger accepted).2 = .alreadyOnDesktop →
        ∃ clip,
          read = some clip ∧
            (clip.fromOwnProvider = true ∨
              ∃ payload,
                clip.payload = some payload ∧ payload ∈ log.exchanged)
  | _ => True

/-- Whatever the listener offers is accepted, or was exchanged before. -/
def ListensWell
    (platform : Platform)
    (log : PhoneLog)
    (stream : Option (List UInt8))
    (accepted : Bool) :
    Prop :=
  ∀ payload,
    log.phone.Offers platform stream payload →
      accepted = true ∨ payload ∈ log.exchanged

/-- What the listener offers because of an inbound clip is accepted. -/
def ReceivesWell
    (platform : Platform)
    (log : PhoneLog)
    (clip : Clip)
    (accepted : Bool) :
    Prop :=
  ¬ log.phone.IsOwn clip →
    (log.phone.applyInboundClip platform clip).2 = true →
      (log.applied platform clip).ListensWell platform none accepted

/--
Every change that the listener offers is accepted, and no payload that is
compared has the remembered text of a payload of the other kind only.
-/
def Accounted (platform : Platform) (log : PhoneLog) : PhoneEvent → Prop
  | .copy clip stream accepted =>
      log.phone.serviceRunning = true →
        (log.setPrimaryClip clip).ListensWell platform stream accepted
  | .receive clip accepted =>
      log.ReceivesWell platform clip accepted
  | .welcome frame accepted =>
      ∀ clip ∈ frame.lastClip,
        (log.welcomed frame).ReceivesWell platform clip accepted
  | .attempt read trigger _ =>
      ∀ clip ∈ read,
        ∀ payload,
          clip.Compares trigger payload →
          log.phone.Remembers trigger payload.fingerprint →
          (∃ other ∈ log.exchanged,
            other.fingerprint = payload.fingerprint) →
          payload ∈ log.exchanged
  | _ => True

/-- Every fingerprint that is remembered belongs to an exchanged payload. -/
def Remembered (log : PhoneLog) : Prop :=
  ∀ text,
    log.phone.lastSentContent = some text ∨
        log.phone.lastReceivedContent = some text →
      ∃ payload ∈ log.exchanged, payload.fingerprint = text

/-- One more exchanged payload, whose fingerprint may be remembered. -/
theorem Remembered.exchange
    {log next : PhoneLog}
    (remembered : log.Remembered)
    (kept : ∀ payload ∈ log.exchanged, payload ∈ next.exchanged)
    (known :
      ∀ text,
        next.phone.lastSentContent = some text ∨
            next.phone.lastReceivedContent = some text →
          (log.phone.lastSentContent = some text ∨
            log.phone.lastReceivedContent = some text) ∨
          ∃ payload ∈ next.exchanged, payload.fingerprint = text) :
    next.Remembered := by
  intro text isKnown
  rcases known text isKnown with before | exchanged
  · obtain ⟨payload, member, same⟩ := remembered text before
    exact ⟨payload, kept payload member, same⟩
  · exact exchanged

/-- The listener remembers what has been exchanged. -/
theorem Remembered.listen
    {log : PhoneLog}
    {stream : Option (List UInt8)}
    {accepted : Bool}
    (remembered : log.Remembered)
    (well : log.ListensWell platform stream accepted) :
    (log.listen platform stream accepted).Remembered := by
  rcases Phone.onLocalClipboardChanged_cases platform log.phone stream with
    quiet | ⟨payload, offers, offered⟩
  · simpa [PhoneLog.listen, quiet] using remembered
  · have exchanged :
        payload ∈ (log.listen platform stream accepted).exchanged := by
      rcases well payload offers with isAccepted | before
      · simp [PhoneLog.listen, offered, isAccepted]
      · cases accepted <;> simp [PhoneLog.listen, offered, before]
    refine remembered.exchange (fun other member => ?_) (fun text known => ?_)
    · cases accepted <;> simp [PhoneLog.listen, offered, member]
    · simp only [PhoneLog.listen, offered, Option.some.injEq] at known
      rcases known with isPayload | received
      · exact .inr ⟨payload, exchanged, isPayload⟩
      · exact .inl (.inr received)

/-- A clip that carries something has the fingerprint of its payload. -/
theorem fingerprint_eq_payload (clip : Clip) :
    clip.fingerprint = clip.payload.map ClipPayload.fingerprint := by
  rcases clip with ⟨id, ts, contentType, content, contentB64, sender⟩
  cases content <;> cases contentB64 <;> rfl

/-- Setting the clipboard changes nothing that is remembered. -/
theorem applyContent_remembers
    (platform : Platform)
    (phone : Phone)
    (clip : Clip) :
    (phone.applyContent platform clip).1.lastSentContent =
        phone.lastSentContent ∧
      (phone.applyContent platform clip).1.lastReceivedContent =
        phone.lastReceivedContent := by
  unfold Phone.applyContent
  split
  · exact ⟨rfl, rfl⟩
  · split <;> exact ⟨rfl, rfl⟩

/-- An inbound clip is remembered as it was received. -/
theorem Remembered.applied
    {log : PhoneLog}
    (remembered : log.Remembered)
    (clip : Clip) :
    (log.applied platform clip).Remembered := by
  refine remembered.exchange
    (fun payload member => List.mem_append_right _ member)
    (fun text known => ?_)
  simp only [PhoneLog.applied, Phone.applyInboundClip] at known
  split at known
  · exact .inl known
  · split at known
    · exact .inl known
    · rename_i fingerprint isFingerprint
      split at known
      · exact .inl known
      · obtain ⟨sent, received⟩ :=
          applyContent_remembers platform
            { log.phone with
              lastReceivedContent := some fingerprint
              lastSentContent := some fingerprint } clip
        rw [sent, received, or_self, Option.some.injEq] at known
        rw [fingerprint_eq_payload, Option.map_eq_some_iff] at isFingerprint
        obtain ⟨payload, isPayload, same⟩ := isFingerprint
        exact .inr ⟨payload, by simp [PhoneLog.applied, isPayload],
          same.trans known⟩

/-- An inbound clip and the listener call that it causes. -/
theorem Remembered.receive
    {log : PhoneLog}
    {clip : Clip}
    {accepted : Bool}
    (remembered : log.Remembered)
    (well : log.ReceivesWell platform clip accepted) :
    (log.receive platform clip accepted).Remembered := by
  unfold PhoneLog.receive
  split
  · exact remembered
  · rename_i foreign
    split
    · rename_i changed
      exact (remembered.applied clip).listen (well foreign changed)
    · exact remembered.applied clip

/-- An attempt changes nothing, or it has sent its payload. -/
theorem attempt_cases
    (phone : Phone)
    (read : Option ClipRead)
    (trigger : Trigger)
    (accepted : Bool) :
    (phone.attempt read trigger accepted).1 = phone ∨
      ∃ payload,
        read.bind ClipRead.payload = some payload ∧
          phone.attempt read trigger accepted =
            ({ phone with lastSentContent := some payload.fingerprint },
              .sent) := by
  cases read with
  | none =>
      exact .inl rfl
  | some clip =>
      unfold Phone.attempt
      dsimp only
      split
      · exact .inl rfl
      · cases isPayload : clip.payload with
        | none =>
            exact .inl rfl
        | some payload =>
            dsimp only [Phone.sendFromForeground]
            split_ifs
            · exact .inl rfl
            · exact .inr ⟨payload, isPayload, rfl⟩
            · exact .inl rfl

/-- A send attempt remembers what it has sent. -/
theorem Remembered.attempt
    {log : PhoneLog}
    (remembered : log.Remembered)
    (read : Option ClipRead)
    (trigger : Trigger)
    (accepted : Bool) :
    (log.attempt read trigger accepted).Remembered := by
  have kept (payload : ClipPayload) (member : payload ∈ log.exchanged) :
      payload ∈ (log.attempt read trigger accepted).exchanged := by
    simp only [PhoneLog.attempt]
    split
    · exact List.mem_append_right _ member
    · exact member
  refine remembered.exchange kept fun text known => ?_
  rcases attempt_cases log.phone read trigger accepted with
    same | ⟨payload, isPayload, sent⟩
  · simp only [PhoneLog.attempt, same] at known
    exact .inl known
  · simp only [PhoneLog.attempt, sent, Option.some.injEq] at known
    rcases known with isText | received
    · refine .inr ⟨payload, ?_, isText⟩
      simp [PhoneLog.attempt, sent, isPayload]
    · exact .inl (.inr received)

theorem Remembered.step
    {log next : PhoneLog}
    {event : PhoneEvent}
    (remembered : log.Remembered)
    (accounted : log.Accounted platform event)
    (stepped : log.step? platform event = some next) :
    next.Remembered := by
  cases event with
  | copy clip stream accepted =>
      have copied : (log.setPrimaryClip clip).Remembered := remembered
      simp only [step?] at stepped
      split at stepped <;> cases stepped
      · rename_i running
        exact copied.listen (accounted running)
      · exact copied
  | receive clip accepted =>
      simp only [step?] at stepped
      split at stepped <;> cases stepped
      exact remembered.receive accounted
  | welcome frame accepted =>
      have welcomed : (log.welcomed frame).Remembered := remembered
      simp only [step?] at stepped
      split at stepped
      · split at stepped <;> cases stepped
        · rename_i clip cached
          exact welcomed.receive (accounted clip cached)
        · exact welcomed
      · cases stepped
  | disconnect =>
      cases stepped
      exact remembered
  | attempt read trigger accepted =>
      cases stepped
      exact remembered.attempt read trigger accepted
  | start =>
      simp only [step?] at stepped
      split at stepped <;> cases stepped
      intro text known
      simp [restart, fresh] at known
  | stop =>
      cases stepped
      exact remembered

/-- What an attempt says is true when it is accounted for. -/
theorem Remembered.tellsTruth
    {log : PhoneLog}
    {event : PhoneEvent}
    (remembered : log.Remembered)
    (accounted : log.Accounted platform event) :
    log.TellsTruth event := by
  cases event with
  | attempt read trigger accepted =>
      intro already
      obtain ⟨clip, rfl, about⟩ := Phone.attempt_eq_alreadyOnDesktop already
      refine ⟨clip, rfl, about.imp_right ?_⟩
      rintro ⟨payload, compares, -, known⟩
      refine ⟨payload, compares.1, ?_⟩
      exact accounted clip rfl payload compares known
        (remembered payload.fingerprint (known.imp_right And.right))
  | _ =>
      trivial

/--
In every run whose steps are all accounted for, an attempt ends with
`ALREADY_ON_DESKTOP` only if that is true.
-/
theorem tellsTruth_of_accounted
    (clientId : Option String)
    (primaryClip : Option ClipData)
    (clipboardImage : Option (List UInt8))
    {events : List PhoneEvent}
    (accounted :
      StepRun.Along (step? platform) (Accounted platform)
        (fresh clientId primaryClip clipboardImage) events) :
    StepRun.Along (step? platform) TellsTruth
      (fresh clientId primaryClip clipboardImage) events := by
  refine StepRun.Along.intro fun {past event log} within ran => ?_
  have remembered : log.Remembered := by
    refine StepRun.run?_history (motive := fun _ log => log.Remembered) ?_
      (fun earlier before holds stepped => ?_) ran
    · intro text known
      simp [fresh] at known
    · have inside :=
        (earlier.trans (List.prefix_append past [event])).trans within
      exact holds.step (accounted.meets inside before) stepped
  exact remembered.tellsTruth (accounted.meets within ran)

/-- The user sends what the clipboard was set to. -/
def sendHello : PhoneEvent :=
  .attempt (some ⟨some (.text "hello"), false, false⟩) .manual true

/-- A text is copied and accepted, and then sent by hand. -/
def copiedThenSent : List PhoneEvent :=
  [.copy (.newPlainText "hello") none true, sendHello]

theorem copiedThenSent_tellsTruth :
    StepRun.Along (step? samplePlatform) TellsTruth
      (fresh (some "phone") none none) copiedThenSent := by
  refine tellsTruth_of_accounted (some "phone") none none ?_
  refine ⟨fun _ _ _ => .inl rfl, ?_, trivial⟩
  rintro clip ⟨⟩ payload ⟨⟨⟩, -⟩ - -
  exact List.mem_cons_self

/-- A text is copied without a connection, and then sent by hand. -/
def refusedThenSent : List PhoneEvent :=
  [.copy (.newPlainText "hello") none false, sendHello]

/-- The desktop never got the text that is said to be there. -/
theorem refusedThenSent_not_tellsTruth :
    ¬ ∀ (platform : Platform) (events : List PhoneEvent),
        StepRun.Along (step? platform) TellsTruth (fresh none none none)
          events := by
  intro always
  have within :
      [.copy (.newPlainText "hello") none false] ++ [sendHello] <+:
        refusedThenSent :=
    List.prefix_refl refusedThenSent
  have truth := (always samplePlatform refusedThenSent).meets within rfl
  obtain ⟨clip, isClip, own | ⟨payload, isPayload, member⟩⟩ :=
    truth (by decide)
  · cases isClip
    cases own
  · cases member

/-- A refused offer is taken to be on the desktop by the next attempt. -/
theorem not_tellsTruth_of_refused
    {log : PhoneLog}
    {stream : Option (List UInt8)}
    {payload : ClipPayload}
    (running : log.phone.serviceRunning = true)
    (offers : log.phone.Offers platform stream payload)
    (notBlank : payload.isBlankText = false)
    (never : payload ∉ log.exchanged)
    (accepted : Bool) :
    ¬ (log.listen platform stream false).TellsTruth
        (.attempt (some ⟨some payload, false, false⟩) .manual
          accepted) := by
  intro truth
  have offered :
      log.phone.onLocalClipboardChanged platform stream =
        ({ log.phone with lastSentContent := some payload.fingerprint },
          some payload) := by
    obtain ⟨found, notSent, notReceived⟩ := offers
    simp [Phone.onLocalClipboardChanged, found, notSent, notReceived]
  have remembered :
      SendDecision.decide (some payload) .manual false false true
          log.phone.connected (some payload.fingerprint)
          log.phone.lastReceivedContent = .alreadyOnDesktop :=
    SendDecision.decide_of_remembered ⟨some payload, false, false⟩
      ⟨rfl, notBlank, rfl, by simp⟩ (.inl rfl)
  have already :
      ((log.listen platform stream false).phone.attempt
        (some ⟨some payload, false, false⟩) .manual accepted).2 =
          .alreadyOnDesktop := by
    simp [listen, offered, Phone.attempt, running, Phone.sendFromForeground,
      remembered]
  obtain ⟨clip, isClip, own | ⟨content, isContent, member⟩⟩ :=
    truth already
  · cases isClip
    cases own
  · cases isClip
    cases isContent
    exact never (by simpa [listen, offered] using member)

end PhoneLog

end Android

end ClipboardWire
