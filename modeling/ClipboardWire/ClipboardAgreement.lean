import ClipboardWire.ClipboardNetwork
import ClipboardWire.HubRelayInvariant

namespace ClipboardWire

open BoundedChannel

/-!
# Agreement of the clipboards

What a client knows is told by five things: the hub's cached clip, its own
clips in the hub's inbox, its channel, and its own state.  Each step of the
network changes them in one of a few ways, and each way keeps the same
assertion.  In a quiescent state it says that every client holds the cached
clip, unless its own publish and a clip of another client have crossed, or it
holds a value that it never sent as a clip.
-/

/-- The frame of a request that came from a clip. -/
def ApplyRequest.frame? : ApplyRequest → Option ClipFrame
  | .clip frame _ => some frame
  | .files _ _ => none

/-- The frame that was written by an event. -/
def DeskEvent.applied? : DeskEvent → Option ClipFrame
  | .applied frame => some frame
  | .copied _ | .published _ | .appliedFiles _ => none

/-- The frame whose value an event leaves on the clipboard. -/
def DeskEvent.frame? : DeskEvent → Option ClipFrame
  | .published frame | .applied frame => some frame
  | .copied _ | .appliedFiles _ => none

/-- A clip as the hub relays it. -/
def ClipFrame.stampedBy (client : Uuid) (clip : ClipFrame) : ClipFrame :=
  { clip with fromId := some client }

/-- The clip that a message publishes for a client. -/
def HubMessage.clipOf? (client : Uuid) : HubMessage → Option ClipFrame
  | .publish sender clip => if sender = client then some clip else none
  | .register _ _ _ | .deregister _ | .publishFile _ _ => none

/-- A frame that carries a well-formed change. -/
def Carries (codec : Codec) (png : PngCodec) (clip : ClipFrame) : Prop :=
  ∃ change, frameToChange codec png clip = .ok change ∧ change.WellFormed

namespace Desktop

/-- Clips in the requests of the clipboard thread. -/
def requested (desk : Desktop) : List ClipFrame :=
  desk.toApply.filterMap ApplyRequest.frame?

/-- Clips that were written, oldest first. -/
def written (desk : Desktop) : List ClipFrame :=
  desk.history.filterMap DeskEvent.applied?

end Desktop

/--
What holds of a connected client, given the cached clip, the client's own
clips in the inbox, and the clips in its channel.
-/
structure Informed
    (codec : Codec)
    (png : PngCodec)
    (client : Uuid)
    (lastClip : Option ClipFrame)
    (inFlight channel : List ClipFrame)
    (desk : Desktop) : Prop where
  /-- Its own clips are valid, unstamped, decodable and recorded. -/
  own :
    ∀ clip ∈ inFlight ++ desk.toHub,
      clip.validate = .ok () ∧
        clip.fromId = none ∧
        Carries codec png clip ∧
          .published clip ∈ desk.history
  /-- The clips it hears are decodable clips of other clients. -/
  foreign :
    ∀ clip ∈ desk.written ++ desk.requested ++ channel,
      clip.fromId ≠ some client ∧ Carries codec png clip
  decoded :
    ∀ clip change,
      .clip clip change ∈ desk.toApply →
        frameToChange codec png clip = .ok change
  wellFormed : ∀ change, desk.clipboard = some change → change.WellFormed
  /-- A value that came from or went into a frame is that frame's value. -/
  content :
    ∀ event clip,
      desk.history.getLast? = some event →
        event.frame? = some clip →
          ∃ change,
            frameToChange codec png clip = .ok change ∧
              desk.clipboard = some change
  /-- Any other value is what the user copied or the receiver saved. -/
  kept :
    (∀ change,
        desk.history.getLast? = some (.copied change) →
          desk.clipboard = some change) ∧
      ∀ paths,
        desk.history.getLast? = some (.appliedFiles paths) →
          desk.clipboard = some (.files paths)
  /-- Another client's cached clip is the last one it hears. -/
  latest :
    ∀ clip,
      lastClip = some clip →
        clip.fromId ≠ some client →
          (desk.written ++ desk.requested ++ channel).getLast? = some clip
  /-- Its own cached clip is one that it published. -/
  sent :
    ∀ clip,
      lastClip = some clip →
        clip.fromId = some client →
          ∃ unstamped,
            .published unstamped ∈ desk.history ∧
              clip = unstamped.stampedBy client
  /-- What it published last is on its way, cached, or about to be replaced. -/
  pending :
    ∀ clip,
      desk.history.getLast? = some (.published clip) →
        (inFlight ++ desk.toHub).getLast? = some clip ∨
          (inFlight ++ desk.toHub = [] ∧
            (lastClip = some (clip.stampedBy client) ∨
              desk.requested ++ channel ≠ []))

namespace Informed

variable {codec : Codec} {png : PngCodec} {client : Uuid}
  {lastClip : Option ClipFrame} {inFlight channel : List ClipFrame}
  {desk : Desktop}

theorem start :
    Informed codec png client none [] [] Desktop.start where
  own := by simp [Desktop.start]
  foreign := by simp [Desktop.start, Desktop.written, Desktop.requested]
  decoded := by simp [Desktop.start]
  wellFormed := by simp [Desktop.start]
  content := by simp [Desktop.start]
  kept := by simp [Desktop.start]
  latest := by simp
  sent := by simp
  pending := by simp [Desktop.start]

/-- The user copies a value. -/
theorem copy
    {change : ClipChange}
    (informed : Informed codec png client lastClip inFlight channel desk)
    (wellFormed : change.WellFormed) :
    Informed codec png client lastClip inFlight channel
      (desk.copy change) := by
  have written : (desk.copy change).written = desk.written := by
    simp [Desktop.copy, Desktop.written, DeskEvent.applied?]
  constructor
  · intro clip member
    obtain ⟨valid, unstamped, carries, recorded⟩ :=
      informed.own clip member
    exact ⟨valid, unstamped, carries, List.mem_append_left _ recorded⟩
  · rw [written]
    exact informed.foreign
  · exact informed.decoded
  · intro other holds
    cases holds
    exact wellFormed
  · intro event clip last
    simp only [Desktop.copy, List.getLast?_append, List.getLast?_singleton,
      Option.some_or, Option.some.injEq] at last
    subst event
    intro isFrame
    cases isFrame
  · constructor
    · intro other last
      simp only [Desktop.copy, List.getLast?_append, List.getLast?_singleton,
        Option.some_or, Option.some.injEq, DeskEvent.copied.injEq] at last
      subst other
      rfl
    · intro paths last
      simp [Desktop.copy] at last
  · rw [written]
    exact informed.latest
  · intro clip cached mine
    obtain ⟨unstamped, recorded, same⟩ := informed.sent clip cached mine
    exact ⟨unstamped, List.mem_append_left _ recorded, same⟩
  · intro clip last
    simp [Desktop.copy] at last

/-- A poll that reports nothing only moves the trackers. -/
theorem look
    (informed : Informed codec png client lastClip inFlight channel desk)
    (seen : Trackers) :
    Informed codec png client lastClip inFlight channel
      { desk with seen := seen } :=
  ⟨informed.own, informed.foreign, informed.decoded, informed.wellFormed,
    informed.content, informed.kept, informed.latest, informed.sent,
    informed.pending⟩

/-- A poll reports the value on the clipboard, and it is sent as a frame. -/
theorem publish
    {clip : ClipFrame}
    {change : ClipChange}
    (informed : Informed codec png client lastClip inFlight channel desk)
    (seen : Trackers)
    (valid : clip.validate = .ok ())
    (unstamped : clip.fromId = none)
    (current : desk.clipboard = some change)
    (carried : frameToChange codec png clip = .ok change) :
    Informed codec png client lastClip inFlight channel
      { desk with
        seen := seen
        toHub := desk.toHub ++ [clip]
        history := desk.history ++ [.published clip] } := by
  have written :
      ({ desk with
          seen := seen
          toHub := desk.toHub ++ [clip]
          history := desk.history ++ [.published clip] } :
        Desktop).written = desk.written := by
    simp [Desktop.written, DeskEvent.applied?]
  constructor
  · intro other member
    simp only [← List.append_assoc, List.mem_append (t := [clip]),
      List.mem_singleton] at member
    rcases member with earlier | rfl
    · obtain ⟨valid, unstamped, carries, recorded⟩ :=
        informed.own other earlier
      exact ⟨valid, unstamped, carries, List.mem_append_left _ recorded⟩
    · exact ⟨valid, unstamped,
        ⟨change, carried, informed.wellFormed change current⟩,
        List.mem_append_right _ (List.mem_singleton_self _)⟩
  · rw [written]
    exact informed.foreign
  · exact informed.decoded
  · exact informed.wellFormed
  · intro event other last isFrame
    simp only [List.getLast?_append, List.getLast?_singleton,
      Option.some_or, Option.some.injEq] at last
    subst event
    cases isFrame
    exact ⟨change, carried, current⟩
  · constructor <;>
    · intro value last
      simp at last
  · rw [written]
    exact informed.latest
  · intro other cached mine
    obtain ⟨original, recorded, same⟩ := informed.sent other cached mine
    exact ⟨original, List.mem_append_left _ recorded, same⟩
  · intro other last
    simp only [List.getLast?_append, List.getLast?_singleton,
      Option.some_or, Option.some.injEq, DeskEvent.published.injEq] at last
    subst other
    left
    simp [← List.append_assoc]

/-- The next frame moves from the client's queue to the inbox. -/
theorem submit
    {clip : ClipFrame}
    {rest : List ClipFrame}
    (informed : Informed codec png client lastClip inFlight channel desk)
    (queued : desk.toHub = clip :: rest) :
    Informed codec png client lastClip (inFlight ++ [clip]) channel
      { desk with toHub := rest } := by
  have same : inFlight ++ [clip] ++ rest = inFlight ++ desk.toHub := by
    rw [queued, List.append_assoc]
    rfl
  refine ⟨?_, informed.foreign, informed.decoded, informed.wellFormed,
    informed.content, informed.kept, informed.latest, informed.sent, ?_⟩
  · rw [same]
    exact informed.own
  · rw [same]
    exact informed.pending

/-- The hub handles a clip of the client itself. -/
theorem processOwn
    {clip : ClipFrame}
    {rest : List ClipFrame}
    (informed :
      Informed codec png client lastClip (clip :: rest) channel desk) :
    Informed codec png client (some (clip.stampedBy client)) rest channel
      desk := by
  refine ⟨?_, informed.foreign, informed.decoded, informed.wellFormed,
    informed.content, informed.kept, ?_, ?_, ?_⟩
  · intro other member
    exact informed.own other (List.mem_cons_of_mem clip member)
  · intro other cached foreign
    cases cached
    exact (foreign rfl).elim
  · intro other cached _
    cases cached
    obtain ⟨-, -, -, recorded⟩ := informed.own clip List.mem_cons_self
    exact ⟨clip, recorded, rfl⟩
  · intro other last
    rcases informed.pending other last with onTheWay | ⟨nothing, -⟩
    · cases shape : rest ++ desk.toHub with
      | nil =>
          -- it was the last one, and it is cached now
          simp only [List.cons_append, shape, List.getLast?_singleton,
            Option.some.injEq] at onTheWay
          subst other
          exact .inr ⟨rfl, .inl rfl⟩
      | cons next later =>
          simp only [List.cons_append, shape, List.getLast?_cons_cons]
            at onTheWay
          exact .inl onTheWay
    · cases nothing

/-- The hub handles a clip of another client. -/
theorem processOther
    {sender : Uuid}
    {clip : ClipFrame}
    (informed : Informed codec png client lastClip inFlight channel desk)
    (different : sender ≠ client)
    (carries : Carries codec png clip) :
    Informed codec png client (some (clip.stampedBy sender)) inFlight
      (channel ++ [clip.stampedBy sender]) desk := by
  refine ⟨informed.own, ?_, informed.decoded, informed.wellFormed,
    informed.content, informed.kept, ?_, ?_, ?_⟩
  · intro other member
    rw [← List.append_assoc, List.mem_append, List.mem_singleton] at member
    rcases member with earlier | rfl
    · exact informed.foreign other earlier
    · exact ⟨by simpa [ClipFrame.stampedBy] using different, carries⟩
  · intro other cached _
    cases cached
    rw [← List.append_assoc, List.getLast?_append]
    rfl
  · intro other cached mine
    cases cached
    simp only [ClipFrame.stampedBy, Option.some.injEq] at mine
    exact (different mine).elim
  · intro other last
    rcases informed.pending other last with onTheWay | ⟨nothing, -⟩
    · exact .inl onTheWay
    · exact .inr ⟨nothing, .inr (by simp)⟩

/-- The next clip of the channel is decoded for the clipboard thread. -/
theorem deliver
    {clip : ClipFrame}
    {rest : List ClipFrame}
    {change : ClipChange}
    (informed :
      Informed codec png client lastClip inFlight (clip :: rest) desk)
    (decoded : frameToChange codec png clip = .ok change) :
    Informed codec png client lastClip inFlight rest
      { desk with toApply := desk.toApply ++ [.clip clip change] } := by
  have requested :
      ({ desk with toApply := desk.toApply ++ [.clip clip change] } :
        Desktop).requested = desk.requested ++ [clip] := by
    simp [Desktop.requested, ApplyRequest.frame?]
  have same :
      desk.written ++ (desk.requested ++ [clip]) ++ rest =
        desk.written ++ desk.requested ++ clip :: rest := by
    simp
  refine ⟨informed.own, ?_, ?_, informed.wellFormed, informed.content,
    informed.kept, ?_, informed.sent, ?_⟩
  · rw [requested]
    exact fun other member =>
      informed.foreign other (same ▸ member)
  · intro other otherChange member
    simp only [List.mem_append, List.mem_singleton,
      ApplyRequest.clip.injEq] at member
    rcases member with earlier | ⟨rfl, rfl⟩
    · exact informed.decoded other otherChange earlier
    · exact decoded
  · rw [requested]
    exact fun other cached foreign =>
      same ▸ informed.latest other cached foreign
  · intro other last
    rcases informed.pending other last with onTheWay | ⟨nothing, cached | -⟩
    · exact .inl onTheWay
    · exact .inr ⟨nothing, .inl cached⟩
    · exact .inr ⟨nothing, .inr (by simp [requested])⟩

theorem write
    {request : ApplyRequest}
    {rest : List ApplyRequest}
    {change : ClipChange}
    {event : DeskEvent}
    (informed : Informed codec png client lastClip inFlight channel desk)
    (queued : desk.toApply = request :: rest)
    (frames : event.applied? = request.frame?)
    (wellFormed : change.WellFormed)
    (writes : change ≠ .files [])
    (content :
      ∀ clip,
        event.frame? = some clip → frameToChange codec png clip = .ok change)
    (notCopied : ∀ other, event ≠ .copied other)
    (files : ∀ paths, event = .appliedFiles paths → change = .files paths)
    (notPublished : ∀ clip, event ≠ .published clip) :
    Informed codec png client lastClip inFlight channel
      (Desktop.write { desk with toApply := rest } change event) := by
  have same :
      (Desktop.write { desk with toApply := rest } change event).written ++
          (Desktop.write { desk with toApply := rest } change event).requested =
        desk.written ++ desk.requested := by
    simp only [Desktop.write, Desktop.written, Desktop.requested, queued,
      List.filterMap_append, List.filterMap_cons, List.filterMap_nil, frames]
    cases request.frame? <;> simp
  have isLast :
      (Desktop.write { desk with toApply := rest } change
        event).history.getLast? = some event := by
    simp [Desktop.write]
  have written :
      (Desktop.write { desk with toApply := rest } change event).clipboard =
        some change :=
    ClipChange.writtenOver_of_ne writes desk.clipboard
  refine ⟨?_, ?_, ?_, ?_, ?_, ?_, ?_, ?_, ?_⟩
  · intro other member
    obtain ⟨valid, unstamped, carries, recorded⟩ :=
      informed.own other member
    exact ⟨valid, unstamped, carries, List.mem_append_left _ recorded⟩
  · rw [same]
    exact informed.foreign
  · intro other otherChange member
    exact informed.decoded other otherChange
      (queued ▸ List.mem_cons_of_mem _ member)
  · intro other holds
    obtain rfl := Option.some.inj (written.symm.trans holds)
    exact wellFormed
  · intro last other found isFrame
    obtain rfl := Option.some.inj (isLast.symm.trans found)
    exact ⟨change, content other isFrame, written⟩
  · constructor
    · intro other found
      exact (notCopied other
        (Option.some.inj (isLast.symm.trans found))).elim
    · intro paths found
      rw [← files paths (Option.some.inj (isLast.symm.trans found))]
      exact written
  · rw [same]
    exact informed.latest
  · intro other cached mine
    obtain ⟨unstamped, recorded, isStamped⟩ :=
      informed.sent other cached mine
    exact ⟨unstamped, List.mem_append_left _ recorded, isStamped⟩
  · intro other found
    exact (notPublished other
      (Option.some.inj (isLast.symm.trans found))).elim

/-- The clipboard thread writes the change of a clip. -/
theorem applyClip
    {clip : ClipFrame}
    {change : ClipChange}
    {rest : List ApplyRequest}
    (informed : Informed codec png client lastClip inFlight channel desk)
    (queued : desk.toApply = .clip clip change :: rest) :
    Informed codec png client lastClip inFlight channel
      (Desktop.apply { desk with toApply := rest } (.clip clip change)) := by
  have decoded : frameToChange codec png clip = .ok change :=
    informed.decoded clip change (by simp [queued])
  have heard :
      clip ∈ desk.written ++ desk.requested ++ channel := by
    simp [Desktop.requested, queued, ApplyRequest.frame?]
  obtain ⟨-, carried, isCarried, wellFormed⟩ :=
    informed.foreign clip heard
  rw [decoded] at isCarried
  cases isCarried
  refine informed.write queued rfl wellFormed
    (frameToChange_ne_files decoded []) ?_ (by simp) (by simp) (by simp)
  intro other isFrame
  cases isFrame
  exact decoded

/-- The clipboard thread writes a batch of received files. -/
theorem applyFiles
    {paths : List Path}
    {nonempty : paths ≠ []}
    {rest : List ApplyRequest}
    (informed : Informed codec png client lastClip inFlight channel desk)
    (queued : desk.toApply = .files paths nonempty :: rest) :
    Informed codec png client lastClip inFlight channel
      (Desktop.apply { desk with toApply := rest }
        (.files paths nonempty)) := by
  refine informed.write queued rfl trivial (by simpa using nonempty) ?_
    (by simp) ?_ (by simp)
  · intro other isFrame
    cases isFrame
  · intro others same
    cases same
    rfl

/-- A batch of received files waits for the clipboard thread. -/
theorem receiveFiles
    {paths : List Path}
    (informed : Informed codec png client lastClip inFlight channel desk)
    (nonempty : paths ≠ []) :
    Informed codec png client lastClip inFlight channel
      { desk with toApply := desk.toApply ++ [.files paths nonempty] } := by
  have requested :
      ({ desk with toApply := desk.toApply ++ [.files paths nonempty] } :
        Desktop).requested = desk.requested := by
    simp [Desktop.requested, ApplyRequest.frame?]
  refine ⟨informed.own, ?_, ?_, informed.wellFormed, informed.content,
    informed.kept, ?_, informed.sent, ?_⟩
  · rw [requested]
    exact informed.foreign
  · intro clip change member
    simp only [List.mem_append, List.mem_singleton, reduceCtorEq, or_false]
      at member
    exact informed.decoded clip change member
  · rw [requested]
    exact informed.latest
  · rw [requested]
    exact informed.pending

end Informed

namespace Network

variable {codec : Codec} {png : PngCodec}

/-- Every connected client is informed, and the inbox holds their clips. -/
structure Sound
    (codec : Codec)
    (png : PngCodec)
    (net : Network) : Prop where
  own : net.hub.OwnChannels
  alive : ∀ client, (net.mail.clip client).receiverAlive = true
  inbox :
    ∀ message ∈ net.inbox,
      ∃ sender clip,
        message = .publish sender clip ∧ net.Connected sender
  informed :
    ∀ client,
      net.Connected client →
        Informed codec png client net.hub.lastClip
          (net.inbox.filterMap (HubMessage.clipOf? client))
          (net.mail.clip client).buffer
          (net.desktop client)

/-- Registration leaves every channel empty and nothing cached. -/
private theorem registerAll_facts
    (ids : List Uuid)
    {hub : Hub}
    {mail : Mailboxes}
    (own : hub.OwnChannels)
    (alive : ∀ client, (mail.clip client).receiverAlive = true)
    (empty : ∀ client, (mail.clip client).buffer = [])
    (fresh : hub.lastClip = none) :
    (registerAll hub mail ids).1.OwnChannels ∧
      (∀ client,
        ((registerAll hub mail ids).2.clip client).receiverAlive = true) ∧
      (∀ client, ((registerAll hub mail ids).2.clip client).buffer = []) ∧
      (registerAll hub mail ids).1.lastClip = none := by
  induction ids generalizing hub mail with
  | nil =>
      exact ⟨own, alive, empty, fresh⟩
  | cons id rest inductionHypothesis =>
      apply inductionHypothesis
      · exact Hub.ownChannels_handle own mail (by simp)
      · intro client
        rw [(Hub.receiverAlive_handle own mail _ client).1]
        exact alive client
      · intro client
        have kept (channels : ClientChannels) :
            ((mail.dropSenders channels).clip client).buffer = [] := by
          simp only [Mailboxes.dropSenders, Function.update_apply]
          split <;> simp [empty]
        simp only [Hub.handle]
        split
        · exact kept _
        · split
          · exact kept _
          · exact empty client
      · simp only [Hub.handle]
        split <;> exact fresh

private theorem sound_start (maxClients : Nat) (ids : List Uuid) :
    Sound codec png (start maxClients ids) := by
  obtain ⟨own, alive, empty, fresh⟩ :=
    @registerAll_facts ids (Hub.new maxClients none)
      { clip := fun _ => Channel.withCapacity perClientChannelBuf
        file := fun _ => Channel.withCapacity perClientFileChannelBuf }
      (by intro entry member; cases member)
      (fun _ => rfl) (fun _ => rfl) rfl
  refine ⟨own, alive, by simp [start], ?_⟩
  intro client _
  simp only [start, fresh, empty, List.filterMap_nil]
  exact .start

private theorem Sound.setDesktop
    {net : Network}
    {client : Uuid}
    {desk : Desktop}
    (sound : Sound codec png net)
    (informed :
      Informed codec png client net.hub.lastClip
        (net.inbox.filterMap (HubMessage.clipOf? client))
        (net.mail.clip client).buffer desk) :
    Sound codec png (net.setDesktop client desk) := by
  refine ⟨sound.own, sound.alive, sound.inbox, ?_⟩
  intro other connected
  by_cases same : other = client
  · subst other
    simpa [Network.setDesktop] using informed
  · simpa [Network.setDesktop, same] using sound.informed other connected

private theorem Sound.poll
    {net : Network}
    {client id : Uuid}
    {failures : ReadFailures}
    {ts : Int64}
    (base64 : ∀ bytes, codec.decode (codec.encode bytes) = .ok bytes)
    (lossless : png.Lossless)
    (sound : Sound codec png net)
    (connected : net.Connected client) :
    Sound codec png
      (net.setDesktop client
        ((net.desktop client).poll codec png failures id ts)) := by
  have informed := sound.informed client connected
  apply sound.setDesktop
  simp only [Desktop.poll]
  split
  · exact informed.look _
  · rename_i change reported
    split
    · exact informed.look _
    · rename_i frame made
      have current := clipboard_of_pollClipboard reported
      have wellFormed := informed.wellFormed change current
      obtain ⟨valid, unstamped⟩ := validate_of_changeToFrame made
      exact informed.publish _ valid unstamped current
        (frameToChange_of_changeToFrame base64 lossless wellFormed made)

private theorem Sound.submit
    {net next : Network}
    {client : Uuid}
    (sound : Sound codec png net)
    (connected : net.Connected client)
    (stepped : net.submit? client = some next) :
    Sound codec png next := by
  unfold submit? at stepped
  split at stepped
  · cases stepped
  · rename_i frame rest queued
    split at stepped
    · cases stepped
    · cases stepped
      have informed := sound.informed client connected
      have unstamped : { frame with fromId := none } = frame := by
        obtain ⟨-, isUnstamped, -⟩ := informed.own frame (by simp [queued])
        cases frame
        cases isUnstamped
        rfl
      refine ⟨sound.own, sound.alive, ?_, ?_⟩
      · intro message member
        rcases List.mem_append.mp member with earlier | new
        · exact sound.inbox message earlier
        · rw [List.mem_singleton.mp new]
          exact ⟨_, _, rfl, connected⟩
      · intro other otherConnected
        by_cases same : other = client
        · subst other
          have submitted := informed.submit queued
          simpa [HubMessage.clipOf?, unstamped, List.filterMap_append]
            using submitted
        · have kept := sound.informed other otherConnected
          have different : client ≠ other := fun eq => same eq.symm
          simpa [HubMessage.clipOf?, List.filterMap_append,
            List.filterMap_cons, different, same] using kept

private theorem Sound.process
    {net next : Network}
    (sound : Sound codec png net)
    (stepped : net.process? = some next) :
    Sound codec png next := by
  unfold process? at stepped
  split at stepped
  · cases stepped
  · rename_i message rest queued
    split at stepped
    · rename_i room
      cases stepped
      obtain ⟨sender, clip, rfl, senderConnected⟩ :=
        sound.inbox message (by simp [queued])
      have informedSender := sound.informed sender senderConnected
      simp only [queued, List.filterMap_cons, HubMessage.clipOf?,
        ↓reduceIte] at informedSender
      obtain ⟨-, -, carries, -⟩ := informedSender.own clip (by simp)
      refine ⟨sound.own, ?_, ?_, ?_⟩
      · intro client
        rw [(Hub.receiverAlive_handle sound.own net.mail _ client).1]
        exact sound.alive client
      · intro message member
        exact sound.inbox message (by simp [queued, member])
      · intro client connected
        simp only [Hub.handle_publish_clip sound.own]
        by_cases same : client = sender
        · subst client
          simp only [ne_eq, not_true_eq_false, and_false, ↓reduceIte]
          exact informedSender.processOwn
        · have registered : net.hub.Registered client := connected
          have different : sender ≠ client := fun eq => same eq.symm
          have hasRoom : (net.mail.clip client).HasRoom := by
            obtain ⟨entry, isEntry, rfl⟩ := List.mem_map.mp registered
            have fits := room entry isEntry same
            rwa [sound.own entry isEntry] at fits
          have informed := sound.informed client connected
          simp only [queued, List.filterMap_cons, HubMessage.clipOf?,
            different, ↓reduceIte] at informed
          simp only [registered, ne_eq, same, not_false_eq_true, and_self,
            ↓reduceIte,
            Channel.buffer_offer_of_room _ (sound.alive client) hasRoom]
          exact informed.processOther different carries
    · cases stepped

private theorem Sound.deliver
    {net next : Network}
    {client : Uuid}
    (sound : Sound codec png net)
    (connected : net.Connected client)
    (stepped : deliver? codec png net client = some next) :
    Sound codec png next := by
  unfold deliver? at stepped
  split at stepped
  · rename_i frame clips taken
    obtain ⟨queued, rfl⟩ := Channel.pollRecv_eq_received.mp taken
    have informed := sound.informed client connected
    simp only [queued] at informed
    simp only at stepped
    split at stepped
    · -- every clip of a client can be decoded
      rename_i rejected
      obtain ⟨-, change, decoded, -⟩ := informed.foreign frame (by simp)
      rw [rejected] at decoded
      cases decoded
    · rename_i change decoded
      cases stepped
      refine ⟨sound.own, ?_, sound.inbox, ?_⟩
      · intro other
        simp only [Function.update_apply]
        split
        · exact sound.alive client
        · exact sound.alive other
      · intro other otherConnected
        by_cases same : other = client
        · subst other
          simp only [Function.update_self]
          exact informed.deliver decoded
        · simpa [Function.update_apply, same]
            using sound.informed other otherConnected
  · cases stepped
  · cases stepped

private theorem Sound.apply
    {net next : Network}
    {client : Uuid}
    (sound : Sound codec png net)
    (connected : net.Connected client)
    (stepped : net.applyNext? client = some next) :
    Sound codec png next := by
  unfold applyNext? at stepped
  split at stepped
  · cases stepped
  · rename_i request rest queued
    cases stepped
    have informed := sound.informed client connected
    apply sound.setDesktop
    cases request with
    | clip frame change =>
        exact informed.applyClip queued
    | files paths =>
        exact informed.applyFiles queued

private theorem Sound.step
    {net next : Network}
    {action : NetworkAction}
    (base64 : ∀ bytes, codec.decode (codec.encode bytes) = .ok bytes)
    (lossless : png.Lossless)
    (sound : Sound codec png net)
    (stepped : step? codec png net action = some next) :
    Sound codec png next := by
  cases action with
  | copy client change =>
      simp only [step?] at stepped
      split at stepped
      · rename_i enabled
        cases stepped
        exact sound.setDesktop
          ((sound.informed client enabled.1).copy enabled.2)
      · cases stepped
  | poll client failures id ts =>
      simp only [step?] at stepped
      split at stepped
      · rename_i connected
        cases stepped
        exact sound.poll base64 lossless connected
      · cases stepped
  | submit client =>
      simp only [step?] at stepped
      split at stepped
      · rename_i connected
        exact sound.submit connected stepped
      · cases stepped
  | process =>
      exact sound.process stepped
  | deliver client =>
      simp only [step?] at stepped
      split at stepped
      · rename_i connected
        exact sound.deliver connected stepped
      · cases stepped
  | apply client =>
      simp only [step?] at stepped
      split at stepped
      · rename_i connected
        exact sound.apply connected stepped
      · cases stepped
  | receiveFiles client paths nonempty =>
      simp only [step?] at stepped
      split at stepped
      · rename_i connected
        cases stepped
        exact sound.setDesktop
          ((sound.informed client connected).receiveFiles nonempty)
      · cases stepped

private theorem sound_of_run
    {maxClients : Nat}
    {ids : List Uuid}
    {actions : List NetworkAction}
    {net : Network}
    (base64 : ∀ bytes, codec.decode (codec.encode bytes) = .ok bytes)
    (lossless : png.Lossless)
    (ran :
      StepRun.run? (step? codec png) (start maxClients ids) actions =
        some net) :
    Sound codec png net :=
  StepRun.run?_invariant
    (sound_start maxClients ids)
    (fun sound stepped => sound.step base64 lossless stepped)
    ran

/--
The client wrote a clip of another client after it had published the cached
one: the two publishes crossed.
-/
def Overtaken
    (net : Network)
    (client : Uuid)
    (last : ClipFrame) : Prop :=
  ∃ earlier later unstamped foreign,
    (net.desktop client).history =
        earlier ++ .published unstamped :: later ∧
      last = unstamped.stampedBy client ∧
      .applied foreign ∈ later ∧
      foreign.fromId ≠ some client

/--
The clipboard holds a list of files, or the last thing that happened to it is
a local copy that was not sent as a clip.
-/
def HoldsUnpublished (net : Network) (client : Uuid) : Prop :=
  ∃ change,
    (net.desktop client).clipboard = some change ∧
      ((∃ paths, change = .files paths) ∨
        (net.desktop client).history.getLast? = some (.copied change))

/--
In every quiescent state in which a clip has been published, every connected
client holds the content of the cached clip, unless it sent that clip itself
and then wrote a clip of another client, or its clipboard holds files or a
copy that was not sent as a clip.
-/
theorem agreement
    {maxClients : Nat}
    {ids : List Uuid}
    {actions : List NetworkAction}
    {net : Network}
    {last : ClipFrame}
    (base64 : ∀ bytes, codec.decode (codec.encode bytes) = .ok bytes)
    (lossless : png.Lossless)
    (ran :
      StepRun.run? (step? codec png) (start maxClients ids) actions =
        some net)
    (quiescent : net.Quiescent)
    (cached : net.hub.lastClip = some last)
    (client : Uuid)
    (connected : net.Connected client) :
    (∃ change,
        frameToChange codec png last = .ok change ∧
          (net.desktop client).clipboard = some change) ∨
      net.Overtaken client last ∨
      net.HoldsUnpublished client := by
  have informed :=
    (sound_of_run base64 lossless ran).informed client connected
  rcases quiescent with ⟨noInbox, idle⟩
  obtain ⟨noFrames, noMail, noRequests, -⟩ := idle client connected
  have requested : (net.desktop client).requested = [] := by
    simp [Desktop.requested, noRequests]
  rw [noInbox, noMail] at informed
  cases shape : (net.desktop client).history.getLast? with
  | none =>
      -- nothing happened here, so the clip would have been heard
      have nothing : (net.desktop client).history = [] :=
        List.getLast?_eq_none_iff.mp shape
      by_cases mine : last.fromId = some client
      · obtain ⟨unstamped, recorded, -⟩ := informed.sent last cached mine
        simp [nothing] at recorded
      · have heard := informed.latest last cached mine
        simp [Desktop.written, nothing, requested] at heard
  | some event =>
      cases event with
      | copied change =>
          exact .inr (.inr
            ⟨change, informed.kept.1 change shape, .inr shape⟩)
      | appliedFiles paths =>
          exact .inr (.inr
            ⟨_, informed.kept.2 paths shape, .inl ⟨paths, rfl⟩⟩)
      | published clip =>
          obtain ⟨change, carried, holds⟩ :=
            informed.content _ clip shape rfl
          rcases informed.pending clip shape with
            onTheWay | ⟨-, isCached | queued⟩
          · simp [noFrames] at onTheWay
          · rw [cached, Option.some.injEq] at isCached
            subst last
            exact .inl ⟨change, carried, holds⟩
          · simp [requested] at queued
      | applied clip =>
          obtain ⟨change, carried, holds⟩ :=
            informed.content _ clip shape rfl
          obtain ⟨before, history⟩ := List.getLast?_eq_some_iff.mp shape
          by_cases mine : last.fromId = some client
          · right
            left
            obtain ⟨unstamped, recorded, stamped⟩ :=
              informed.sent last cached mine
            have inBefore :
                DeskEvent.published unstamped ∈ before := by
              rw [history] at recorded
              simpa using recorded
            obtain ⟨earlier, later, split⟩ := List.append_of_mem inBefore
            have heard :
                clip ∈ (net.desktop client).written ++
                  (net.desktop client).requested ++ [] := by
              simp [Desktop.written, history, DeskEvent.applied?]
            refine ⟨earlier, later ++ [.applied clip], unstamped, clip,
              ?_, stamped, ?_, (informed.foreign clip heard).1⟩
            · rw [history, split, List.append_assoc, List.cons_append]
            · exact List.mem_append_right _ (List.mem_singleton_self _)
          · have heard := informed.latest last cached mine
            simp only [Desktop.written, history, requested,
              List.filterMap_append, List.append_nil] at heard
            have isLast : clip = last := by
              simpa [DeskEvent.applied?] using heard
            subst last
            exact .inl ⟨change, carried, holds⟩

/-- Two clients copy a text each before either sees the other's. -/
def crossingRun : List NetworkAction :=
  let readable : ReadFailures := ⟨false, false, false⟩
  [.copy ⟨1⟩ (.text "a"), .copy ⟨2⟩ (.text "b"),
    .poll ⟨1⟩ readable ⟨11⟩ 1, .poll ⟨2⟩ readable ⟨12⟩ 2,
    .submit ⟨1⟩, .submit ⟨2⟩, .process, .process,
    .deliver ⟨1⟩, .deliver ⟨2⟩, .apply ⟨1⟩, .apply ⟨2⟩]

/-- The steps of a network with the sample codecs. -/
abbrev sampleStep? : Network → NetworkAction → Option Network :=
  step? ReceiverState.sampleCodec samplePng

/-- The two clients after both texts have been delivered. -/
def crossed : Network :=
  (StepRun.run? sampleStep? (start 8 [⟨1⟩, ⟨2⟩]) crossingRun).getD
    (start 8 [⟨1⟩, ⟨2⟩])

/-- The second text, as the hub caches it. -/
def crossedClip : ClipFrame :=
  (ClipFrame.text ⟨12⟩ 2 "b").stampedBy ⟨2⟩

/-- The client that did not send the cached text holds it. -/
theorem agreement_sample :
    (∃ change,
        frameToChange ReceiverState.sampleCodec samplePng crossedClip =
            .ok change ∧
          (crossed.desktop ⟨1⟩).clipboard = some change) ∨
      crossed.Overtaken ⟨1⟩ crossedClip ∨
      crossed.HoldsUnpublished ⟨1⟩ :=
  agreement
    ReceiverState.lawful_sampleCodec.decode_encode
    lossless_samplePng
    (show
      StepRun.run? sampleStep? (start 8 [⟨1⟩, ⟨2⟩]) crossingRun =
        some crossed from rfl)
    (by decide +kernel)
    rfl
    ⟨1⟩
    (by decide +kernel)

/-- The clients end with each other's text, and the cached clip is one. -/
theorem crossing_copies_disagree :
    StepRun.run? sampleStep? (start 8 [⟨1⟩, ⟨2⟩]) crossingRun =
        some crossed ∧
      crossed.Quiescent ∧
      crossed.Connected ⟨1⟩ ∧
      crossed.Connected ⟨2⟩ ∧
      crossed.hub.lastClip = some crossedClip ∧
      frameToChange ReceiverState.sampleCodec samplePng crossedClip =
        .ok (.text "b") ∧
      (crossed.desktop ⟨1⟩).clipboard = some (.text "b") ∧
      (crossed.desktop ⟨2⟩).clipboard = some (.text "a") :=
  ⟨rfl, by decide +kernel, by decide +kernel, by decide +kernel, rfl, rfl,
    rfl, rfl⟩

end Network

end ClipboardWire
