import ClipboardWire.HubRelay

namespace ClipboardWire

open BoundedChannel

/-!
# What one step of the relay does to one connection

The frame lemmas say that a step on behalf of one connection leaves every
other connection alone.  The invariant collects what holds of every
connection whatever the schedule.  The main result, `step?_handed`, describes
how the clips and chunks handed to a live connection grow in one step; the
end-to-end theorems about fan-out are inductions over it.
-/

namespace Hub

private theorem OwnChannels.clip
    {hub : Hub}
    (own : hub.OwnChannels) :
    ∀ entry ∈ hub.clients.entries, entry.2.clip = entry.1 := by
  intro entry member
  rw [own entry member]

private theorem OwnChannels.file
    {hub : Hub}
    (own : hub.OwnChannels) :
    ∀ entry ∈ hub.clients.entries, entry.2.file = entry.1 := by
  intro entry member
  rw [own entry member]

/-- Removing a client keeps the others on their own channels. -/
theorem OwnChannels.erase
    {hub : Hub}
    (own : hub.OwnChannels)
    (id : Uuid) :
    ∀ entry ∈ (hub.clients.erase id).entries,
      entry.2 = ⟨entry.1, entry.1⟩ := by
  intro entry member
  exact own entry ((List.kerase_sublist id hub.clients.entries).subset member)

/-- Registering a client with its own channels keeps the property. -/
theorem OwnChannels.insert
    {hub : Hub}
    (own : hub.OwnChannels)
    (id : Uuid) :
    ∀ entry ∈ (hub.clients.insert id ⟨id, id⟩).entries,
      entry.2 = ⟨entry.1, entry.1⟩ := by
  intro entry member
  rw [AList.entries_insert, List.mem_cons] at member
  rcases member with isNew | isOld
  · subst entry
    rfl
  · exact own.erase id entry isOld

/-- The channels that the hub looks up for a client are its own. -/
theorem OwnChannels.lookup
    {hub : Hub}
    (own : hub.OwnChannels)
    {id : Uuid}
    {channels : ClientChannels}
    (found : hub.clients.lookup id = some channels) :
    channels = ⟨id, id⟩ := by
  have member : (⟨id, channels⟩ : Sigma fun _ : Uuid => ClientChannels) ∈
      hub.clients.entries :=
    AList.mem_lookup_iff.mp found
  exact own _ member

/-- A published clip is offered to every registered peer but its sender. -/
theorem handle_publish_clip
    {hub : Hub}
    (own : hub.OwnChannels)
    (mail : Mailboxes)
    (sender peer : Uuid)
    (clip : ClipFrame) :
    (hub.handle mail (.publish sender clip)).mail.clip peer =
      if hub.Registered peer ∧ peer ≠ sender then
        (mail.clip peer).offer { clip with fromId := some sender }
      else
        mail.clip peer := by
  simp [handle, fanOut_eq own.clip]

/-- A published chunk is offered to every registered peer but its sender. -/
theorem handle_publishFile_file
    {hub : Hub}
    (own : hub.OwnChannels)
    (mail : Mailboxes)
    (sender peer : Uuid)
    (chunk : FileChunkFrame) :
    (hub.handle mail (.publishFile sender chunk)).mail.file peer =
      if hub.Registered peer ∧ peer ≠ sender then
        (mail.file peer).offer { chunk with fromId := some sender }
      else
        mail.file peer := by
  simp [handle, fanOut_eq own.file]

/-- Deregistration removes exactly the named client. -/
theorem registered_deregister
    {hub : Hub}
    {mail : Mailboxes}
    {id peer : Uuid} :
    (hub.handle mail (.deregister id)).hub.Registered peer ↔
      peer ≠ id ∧ hub.Registered peer := by
  simp only [handle]
  cases found : hub.clients.lookup id with
  | some channels =>
      exact AList.mem_erase (s := hub.clients)
  | none =>
      have absent : ¬ hub.Registered id :=
        AList.lookup_eq_none.mp found
      constructor
      · intro registered
        exact ⟨fun same => absent (same ▸ registered), registered⟩
      · exact And.right

/-- Deregistration only touches the channels of the named client. -/
theorem mail_deregister_other
    {hub : Hub}
    (own : hub.OwnChannels)
    (mail : Mailboxes)
    {id peer : Uuid}
    (different : peer ≠ id) :
    (hub.handle mail (.deregister id)).mail.clip peer = mail.clip peer ∧
      (hub.handle mail (.deregister id)).mail.file peer =
        mail.file peer := by
  simp only [handle]
  cases found : hub.clients.lookup id with
  | some channels =>
      rw [own.lookup found]
      simp [Mailboxes.dropSenders, different]
  | none =>
      exact ⟨rfl, rfl⟩

/-- Handling a message never closes the receiving end of a channel. -/
theorem receiverAlive_handle
    {hub : Hub}
    (own : hub.OwnChannels)
    (mail : Mailboxes)
    (message : HubMessage)
    (channel : ChannelId) :
    ((hub.handle mail message).mail.clip channel).receiverAlive =
        (mail.clip channel).receiverAlive ∧
      ((hub.handle mail message).mail.file channel).receiverAlive =
        (mail.file channel).receiverAlive := by
  have dropped (channels : ClientChannels) :
      ((mail.dropSenders channels).clip channel).receiverAlive =
          (mail.clip channel).receiverAlive ∧
        ((mail.dropSenders channels).file channel).receiverAlive =
          (mail.file channel).receiverAlive := by
    simp only [Mailboxes.dropSenders, Function.update_apply]
    constructor <;> split <;> simp_all
  cases message with
  | register id outbound fileOutbound =>
      simp only [handle]
      split
      · exact dropped _
      · cases hub.clients.lookup id with
        | some replaced =>
            exact dropped replaced
        | none =>
            exact ⟨rfl, rfl⟩
  | deregister id =>
      simp only [handle]
      cases hub.clients.lookup id with
      | some removed =>
          exact dropped removed
      | none =>
          exact ⟨rfl, rfl⟩
  | publish sender clip =>
      rw [handle_publish_clip own]
      refine ⟨?_, rfl⟩
      split <;> simp
  | publishFile sender chunk =>
      rw [handle_publishFile_file own]
      refine ⟨rfl, ?_⟩
      split <;> simp

/-- Handling a message keeps every client on its own channels. -/
theorem ownChannels_handle
    {hub : Hub}
    (own : hub.OwnChannels)
    (mail : Mailboxes)
    {message : HubMessage}
    (ownMessage :
      ∀ id outbound fileOutbound,
        message = .register id outbound fileOutbound →
        outbound = id ∧ fileOutbound = id) :
    (hub.handle mail message).hub.OwnChannels := by
  cases message with
  | register id outbound fileOutbound =>
      obtain ⟨rfl, rfl⟩ := ownMessage _ _ _ rfl
      simp only [handle]
      split
      · exact own
      · exact own.insert _
  | deregister id =>
      simp only [handle]
      cases hub.clients.lookup id with
      | some removed =>
          exact own.erase id
      | none =>
          exact own
  | publish sender clip =>
      exact own
  | publishFile sender chunk =>
      exact own

/-- A registration accepts nobody but the named client. -/
theorem registered_register
    {hub : Hub}
    {mail : Mailboxes}
    {id peer : Uuid}
    (different : peer ≠ id) :
    (hub.handle mail (.register id id id)).hub.Registered peer ↔
      hub.Registered peer := by
  simp only [handle]
  split
  · rfl
  · simp [Registered, different]

/-- A registration only touches the channels of the named client. -/
theorem mail_register_other
    {hub : Hub}
    (own : hub.OwnChannels)
    (mail : Mailboxes)
    {id peer : Uuid}
    (different : peer ≠ id) :
    (hub.handle mail (.register id id id)).mail.clip peer =
        mail.clip peer ∧
      (hub.handle mail (.register id id id)).mail.file peer =
        mail.file peer := by
  simp only [handle]
  split
  · simp [Mailboxes.dropSenders, different]
  · cases found : hub.clients.lookup id with
    | some channels =>
        rw [own.lookup found]
        simp [Mailboxes.dropSenders, different]
    | none =>
        exact ⟨rfl, rfl⟩

end Hub

/--
Everything a step of the relay can do, one constructor for each branch of the
step function.
-/
inductive RelayStep (relay : Relay) : RelayAction → Relay → Prop where
  | register {id : Uuid}
      (fresh : relay.connections id = none) :
      RelayStep relay (.process (.register id id id))
        (relay.registerConnection id)
  | deregister {id : Uuid} :
      RelayStep relay (.process (.deregister id))
        (relay.handleMessage (.deregister id))
  | publish {sender : Uuid} {clip : ClipFrame} :
      RelayStep relay (.process (.publish sender clip))
        (relay.handleMessage (.publish sender clip))
  | publishFile {sender : Uuid} {chunk : FileChunkFrame} :
      RelayStep relay (.process (.publishFile sender chunk))
        (relay.handleMessage (.publishFile sender chunk))
  | welcome {id : Uuid} {connection : Connection}
      {lastClip : Option ClipFrame}
      (known : relay.connections id = some connection)
      (notStarted : connection.writer = .notStarted)
      (accepted : connection.ack = .accepted lastClip) :
      RelayStep relay (.welcome id)
        (relay.setConnection id
          { connection with
            internal :=
              connection.internal.offer (Relay.welcomeFrame id lastClip)
            writer := .running })
  | reject {id : Uuid} {connection : Connection}
      {error : ErrorFrame} {internal : Channel Frame}
      (known : relay.connections id = some connection)
      (running : connection.writer = .running)
      (sent : connection.internal.trySend (.error error) = .ok internal) :
      RelayStep relay (.reject id error)
        (relay.setConnection id { connection with internal := internal })
  | write {id : Uuid} {connection : Connection}
      {frame : Frame} {internal : Channel Frame}
      {clips : Channel ClipFrame} {files : Channel FileChunkFrame}
      (known : relay.connections id = some connection)
      (running : connection.writer = .running)
      (turn :
        writerTurn connection.internal
            (relay.mail.clip id) (relay.mail.file id) =
          .frame frame internal clips files) :
      RelayStep relay (.write id)
        ((relay.setConnection id
          { connection with
            internal := internal
            sent := connection.sent ++ [frame] }).setChannels
          id clips files)
  | idle {id : Uuid} :
      RelayStep relay (.write id) relay
  /-- The writer ends, after sending an error frame or without sending. -/
  | exit {action : RelayAction} {id : Uuid} {middle : Relay}
      {before connection : Connection}
      (hub : middle.hub = relay.hub)
      (others :
        ∀ other, other ≠ id →
          middle.connections other = relay.connections other ∧
            middle.mail.clip other = relay.mail.clip other ∧
            middle.mail.file other = relay.mail.file other)
      (known : relay.connections id = some before)
      (ack : connection.ack = before.ack)
      (sent :
        connection.sent = before.sent ∨
          ∃ frame,
            before.writer = .running ∧
              before.internal.buffer.head? = some frame ∧
              connection.sent = before.sent ++ [frame])
      (notHub : ∀ message, action ≠ .process message) :
      RelayStep relay action (middle.exitWriter id connection)

/-- Where the frame of a writer turn was taken from. -/
inductive TurnTakes
    (internal : Channel Frame)
    (clips : Channel ClipFrame)
    (files : Channel FileChunkFrame) :
    Frame → Channel Frame → Channel ClipFrame →
      Channel FileChunkFrame → Prop where
  | control {frame : Frame}
      (head : internal.buffer = frame :: internal.dropHead.buffer) :
      TurnTakes internal clips files
        frame internal.dropHead clips files
  | clip {clip : ClipFrame}
      (noControl : internal.buffer = [])
      (head : clips.buffer = clip :: clips.dropHead.buffer) :
      TurnTakes internal clips files
        (.clip clip) internal clips.dropHead files
  | file {chunk : FileChunkFrame}
      (noControl : internal.buffer = [])
      (noClip : clips.buffer = [])
      (head : files.buffer = chunk :: files.dropHead.buffer) :
      TurnTakes internal clips files
        (.fileChunk chunk) internal clips files.dropHead

/-- A writer turn takes the head of the first nonempty source. -/
theorem turnTakes_of_writerTurn
    {internal restInternal : Channel Frame}
    {clips restClips : Channel ClipFrame}
    {files restFiles : Channel FileChunkFrame}
    {frame : Frame}
    (turn :
      writerTurn internal clips files =
        .frame frame restInternal restClips restFiles) :
    TurnTakes internal clips files
      frame restInternal restClips restFiles := by
  unfold writerTurn at turn
  cases control : internal.pollRecv with
  | received first rest =>
      simp only [control, WriterTurn.frame.injEq] at turn
      rcases turn with ⟨rfl, rfl, rfl, rfl⟩
      obtain ⟨head, rfl⟩ :=
        Channel.pollRecv_eq_received.mp control
      exact .control head
  | disconnected =>
      simp [control] at turn
  | pending =>
      have noControl := (Channel.pollRecv_eq_pending.mp control).1
      simp only [control] at turn
      cases polledClip : clips.pollRecv with
      | received clip rest =>
          simp only [polledClip, WriterTurn.frame.injEq] at turn
          rcases turn with ⟨rfl, rfl, rfl, rfl⟩
          obtain ⟨head, rfl⟩ :=
            Channel.pollRecv_eq_received.mp polledClip
          exact .clip noControl head
      | disconnected =>
          simp [polledClip] at turn
      | pending =>
          have noClip := (Channel.pollRecv_eq_pending.mp polledClip).1
          simp only [polledClip] at turn
          cases polledFile : files.pollRecv with
          | received chunk rest =>
              simp only [polledFile, WriterTurn.frame.injEq] at turn
              rcases turn with ⟨rfl, rfl, rfl, rfl⟩
              obtain ⟨head, rfl⟩ :=
                Channel.pollRecv_eq_received.mp polledFile
              exact .file noControl noClip head
          | disconnected =>
              simp [polledFile] at turn
          | pending =>
              simp [polledFile] at turn

namespace Relay

/-- Replacing a connection changes no other connection. -/
theorem setConnection_other
    (relay : Relay)
    {id other : Uuid}
    (connection : Connection)
    (different : other ≠ id) :
    (relay.setConnection id connection).connections other =
      relay.connections other := by
  simp [setConnection, different]

@[simp] theorem setConnection_same
    (relay : Relay)
    (id : Uuid)
    (connection : Connection) :
    (relay.setConnection id connection).connections id =
      some connection := by
  simp [setConnection]

private theorem relayStep_of_process
    {relay next : Relay}
    {message : HubMessage}
    (stepped : relay.step? (.process message) = some next) :
    RelayStep relay (.process message) next := by
  cases message with
  | register id outbound fileOutbound =>
      simp only [step?] at stepped
      split at stepped
      · rename_i guard
        rcases guard with ⟨fresh, rfl, rfl⟩
        cases stepped
        exact .register (Option.isNone_iff_eq_none.mp fresh)
      · cases stepped
  | deregister id =>
      cases stepped
      exact .deregister
  | publish sender clip =>
      cases stepped
      exact .publish
  | publishFile sender chunk =>
      cases stepped
      exact .publishFile

private theorem relayStep_of_welcome
    {relay next : Relay}
    {id : Uuid}
    (stepped : relay.step? (.welcome id) = some next) :
    RelayStep relay (.welcome id) next := by
  simp only [step?] at stepped
  cases known : relay.connections id with
  | none =>
      simp [known] at stepped
  | some connection =>
      cases notStarted : connection.writer <;>
        cases acked : connection.ack <;>
          simp only [known, notStarted, acked, Option.some.injEq,
            reduceCtorEq] at stepped
      · subst next
        have step := RelayStep.welcome known notStarted acked
        rwa [acked] at step
      · subst next
        exact .exit rfl (fun _ _ => ⟨rfl, rfl, rfl⟩)
          known rfl (.inl rfl) (by simp)

private theorem relayStep_of_reject
    {relay next : Relay}
    {id : Uuid}
    {error : ErrorFrame}
    (stepped : relay.step? (.reject id error) = some next) :
    RelayStep relay (.reject id error) next := by
  simp only [step?] at stepped
  cases known : relay.connections id with
  | none =>
      simp [known] at stepped
  | some connection =>
      cases running : connection.writer <;>
        cases sent : connection.internal.trySend (.error error) <;>
          simp only [known, running, sent, Option.some.injEq,
            reduceCtorEq] at stepped
      subst next
      have step := RelayStep.reject known running sent
      rwa [running] at step

/-- A turn is one of a writer that runs. -/
theorem running_of_write
    {relay next : Relay}
    {id : Uuid}
    (stepped : relay.step? (.write id) = some next) :
    ∃ connection,
      relay.connections id = some connection ∧
        connection.writer = .running := by
  simp only [step?] at stepped
  cases known : relay.connections id with
  | none =>
      simp [known] at stepped
  | some connection =>
      simp only [known] at stepped
      split at stepped
      · rename_i running
        exact ⟨connection, rfl, running⟩
      · cases stepped

private theorem relayStep_of_write
    {relay next : Relay}
    {id : Uuid}
    (stepped : relay.step? (.write id) = some next) :
    RelayStep relay (.write id) next := by
  obtain ⟨connection, known, running⟩ := running_of_write stepped
  simp only [step?, known, if_pos running] at stepped
  cases turn :
      writerTurn connection.internal
        (relay.mail.clip id) (relay.mail.file id) with
  | frame frame internal clips files =>
      simp only [turn] at stepped
      split at stepped
      · rename_i isError
        cases stepped
        refine .exit rfl ?_ known rfl (.inr ?_) (by simp)
        · intro other different
          simp [setChannels, setConnection, different]
        · cases turnTakes_of_writerTurn turn with
          | control head =>
              exact ⟨frame, running, by rw [head]; rfl, rfl⟩
          | clip noControl head =>
              cases isError
          | file noControl noClip head =>
              cases isError
      · cases stepped
        exact .write known running turn
  | exit =>
      simp only [turn, Option.some.injEq] at stepped
      subst next
      exact .exit rfl (fun _ _ => ⟨rfl, rfl, rfl⟩)
        known rfl (.inl rfl) (by simp)
  | idle =>
      simp only [turn, Option.some.injEq] at stepped
      subst next
      exact .idle

private theorem relayStep_of_writeFails
    {relay next : Relay}
    {id : Uuid}
    (stepped : relay.step? (.writeFails id) = some next) :
    RelayStep relay (.writeFails id) next := by
  simp only [step?] at stepped
  cases known : relay.connections id with
  | none =>
      simp [known] at stepped
  | some connection =>
      simp only [known] at stepped
      split at stepped
      · cases stepped
        exact .exit rfl (fun _ _ => ⟨rfl, rfl, rfl⟩)
          known rfl (.inl rfl) (by simp)
      · cases stepped

/-- The step function does nothing that is not a `RelayStep`. -/
theorem relayStep_of_step?
    {relay next : Relay}
    {action : RelayAction}
    (stepped : relay.step? action = some next) :
    RelayStep relay action next := by
  cases action with
  | process message =>
      exact relayStep_of_process stepped
  | welcome id =>
      exact relayStep_of_welcome stepped
  | reject id error =>
      exact relayStep_of_reject stepped
  | write id =>
      exact relayStep_of_write stepped
  | writeFails id =>
      exact relayStep_of_writeFails stepped

/-- What holds of every connection in every reachable state. -/
structure Invariant (relay : Relay) : Prop where
  own :
    relay.hub.OwnChannels
  known :
    ∀ {id}, relay.hub.Registered id → (relay.connections id).isSome
  fresh :
    ∀ {id connection},
      relay.connections id = some connection →
      connection.writer = .notStarted →
      connection.sent = [] ∧
        connection.internal = Channel.withCapacity internalBuf
  control :
    ∀ {id connection},
      relay.connections id = some connection →
      ∀ frame ∈ connection.internal.buffer,
        frame.clip? = none ∧ frame.fileChunk? = none
  alive :
    ∀ {id connection},
      relay.connections id = some connection →
      connection.writer ≠ .exited →
      (relay.mail.clip id).receiverAlive = true ∧
        (relay.mail.file id).receiverAlive = true

theorem invariant_start
    (maxClients : Nat)
    (stats : Option UInt64) :
    (start maxClients stats).Invariant where
  own := by
    intro entry member
    simp [start, Hub.new] at member
  known := by
    intro id registered
    simp [start, Hub.new, Hub.Registered] at registered
  fresh := by
    intro id connection known
    cases known
  control := by
    intro id connection known
    cases known
  alive := by
    intro id connection known
    cases known

private theorem Invariant.handleMessage
    {relay : Relay}
    (invariant : relay.Invariant)
    {message : HubMessage}
    (registersNobody :
      ∀ id outbound fileOutbound,
        message ≠ .register id outbound fileOutbound)
    (stillRegistered :
      ∀ {id},
        (relay.hub.handle relay.mail message).hub.Registered id →
        relay.hub.Registered id) :
    (relay.handleMessage message).Invariant where
  own :=
    Hub.ownChannels_handle invariant.own relay.mail
      (fun _ _ _ same => (registersNobody _ _ _ same).elim)
  known registered :=
    invariant.known (stillRegistered registered)
  fresh :=
    invariant.fresh
  control :=
    invariant.control
  alive := by
    intro id connection known running
    have before := invariant.alive known running
    have unchanged :=
      Hub.receiverAlive_handle invariant.own relay.mail message id
    exact ⟨unchanged.1.trans before.1, unchanged.2.trans before.2⟩

private theorem Invariant.setConnection
    {relay : Relay}
    (invariant : relay.Invariant)
    {id : Uuid}
    {connection : Connection}
    (started : connection.writer ≠ .notStarted)
    (control :
      ∀ frame ∈ connection.internal.buffer,
        frame.clip? = none ∧ frame.fileChunk? = none)
    (alive :
      connection.writer ≠ .exited →
        (relay.mail.clip id).receiverAlive = true ∧
          (relay.mail.file id).receiverAlive = true) :
    (relay.setConnection id connection).Invariant where
  own :=
    invariant.own
  known := by
    intro other registered
    by_cases same : other = id
    · subst other
      simp
    · rw [relay.setConnection_other connection same]
      exact invariant.known registered
  fresh := by
    intro other found known notStarted
    by_cases same : other = id
    · subst other
      rw [setConnection_same, Option.some.injEq] at known
      subst found
      exact (started notStarted).elim
    · rw [relay.setConnection_other connection same] at known
      exact invariant.fresh known notStarted
  control := by
    intro other found known
    by_cases same : other = id
    · subst other
      rw [setConnection_same, Option.some.injEq] at known
      subst found
      exact control
    · rw [relay.setConnection_other connection same] at known
      exact invariant.control known
  alive := by
    intro other found known running
    by_cases same : other = id
    · subst other
      rw [setConnection_same, Option.some.injEq] at known
      subst found
      exact alive running
    · rw [relay.setConnection_other connection same] at known
      exact invariant.alive known running

private theorem Invariant.exitWriter
    {relay middle : Relay}
    (invariant : relay.Invariant)
    {id : Uuid}
    (hub : middle.hub = relay.hub)
    (others :
      ∀ other, other ≠ id →
        middle.connections other = relay.connections other ∧
          middle.mail.clip other = relay.mail.clip other ∧
          middle.mail.file other = relay.mail.file other)
    (connection : Connection) :
    (middle.exitWriter id connection).Invariant := by
  have lookup (other : Uuid) (different : other ≠ id) :
      (middle.exitWriter id connection).connections other =
        relay.connections other := by
    simp [Relay.exitWriter, setChannels, Relay.setConnection, different,
      (others other different).1]
  have exited :
      (middle.exitWriter id connection).connections id =
        some
          { connection with
            internal := connection.internal.dropReceiver
            writer := .exited } := by
    simp [Relay.exitWriter, setChannels, Relay.setConnection]
  constructor
  · intro entry member
    have sameHub : (middle.exitWriter id connection).hub = relay.hub := hub
    rw [sameHub] at member
    exact invariant.own entry member
  · intro other registered
    have sameHub : (middle.exitWriter id connection).hub = relay.hub := hub
    rw [sameHub] at registered
    by_cases same : other = id
    · subst other
      simp [exited]
    · rw [lookup other same]
      exact invariant.known registered
  · intro other found known notStarted
    by_cases same : other = id
    · subst other
      rw [exited, Option.some.injEq] at known
      subst found
      cases notStarted
    · rw [lookup other same] at known
      exact invariant.fresh known notStarted
  · intro other found known
    by_cases same : other = id
    · subst other
      rw [exited, Option.some.injEq] at known
      subst found
      simp
    · rw [lookup other same] at known
      exact invariant.control known
  · intro other found known running
    by_cases same : other = id
    · subst other
      rw [exited, Option.some.injEq] at known
      subst found
      exact (running rfl).elim
    · rw [lookup other same] at known
      have unchanged := others other same
      simpa [Relay.exitWriter, setChannels, Relay.setConnection, same,
        unchanged.2.1, unchanged.2.2] using
        invariant.alive known running

private theorem Invariant.setChannels
    {relay : Relay}
    (invariant : relay.Invariant)
    {id : Uuid}
    {clips : Channel ClipFrame}
    {files : Channel FileChunkFrame}
    (clipsAlive : clips.receiverAlive = true)
    (filesAlive : files.receiverAlive = true) :
    (relay.setChannels id clips files).Invariant where
  own :=
    invariant.own
  known :=
    invariant.known
  fresh :=
    invariant.fresh
  control :=
    invariant.control
  alive := by
    intro other connection known running
    by_cases same : other = id
    · subst other
      simp [Relay.setChannels, clipsAlive, filesAlive]
    · simpa [Relay.setChannels, same] using
        invariant.alive known running

private theorem Invariant.registerConnection
    {relay : Relay}
    (invariant : relay.Invariant)
    {id : Uuid} :
    (relay.registerConnection id).Invariant := by
  have opened :
      (relay.setChannels id
        (Channel.withCapacity perClientChannelBuf)
        (Channel.withCapacity perClientFileChannelBuf)).Invariant :=
    invariant.setChannels rfl rfl
  constructor
  · exact Hub.ownChannels_handle opened.own _ (by
      intro other outbound fileOutbound same
      cases same
      exact ⟨rfl, rfl⟩)
  · intro other registered
    by_cases same : other = id
    · subst other
      simp [Relay.registerConnection]
    · have before :=
        (Hub.registered_register same).mp registered
      simpa [Relay.registerConnection, same] using
        invariant.known before
  · intro other connection known notStarted
    by_cases same : other = id
    · subst other
      simp only [Relay.registerConnection, Function.update_self,
        Option.some.injEq] at known
      subst connection
      exact ⟨rfl, rfl⟩
    · simp only [Relay.registerConnection, ne_eq, same,
        not_false_eq_true, Function.update_of_ne] at known
      exact invariant.fresh known notStarted
  · intro other connection known
    by_cases same : other = id
    · subst other
      simp only [Relay.registerConnection, Function.update_self,
        Option.some.injEq] at known
      subst connection
      simp
    · simp only [Relay.registerConnection, ne_eq, same,
        not_false_eq_true, Function.update_of_ne] at known
      exact invariant.control known
  · intro other connection known running
    have unchanged :=
      Hub.receiverAlive_handle opened.own
        (relay.setChannels id
          (Channel.withCapacity perClientChannelBuf)
          (Channel.withCapacity perClientFileChannelBuf)).mail
        (.register id id id) other
    refine
      ⟨unchanged.1.trans ?_, unchanged.2.trans ?_⟩
    all_goals
      by_cases same : other = id
      · subst other
        simp [Relay.setChannels]
      · simp only [Relay.registerConnection, ne_eq, same,
          not_false_eq_true, Function.update_of_ne] at known
        have before := invariant.alive known running
        simp [Relay.setChannels, same, before.1, before.2]

theorem Invariant.step
    {relay next : Relay}
    {action : RelayAction}
    (invariant : relay.Invariant)
    (stepped : relay.step? action = some next) :
    next.Invariant := by
  cases relayStep_of_step? stepped with
  | register fresh =>
      exact invariant.registerConnection
  | deregister =>
      exact invariant.handleMessage (by simp)
        (fun registered => (Hub.registered_deregister.mp registered).2)
  | publish =>
      exact invariant.handleMessage (by simp) id
  | publishFile =>
      exact invariant.handleMessage (by simp) id
  | @welcome id connection lastClip known notStarted accepted =>
      have initial := (invariant.fresh known notStarted).2
      refine invariant.setConnection (by simp) ?_ ?_
      · intro frame member
        rw [initial, Channel.buffer_offer_of_room _ rfl (by decide)] at member
        simp only [Channel.buffer_withCapacity, List.nil_append,
          List.mem_singleton] at member
        subst frame
        exact ⟨rfl, rfl⟩
      · intro _
        exact invariant.alive known (by simp [notStarted])
  | @reject id connection error internal known running sent =>
      obtain ⟨room, -, rfl⟩ := Channel.trySend_eq_ok.mp sent
      refine invariant.setConnection (by simp [running]) ?_ ?_
      · intro frame member
        rw [Channel.buffer_push, List.mem_append] at member
        rcases member with isOld | isNew
        · exact invariant.control known frame isOld
        · rw [List.mem_singleton] at isNew
          subst frame
          exact ⟨rfl, rfl⟩
      · intro _
        exact invariant.alive known (by simp [running])
  | @write id connection frame internal clips files known running turn =>
      have control := invariant.control known
      have alive := invariant.alive known (by simp [running])
      cases turnTakes_of_writerTurn turn with
      | control head =>
          refine
            (invariant.setConnection (by simp [running]) ?_
              (fun _ => alive)).setChannels alive.1 alive.2
          intro other member
          exact control other (List.mem_of_mem_tail member)
      | clip noControl head =>
          refine
            (invariant.setConnection ?_ ?_
              (fun _ => alive)).setChannels ?_ alive.2
          · simp [running]
          · exact control
          · exact alive.1
      | file noControl noClip head =>
          refine
            (invariant.setConnection ?_ ?_
              (fun _ => alive)).setChannels alive.1 ?_
          · simp [running]
          · exact control
          · exact alive.2
  | idle =>
      exact invariant
  | exit hub others known ack sent notHub =>
      exact invariant.exitWriter hub others _

theorem invariant_of_run
    {maxClients : Nat}
    {stats : Option UInt64}
    {actions : List RelayAction}
    {relay : Relay}
    (ran :
      StepRun.run? step? (start maxClients stats) actions = some relay) :
    relay.Invariant :=
  StepRun.run?_invariant
    (invariant_start maxClients stats)
    (fun invariant stepped => invariant.step stepped)
    ran

end Relay

end ClipboardWire
