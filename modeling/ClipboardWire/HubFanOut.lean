import ClipboardWire.HubRelayInvariant

namespace ClipboardWire

open BoundedChannel

/-!
# Exact fan-out with a gap-free join

What a live connection has been handed (sent by its writer, or still in its
channel) grows in one step by the published frame of another client if there
is room for it, and by nothing otherwise.  By induction over the run, a client
whose channels never fill up is handed exactly what the other clients publish
after its registration, and its welcome carries the last clip published
before.
-/

namespace Relay

/-- The connection is registered and its writer has not ended. -/
def Live (relay : Relay) (id : Uuid) : Prop :=
  relay.hub.Registered id ∧
    ∃ connection,
      relay.connections id = some connection ∧
        connection.writer ≠ .exited

/-- The frames that the writer of a connection has sent so far. -/
def sentFrames (relay : Relay) (id : Uuid) : List Frame :=
  match relay.connections id with
  | some connection => connection.sent
  | none => []

/-- Clips handed to a connection: those sent, then those still queued. -/
def handedClips (relay : Relay) (id : Uuid) : List ClipFrame :=
  (relay.sentFrames id).filterMap Frame.clip? ++
    (relay.mail.clip id).buffer

/-- Chunks handed to a connection: those sent, then those still queued. -/
def handedFiles (relay : Relay) (id : Uuid) : List FileChunkFrame :=
  (relay.sentFrames id).filterMap Frame.fileChunk? ++
    (relay.mail.file id).buffer

end Relay

namespace RelayAction

/-- The stamped clip that a client should get from an action. -/
def clipFor (id : Uuid) : RelayAction → Option ClipFrame
  | .process (.publish sender clip) =>
      if sender = id then
        none
      else
        some { clip with fromId := some sender }
  | _ =>
      none

/-- The stamped chunk that a client should get from an action. -/
def chunkFor (id : Uuid) : RelayAction → Option FileChunkFrame
  | .process (.publishFile sender chunk) =>
      if sender = id then
        none
      else
        some { chunk with fromId := some sender }
  | _ =>
      none

/-- The stamped clip that an action publishes. -/
def published? : RelayAction → Option ClipFrame
  | .process (.publish sender clip) =>
      some { clip with fromId := some sender }
  | _ =>
      none

end RelayAction

namespace Relay

/-- What one action adds to the clips handed to a connection. -/
def clipsAdded
    (relay : Relay)
    (id : Uuid)
    (action : RelayAction) :
    List ClipFrame :=
  if (relay.mail.clip id).HasRoom then
    (action.clipFor id).toList
  else
    []

/-- What one action adds to the chunks handed to a connection. -/
def chunksAdded
    (relay : Relay)
    (id : Uuid)
    (action : RelayAction) :
    List FileChunkFrame :=
  if (relay.mail.file id).HasRoom then
    (action.chunkFor id).toList
  else
    []

/-- An action other than a publish adds nothing. -/
private theorem clipsAdded_of_none
    {relay : Relay}
    {id : Uuid}
    {action : RelayAction}
    (nothing : action.clipFor id = none) :
    relay.clipsAdded id action = [] := by
  simp [clipsAdded, nothing]

/-- An action other than a file publish adds nothing. -/
private theorem chunksAdded_of_none
    {relay : Relay}
    {id : Uuid}
    {action : RelayAction}
    (nothing : action.chunkFor id = none) :
    relay.chunksAdded id action = [] := by
  simp [chunksAdded, nothing]

/-- Both handed lists, as one assertion about a step. -/
structure Grows
    (relay next : Relay)
    (id : Uuid)
    (action : RelayAction) : Prop where
  live : relay.Live id
  clips :
    next.handedClips id = relay.handedClips id ++ relay.clipsAdded id action
  files :
    next.handedFiles id = relay.handedFiles id ++ relay.chunksAdded id action

private theorem grows_of_unchanged
    {relay next : Relay}
    {id : Uuid}
    {action : RelayAction}
    (live : relay.Live id)
    (sent : next.sentFrames id = relay.sentFrames id)
    (clip : next.mail.clip id = relay.mail.clip id)
    (file : next.mail.file id = relay.mail.file id)
    (noClip : action.clipFor id = none)
    (noChunk : action.chunkFor id = none) :
    Grows relay next id action where
  live := live
  clips := by
    simp [handedClips, sent, clip, clipsAdded_of_none noClip]
  files := by
    simp [handedFiles, sent, file, chunksAdded_of_none noChunk]

private theorem grows_publish
    {relay : Relay}
    (invariant : relay.Invariant)
    {id sender : Uuid}
    {clip : ClipFrame}
    (live : relay.Live id) :
    Grows relay (relay.handleMessage (.publish sender clip)) id
      (.process (.publish sender clip)) := by
  rcases live with ⟨registered, connection, known, running⟩
  have alive := (invariant.alive known running).1
  refine ⟨⟨registered, connection, known, running⟩, ?_, ?_⟩
  · change
      (relay.sentFrames id).filterMap Frame.clip? ++
          ((relay.hub.handle relay.mail
            (.publish sender clip)).mail.clip id).buffer = _
    rw [Hub.handle_publish_clip invariant.own]
    by_cases isSender : sender = id
    · subst sender
      simp [handedClips, clipsAdded, RelayAction.clipFor]
    · have peer : relay.hub.Registered id ∧ id ≠ sender :=
        ⟨registered, Ne.symm isSender⟩
      rw [if_pos peer]
      by_cases room : (relay.mail.clip id).HasRoom
      · rw [Channel.buffer_offer_of_room _ alive room]
        simp [handedClips, clipsAdded, room, RelayAction.clipFor, isSender]
      · rw [Channel.offer_of_full _ room]
        simp [handedClips, clipsAdded, room]
  · rw [chunksAdded_of_none rfl, List.append_nil]
    rfl

private theorem grows_publishFile
    {relay : Relay}
    (invariant : relay.Invariant)
    {id sender : Uuid}
    {chunk : FileChunkFrame}
    (live : relay.Live id) :
    Grows relay (relay.handleMessage (.publishFile sender chunk)) id
      (.process (.publishFile sender chunk)) := by
  rcases live with ⟨registered, connection, known, running⟩
  have alive := (invariant.alive known running).2
  refine ⟨⟨registered, connection, known, running⟩, ?_, ?_⟩
  · rw [clipsAdded_of_none rfl, List.append_nil]
    rfl
  · change
      (relay.sentFrames id).filterMap Frame.fileChunk? ++
          ((relay.hub.handle relay.mail
            (.publishFile sender chunk)).mail.file id).buffer = _
    rw [Hub.handle_publishFile_file invariant.own]
    by_cases isSender : sender = id
    · subst sender
      simp [handedFiles, chunksAdded, RelayAction.chunkFor]
    · have peer : relay.hub.Registered id ∧ id ≠ sender :=
        ⟨registered, Ne.symm isSender⟩
      rw [if_pos peer]
      by_cases room : (relay.mail.file id).HasRoom
      · rw [Channel.buffer_offer_of_room _ alive room]
        simp [handedFiles, chunksAdded, room, RelayAction.chunkFor, isSender]
      · rw [Channel.offer_of_full _ room]
        simp [handedFiles, chunksAdded, room]

private theorem Live.of_lookup
    {relay : Relay}
    {id : Uuid}
    {connection : Connection}
    (live : relay.Live id)
    (found : relay.connections id = some connection) :
    connection.writer ≠ .exited := by
  rcases live with ⟨-, other, known, running⟩
  rw [known, Option.some.injEq] at found
  subst connection
  exact running

private theorem grows_write
    {relay : Relay}
    (invariant : relay.Invariant)
    {writer id : Uuid}
    {connection : Connection}
    {frame : Frame}
    {internal : Channel Frame}
    {clips : Channel ClipFrame}
    {files : Channel FileChunkFrame}
    (known : relay.connections writer = some connection)
    (running : connection.writer = .running)
    (takes :
      TurnTakes connection.internal
        (relay.mail.clip writer) (relay.mail.file writer)
        frame internal clips files)
    (live :
      ((relay.setConnection writer
        { connection with
          internal := internal
          sent := connection.sent ++ [frame] }).setChannels
        writer clips files).Live id) :
    Grows relay
      ((relay.setConnection writer
        { connection with
          internal := internal
          sent := connection.sent ++ [frame] }).setChannels
        writer clips files)
      id (.write writer) := by
  rcases live with ⟨registered, found, lookup, foundRunning⟩
  by_cases same : id = writer
  · subst writer
    refine ⟨⟨registered, connection, known, by simp [running]⟩, ?_, ?_⟩
    all_goals
      simp only [handedClips, handedFiles, clipsAdded, chunksAdded,
        sentFrames, setChannels, setConnection, known,
        Function.update_self, List.filterMap_append,
        RelayAction.clipFor, RelayAction.chunkFor]
    · cases takes with
      | control head =>
          have member : frame ∈ connection.internal.buffer := by
            rw [head]
            exact List.mem_cons_self
          have quiet := (invariant.control known frame member).1
          simp [quiet]
      | clip noControl head =>
          rw [head]
          simp [Frame.clip?]
      | file noControl noClip head =>
          simp [Frame.clip?]
    · cases takes with
      | control head =>
          have member : frame ∈ connection.internal.buffer := by
            rw [head]
            exact List.mem_cons_self
          have quiet := (invariant.control known frame member).2
          simp [quiet]
      | clip noControl head =>
          simp [Frame.fileChunk?]
      | file noControl noClip head =>
          rw [head]
          simp [Frame.fileChunk?]
  · have unchanged : relay.connections id = some found := by
      simpa [setChannels, setConnection, same] using lookup
    exact grows_of_unchanged
      ⟨registered, found, unchanged, foundRunning⟩
      (by simp [sentFrames, setChannels, setConnection, same])
      (by simp [setChannels, setConnection, same])
      (by simp [setChannels, setConnection, same])
      rfl rfl

private theorem grows_register
    {relay : Relay}
    (invariant : relay.Invariant)
    {other id : Uuid}
    (different : id ≠ other)
    (live : (relay.registerConnection other).Live id) :
    Grows relay (relay.registerConnection other) id
      (.process (.register other other other)) := by
  rcases live with ⟨registered, connection, known, running⟩
  have lookup : relay.connections id = some connection := by
    simpa [registerConnection, different] using known
  have channels :=
    Hub.mail_register_other invariant.own
      (relay.setChannels other
        (Channel.withCapacity perClientChannelBuf)
        (Channel.withCapacity perClientFileChannelBuf)).mail different
  refine grows_of_unchanged
    ⟨(Hub.registered_register different).mp registered,
      connection, lookup, running⟩ ?_ ?_ ?_ rfl rfl
  · simp [sentFrames, registerConnection, different]
  · exact channels.1.trans (by simp [setChannels, different])
  · exact channels.2.trans (by simp [setChannels, different])

private theorem grows_deregister
    {relay : Relay}
    (invariant : relay.Invariant)
    {other id : Uuid}
    (live : (relay.handleMessage (.deregister other)).Live id) :
    Grows relay (relay.handleMessage (.deregister other)) id
      (.process (.deregister other)) := by
  rcases live with ⟨registered, connection, known, running⟩
  obtain ⟨different, before⟩ :=
    Hub.registered_deregister.mp registered
  have channels :=
    Hub.mail_deregister_other invariant.own relay.mail different
  exact grows_of_unchanged
    ⟨before, connection, known, running⟩
    rfl channels.1 channels.2 rfl rfl

private theorem grows_setConnection
    {relay : Relay}
    {action : RelayAction}
    {other id : Uuid}
    {connection changed : Connection}
    (known : relay.connections other = some connection)
    (runs : connection.writer ≠ .exited)
    (sent : changed.sent = connection.sent)
    (noClip : action.clipFor id = none)
    (noChunk : action.chunkFor id = none)
    (live : (relay.setConnection other changed).Live id) :
    Grows relay (relay.setConnection other changed) id action := by
  rcases live with ⟨registered, found, lookup, running⟩
  by_cases same : id = other
  · subst other
    exact grows_of_unchanged
      ⟨registered, connection, known, runs⟩
      (by simp [sentFrames, known, sent]) rfl rfl noClip noChunk
  · rw [relay.setConnection_other _ same] at lookup
    exact grows_of_unchanged
      ⟨registered, found, lookup, running⟩
      (by simp [sentFrames, relay.setConnection_other _ same])
      rfl rfl noClip noChunk

private theorem grows_exit
    {relay middle : Relay}
    {action : RelayAction}
    {other id : Uuid}
    {connection : Connection}
    (hub : middle.hub = relay.hub)
    (others :
      ∀ peer, peer ≠ other →
        middle.connections peer = relay.connections peer ∧
          middle.mail.clip peer = relay.mail.clip peer ∧
          middle.mail.file peer = relay.mail.file peer)
    (noClip : action.clipFor id = none)
    (noChunk : action.chunkFor id = none)
    (live : (middle.exitWriter other connection).Live id) :
    Grows relay (middle.exitWriter other connection) id action := by
  have different : id ≠ other := by
    intro same
    subst other
    have found :
        (middle.exitWriter id connection).connections id =
          some
            { connection with
              internal := connection.internal.dropReceiver
              writer := .exited } := by
      simp [exitWriter, setChannels, setConnection]
    exact live.of_lookup found rfl
  have unchanged := others id different
  rcases live with ⟨registered, found, lookup, running⟩
  have wasFound : relay.connections id = some found := by
    rw [← unchanged.1]
    simpa [exitWriter, setChannels, setConnection, different] using
      lookup
  refine grows_of_unchanged
    ⟨?_, found, wasFound, running⟩ ?_ ?_ ?_ noClip noChunk
  · rw [← hub]
    exact registered
  · simp [sentFrames, exitWriter, setChannels, setConnection,
      different, unchanged.1]
  · simp [exitWriter, setChannels, setConnection,
      different, unchanged.2.1]
  · simp [exitWriter, setChannels, setConnection,
      different, unchanged.2.2]

/-- Only the hub hands over frames. -/
private theorem noFrame_of_notHub
    {action : RelayAction}
    (notHub : ∀ message, action ≠ .process message)
    (id : Uuid) :
    action.clipFor id = none ∧ action.chunkFor id = none := by
  cases action with
  | process message =>
      exact (notHub message rfl).elim
  | _ =>
      exact ⟨rfl, rfl⟩

/--
One step hands a live connection the frame that another client publishes in
it, if the channel has room, and nothing else.
-/
theorem step?_grows
    {relay next : Relay}
    {action : RelayAction}
    {id : Uuid}
    (invariant : relay.Invariant)
    (stepped : relay.step? action = some next)
    (joined : (relay.connections id).isSome)
    (live : next.Live id) :
    Grows relay next id action := by
  cases relayStep_of_step? stepped with
  | @register other fresh =>
      have different : id ≠ other := by
        intro same
        subst other
        simp [fresh] at joined
      exact grows_register invariant different live
  | deregister =>
      exact grows_deregister invariant live
  | publish =>
      exact grows_publish invariant live
  | publishFile =>
      exact grows_publishFile invariant live
  | welcome known notStarted accepted =>
      exact grows_setConnection known (by simp [notStarted]) rfl rfl rfl live
  | reject known wasRunning sent =>
      exact grows_setConnection known (by simp [wasRunning]) rfl rfl rfl live
  | write known running turn =>
      exact grows_write invariant known running
        (turnTakes_of_writerTurn turn) live
  | idle =>
      exact grows_of_unchanged live rfl rfl rfl rfl rfl
  | exit hub others known ack sent notHub =>
      obtain ⟨noClip, noChunk⟩ := noFrame_of_notHub notHub id
      exact grows_exit hub others noClip noChunk live

/--
The welcome of an accepted connection is queued before anything else, so it is
the first frame that the writer sends.
-/
def WelcomeFirst (relay : Relay) : Prop :=
  ∀ id connection lastClip,
    relay.connections id = some connection →
    connection.ack = .accepted lastClip →
    (connection.sent = [] ∧
        (connection.writer = .running →
          connection.internal.buffer.head? =
            some (welcomeFrame id lastClip))) ∨
      connection.sent.head? = some (welcomeFrame id lastClip)

private theorem welcomeFirst_start
    (maxClients : Nat)
    (stats : Option UInt64) :
    (start maxClients stats).WelcomeFirst := by
  intro id connection lastClip known
  cases known

private theorem WelcomeFirst.update
    {relay next : Relay}
    (first : relay.WelcomeFirst)
    (id : Uuid)
    {replaced : Connection}
    (others :
      ∀ other, other ≠ id →
        next.connections other = relay.connections other)
    (lookup : next.connections id = some replaced)
    (keeps :
      ∀ {lastClip},
        replaced.ack = .accepted lastClip →
        (replaced.sent = [] ∧
            (replaced.writer = .running →
              replaced.internal.buffer.head? =
                some (welcomeFrame id lastClip))) ∨
          replaced.sent.head? = some (welcomeFrame id lastClip)) :
    next.WelcomeFirst := by
  intro other connection lastClip known accepted
  by_cases same : other = id
  · subst other
    rw [lookup, Option.some.injEq] at known
    subst connection
    exact keeps accepted
  · rw [others other same] at known
    exact first other connection lastClip known accepted

private theorem WelcomeFirst.step
    {relay next : Relay}
    {action : RelayAction}
    (invariant : relay.Invariant)
    (first : relay.WelcomeFirst)
    (stepped : relay.step? action = some next) :
    next.WelcomeFirst := by
  cases relayStep_of_step? stepped with
  | @register id fresh =>
      refine first.update id
        (fun other different => by simp [registerConnection, different])
        (by
          simp only [registerConnection, Function.update_self]
          rfl) ?_
      intro lastClip accepted
      exact .inl ⟨rfl, fun running => by cases running⟩
  | deregister =>
      exact first
  | publish =>
      exact first
  | publishFile =>
      exact first
  | @welcome id connection snapshot known notStarted accepted =>
      refine first.update id
        (fun other different => relay.setConnection_other _ different)
        (relay.setConnection_same id _) ?_
      intro lastClip acked
      obtain ⟨nothingSent, initial⟩ := invariant.fresh known notStarted
      have same : snapshot = lastClip :=
        RegisterResult.accepted.inj (accepted.symm.trans acked)
      subst lastClip
      refine .inl ⟨nothingSent, fun _ => ?_⟩
      simp only [initial]
      rw [Channel.buffer_offer_of_room _ rfl (by decide)]
      rfl
  | @reject id connection error internal known running sent =>
      refine first.update id
        (fun other different => relay.setConnection_other _ different)
        (relay.setConnection_same id _) ?_
      intro lastClip accepted
      obtain ⟨room, -, rfl⟩ := Channel.trySend_eq_ok.mp sent
      rcases first _ _ _ known accepted with ⟨nothingSent, queued⟩ | isFirst
      · refine .inl ⟨nothingSent, fun _ => ?_⟩
        have head := queued running
        simp only [Channel.buffer_push]
        rw [List.head?_append_of_ne_nil _ (by
          intro empty
          simp [empty] at head)]
        exact head
      · exact .inr isFirst
  | @write id connection frame internal clips files known running turn =>
      refine first.update id
        (fun other different => by
          simp [setChannels, setConnection, different])
        (by
          simp only [setChannels, setConnection, Function.update_self]
          rfl) ?_
      intro lastClip accepted
      rcases first _ _ _ known accepted with ⟨nothingSent, queued⟩ | isFirst
      · have head := queued running
        cases turnTakes_of_writerTurn turn with
        | control isHead =>
            rw [isHead, List.head?_cons, Option.some.injEq] at head
            subst frame
            exact .inr (by simp [nothingSent])
        | clip noControl isHead =>
            simp [noControl] at head
        | file noControl noClip isHead =>
            simp [noControl] at head
      · exact .inr (by simp [List.head?_append, isFirst])
  | idle =>
      exact first
  | @exit _ id middle before connection hub others known ack sent notHub =>
      refine first.update id
        (fun other different => by
          simp [exitWriter, setChannels, setConnection, different,
            (others other different).1])
        (by
          simp only [exitWriter, setChannels, setConnection,
            Function.update_self]
          rfl) ?_
      intro lastClip accepted
      rw [ack] at accepted
      rcases first _ _ _ known accepted with ⟨nothingSent, queued⟩ | isFirst
      · rcases sent with unchanged | ⟨frame, running, head, extended⟩
        · exact .inl
            ⟨unchanged.trans nothingSent, fun running => by cases running⟩
        · rw [queued running, Option.some.injEq] at head
          subst frame
          exact .inr (by simp [extended, nothingSent])
      · rcases sent with unchanged | ⟨frame, running, head, extended⟩
        · exact .inr (by simp [unchanged, isFirst])
        · exact .inr (by simp [extended, List.head?_append, isFirst])

theorem welcomeFirst_of_run
    {maxClients : Nat}
    {stats : Option UInt64}
    {actions : List RelayAction}
    {relay : Relay}
    (ran :
      StepRun.run? step? (start maxClients stats) actions = some relay) :
    relay.WelcomeFirst :=
  StepRun.run?_history
    (motive := fun _ relay => relay.WelcomeFirst)
    (welcomeFirst_start maxClients stats)
    (fun _ earlier first stepped =>
      first.step (invariant_of_run earlier) stepped)
    ran

/-- A step changes the cached clip exactly by publishing a clip. -/
theorem lastClip_step
    {relay next : Relay}
    {action : RelayAction}
    (stepped : relay.step? action = some next) :
    next.hub.lastClip = action.published?.or relay.hub.lastClip := by
  cases relayStep_of_step? stepped with
  | register fresh =>
      simp only [registerConnection, Hub.handle]
      split <;> rfl
  | deregister =>
      simp only [handleMessage, Hub.handle]
      split <;> rfl
  | publish =>
      rfl
  | publishFile =>
      rfl
  | welcome known notStarted accepted =>
      rfl
  | reject known running sent =>
      rfl
  | write known running turn =>
      rfl
  | idle =>
      rfl
  | exit hub others known ack sent notHub =>
      cases action with
      | process message =>
          exact (notHub message rfl).elim
      | _ =>
          exact congrArg Hub.lastClip hub

/-- The last stamped clip that a list of actions publishes. -/
def lastPublished (actions : List RelayAction) : Option ClipFrame :=
  (actions.filterMap RelayAction.published?).getLast?

/-- The hub caches the last clip published by anyone. -/
theorem lastClip_eq_lastPublished
    {maxClients : Nat}
    {stats : Option UInt64}
    {actions : List RelayAction}
    {relay : Relay}
    (ran :
      StepRun.run? step? (start maxClients stats) actions = some relay) :
    relay.hub.lastClip = lastPublished actions := by
  refine StepRun.run?_history
    (motive := fun past relay => relay.hub.lastClip = lastPublished past)
    rfl ?_ ran
  intro past state action next _ _ holds stepped
  rw [lastClip_step stepped, holds, lastPublished, lastPublished,
    List.filterMap_append]
  cases published : action.published? with
  | none =>
      simp [published]
  | some clip =>
      simp [published]

theorem ack_step
    {relay next : Relay}
    {action : RelayAction}
    {id : Uuid}
    {connection : Connection}
    (stepped : relay.step? action = some next)
    (known : relay.connections id = some connection) :
    ∃ later,
      next.connections id = some later ∧
        later.ack = connection.ack := by
  have replace
      (other : Uuid)
      (replaced found : Connection)
      (lookup : relay.connections other = some found)
      (ack : replaced.ack = found.ack) :
      ∃ later,
        Function.update relay.connections other (some replaced) id =
            some later ∧
          later.ack = connection.ack := by
    by_cases same : id = other
    · subst other
      rw [known, Option.some.injEq] at lookup
      subst found
      exact ⟨replaced, by simp, ack⟩
    · exact ⟨connection, by simp [same, known], rfl⟩
  cases relayStep_of_step? stepped with
  | @register other fresh =>
      have different : id ≠ other := by
        intro same
        subst other
        simp [fresh] at known
      exact
        ⟨connection, by simp [registerConnection, different, known], rfl⟩
  | deregister =>
      exact ⟨connection, known, rfl⟩
  | publish =>
      exact ⟨connection, known, rfl⟩
  | publishFile =>
      exact ⟨connection, known, rfl⟩
  | welcome found notStarted accepted =>
      exact replace _ _ _ found rfl
  | reject found running sent =>
      exact replace _ _ _ found rfl
  | write found running turn =>
      exact replace _ _ _ found rfl
  | idle =>
      exact ⟨connection, known, rfl⟩
  | @exit _ other middle before replaced hub others found ack sent notHub =>
      by_cases same : id = other
      · subst other
        rw [known, Option.some.injEq] at found
        subst before
        exact ⟨_, Function.update_self .., ack⟩
      · refine ⟨connection, ?_, rfl⟩
        simp [exitWriter, setChannels, setConnection, same,
          (others id same).1, known]

/-- Registering a client that is then registered was accepted. -/
theorem registerConnection_accepted
    {relay : Relay}
    (invariant : relay.Invariant)
    {id : Uuid}
    (fresh : relay.connections id = none)
    (registered : (relay.registerConnection id).hub.Registered id) :
    (relay.registerConnection id).connections id =
      some
        { ack := .accepted relay.hub.lastClip
          internal := Channel.withCapacity internalBuf
          writer := .notStarted
          sent := [] } := by
  have absent : ¬ relay.hub.Registered id := by
    intro before
    have known := invariant.known before
    simp [fresh] at known
  by_cases atCapacity : relay.hub.maxClients ≤ relay.hub.clientCount
  · simp only [registerConnection, Hub.handle, setChannels, atCapacity,
      ↓reduceIte] at registered
    exact (absent registered).elim
  · simp [registerConnection, Hub.handle, setChannels, atCapacity]

/-- A connection that has just joined has been handed nothing. -/
theorem registerConnection_handed
    {relay : Relay}
    (invariant : relay.Invariant)
    {id : Uuid}
    (fresh : relay.connections id = none) :
    (relay.registerConnection id).handedClips id = [] ∧
      (relay.registerConnection id).handedFiles id = [] := by
  have absent : relay.hub.clients.lookup id = none := by
    rw [AList.lookup_eq_none]
    intro before
    have known := invariant.known before
    simp [fresh] at known
  by_cases atCapacity : relay.hub.maxClients ≤ relay.hub.clientCount
  · simp [handedClips, handedFiles, sentFrames, registerConnection,
      Hub.handle, setChannels, atCapacity, Mailboxes.dropSenders]
  · simp [handedClips, handedFiles, sentFrames, registerConnection,
      Hub.handle, setChannels, atCapacity, absent]

/-- No publish finds the queue of the client that it goes to full. -/
def RoomFor (id : Uuid) (relay : Relay) : RelayAction → Prop
  | .process (.publish _ _) =>
      (relay.mail.clip id).HasRoom
  | .process (.publishFile _ _) =>
      (relay.mail.file id).HasRoom
  | _ =>
      True

instance (id : Uuid) (relay : Relay) :
    ∀ action, Decidable (relay.RoomFor id action)
  | .process (.publish _ _) =>
      inferInstanceAs (Decidable (relay.mail.clip id).HasRoom)
  | .process (.publishFile _ _) =>
      inferInstanceAs (Decidable (relay.mail.file id).HasRoom)
  | .process (.register _ _ _) =>
      inferInstanceAs (Decidable True)
  | .process (.deregister _) =>
      inferInstanceAs (Decidable True)
  | .welcome _ =>
      inferInstanceAs (Decidable True)
  | .reject _ _ =>
      inferInstanceAs (Decidable True)
  | .write _ =>
      inferInstanceAs (Decidable True)
  | .writeFails _ =>
      inferInstanceAs (Decidable True)

/-- With room, the clip for the client is added. -/
private theorem clipsAdded_of_room
    {relay : Relay}
    {id : Uuid}
    {action : RelayAction}
    (room : relay.RoomFor id action) :
    relay.clipsAdded id action = (action.clipFor id).toList := by
  cases published : action.clipFor id with
  | none =>
      exact clipsAdded_of_none published
  | some clip =>
      cases action with
      | process message =>
          cases message with
          | publish sender content =>
              have hasRoom : (relay.mail.clip id).HasRoom := room
              simp [clipsAdded, hasRoom, published]
          | _ =>
              cases published
      | _ =>
          cases published

/-- With room, the chunk for the client is added. -/
private theorem chunksAdded_of_room
    {relay : Relay}
    {id : Uuid}
    {action : RelayAction}
    (room : relay.RoomFor id action) :
    relay.chunksAdded id action = (action.chunkFor id).toList := by
  cases published : action.chunkFor id with
  | none =>
      exact chunksAdded_of_none published
  | some chunk =>
      cases action with
      | process message =>
          cases message with
          | publishFile sender content =>
              have hasRoom : (relay.mail.file id).HasRoom := room
              simp [chunksAdded, hasRoom, published]
          | _ =>
              cases published
      | _ =>
          cases published

/-- The stamped clips that other clients publish, in processing order. -/
def clipsOfOthers
    (id : Uuid)
    (actions : List RelayAction) :
    List ClipFrame :=
  actions.filterMap (RelayAction.clipFor id)

/-- The stamped chunks that other clients publish, in processing order. -/
def chunksOfOthers
    (id : Uuid)
    (actions : List RelayAction) :
    List FileChunkFrame :=
  actions.filterMap (RelayAction.chunkFor id)

theorem clipsOfOthers_snoc
    (id : Uuid)
    (past : List RelayAction)
    (action : RelayAction) :
    clipsOfOthers id (past ++ [action]) =
      clipsOfOthers id past ++ (action.clipFor id).toList := by
  rw [clipsOfOthers, List.filterMap_append]
  cases published : action.clipFor id <;> simp [clipsOfOthers, published]

theorem chunksOfOthers_snoc
    (id : Uuid)
    (past : List RelayAction)
    (action : RelayAction) :
    chunksOfOthers id (past ++ [action]) =
      chunksOfOthers id past ++ (action.chunkFor id).toList := by
  rw [chunksOfOthers, List.filterMap_append]
  cases published : action.chunkFor id <;> simp [chunksOfOthers, published]

/-- What holds of a connection that has just been accepted. -/
structure JustJoined
    (id : Uuid)
    (before : List RelayAction)
    (joined : Relay) : Prop where
  clips : joined.handedClips id = []
  files : joined.handedFiles id = []
  cached : joined.hub.lastClip = lastPublished before
  accepted :
    ∃ connection,
      joined.connections id = some connection ∧
        connection.ack = .accepted (lastPublished before)

/-- A registration that leaves a live connection has accepted it. -/
private theorem justJoined_of_run
    {maxClients : Nat}
    {stats : Option UInt64}
    {before : List RelayAction}
    {id : Uuid}
    {joined : Relay}
    (joins :
      StepRun.run? step? (start maxClients stats)
        (before ++ [.process (.register id id id)]) = some joined)
    (registered : joined.hub.Registered id) :
    JustJoined id before joined := by
  obtain ⟨relay, earlier, stepped⟩ := StepRun.run?_snoc_eq_some.mp joins
  have invariant : relay.Invariant := invariant_of_run earlier
  have cached : joined.hub.lastClip = relay.hub.lastClip := by
    rw [lastClip_step stepped]
    rfl
  have published := lastClip_eq_lastPublished earlier
  cases relayStep_of_step? stepped with
  | register fresh =>
      obtain ⟨clips, files⟩ := registerConnection_handed invariant fresh
      refine ⟨clips, files, cached.trans published, _,
        registerConnection_accepted invariant fresh registered, ?_⟩
      rw [published]
  | exit hub others found ack sent notHub =>
      exact (notHub _ rfl).elim

/-- A connection that was made by a registration is found after it. -/
private theorem isSome_of_register
    {relay joined : Relay}
    {id : Uuid}
    (stepped :
      relay.step? (.process (.register id id id)) = some joined) :
    ∃ connection, joined.connections id = some connection := by
  cases relayStep_of_step? stepped with
  | register fresh =>
      exact ⟨_, Function.update_self ..⟩
  | exit hub others found ack sent notHub =>
      exact (notHub _ rfl).elim

/--
History rule for a live connection: what holds when it has just joined, and is
kept by every step according to what the step hands it, holds as long as the
connection lives.
-/
theorem live_history
    {maxClients : Nat}
    {stats : Option UInt64}
    {before after : List RelayAction}
    {id : Uuid}
    {joined final : Relay}
    {motive : List RelayAction → Relay → Prop}
    (joins :
      StepRun.run? step? (start maxClients stats)
        (before ++ [.process (.register id id id)]) = some joined)
    (ran : StepRun.run? step? joined after = some final)
    (live : final.Live id)
    (base : JustJoined id before joined → motive [] joined)
    (preserved :
      ∀ {past relay action next connection},
        past ++ [action] <+: after →
        StepRun.run? step? joined past = some relay →
        relay.connections id = some connection →
        relay.step? action = some next →
        Grows relay next id action →
        motive past relay →
        motive (past ++ [action]) next) :
    (∃ connection,
        final.connections id = some connection ∧
          connection.ack = .accepted (lastPublished before)) ∧
      motive after final := by
  obtain ⟨relay, -, registers⟩ := StepRun.run?_snoc_eq_some.mp joins
  obtain ⟨joining, made⟩ := isSome_of_register registers
  have follows :
      (∃ connection,
          final.connections id = some connection ∧
            connection.ack = joining.ack) ∧
        (final.Live id →
          joined.hub.Registered id ∧ motive after final) := by
    refine StepRun.run?_history
      (motive := fun past relay =>
        (∃ connection,
            relay.connections id = some connection ∧
              connection.ack = joining.ack) ∧
          (relay.Live id →
            joined.hub.Registered id ∧ motive past relay))
      ⟨⟨joining, made, rfl⟩, fun joinedLive =>
        ⟨joinedLive.1, base (justJoined_of_run joins joinedLive.1)⟩⟩
      ?_ ran
    rintro past relay action next within reached
      ⟨⟨connection, known, ack⟩, holds⟩ stepped
    obtain ⟨later, found, same⟩ := ack_step stepped known
    refine ⟨⟨later, found, same.trans ack⟩, fun nextLive => ?_⟩
    have grows : Grows relay next id action :=
      step?_grows
        (invariant_of_run
          (StepRun.run?_append_eq_some.mpr ⟨joined, joins, reached⟩))
        stepped (by simp [known]) nextLive
    obtain ⟨registered, before⟩ := holds grows.live
    exact ⟨registered,
      preserved within reached known stepped grows before⟩
  rcases follows with ⟨⟨connection, known, ack⟩, kept⟩
  obtain ⟨registered, holds⟩ := kept live
  obtain ⟨accepted, found, isAccepted⟩ :=
    (justJoined_of_run joins registered).accepted
  rw [made, Option.some.injEq] at found
  subst accepted
  exact ⟨⟨connection, known, ack.trans isAccepted⟩, holds⟩

/--
Exact fan-out with a gap-free join.  A registered client whose queues never
overflow gets the welcome first, with the last clip published before its
registration; after it, its writer has sent or still has queued exactly the
clips, and exactly the chunks, that other clients published since.
-/
theorem fanOut_exact
    {maxClients : Nat}
    {stats : Option UInt64}
    {before after : List RelayAction}
    {id : Uuid}
    {joined final : Relay}
    {connection : Connection}
    (joins :
      StepRun.run? step? (start maxClients stats)
        (before ++ [.process (.register id id id)]) = some joined)
    (ran : StepRun.run? step? joined after = some final)
    (neverFull : StepRun.Along step? (RoomFor id) joined after)
    (registered : final.hub.Registered id)
    (known : final.connections id = some connection)
    (running : connection.writer ≠ .exited) :
    (connection.sent = [] ∨
        connection.sent.head? =
          some (welcomeFrame id (lastPublished before))) ∧
      connection.sent.filterMap Frame.clip? ++
          (final.mail.clip id).buffer =
        clipsOfOthers id after ∧
      connection.sent.filterMap Frame.fileChunk? ++
          (final.mail.file id).buffer =
        chunksOfOthers id after := by
  have handed :
      (∃ found,
          final.connections id = some found ∧
            found.ack = .accepted (lastPublished before)) ∧
        final.handedClips id = clipsOfOthers id after ∧
        final.handedFiles id = chunksOfOthers id after := by
    refine live_history
      (motive := fun past relay =>
        relay.handedClips id = clipsOfOthers id past ∧
          relay.handedFiles id = chunksOfOthers id past)
      joins ran ⟨registered, connection, known, running⟩
      (fun fresh => ⟨fresh.clips, fresh.files⟩) ?_
    rintro past relay action next - within reached - stepped grows
      ⟨clips, files⟩
    have room : relay.RoomFor id action :=
      neverFull.meets within reached
    exact
      ⟨by rw [grows.clips, clips, clipsAdded_of_room room,
          clipsOfOthers_snoc],
        by rw [grows.files, files, chunksAdded_of_room room,
          chunksOfOthers_snoc]⟩
  rcases handed with ⟨⟨found, same, accepted⟩, clips, files⟩
  rw [known, Option.some.injEq] at same
  subst found
  simp only [handedClips, handedFiles, sentFrames, known] at clips files
  refine ⟨?_, clips, files⟩
  have first :=
    welcomeFirst_of_run
      (StepRun.run?_append_eq_some.mpr ⟨_, joins, ran⟩)
      id connection (lastPublished before) known accepted
  exact first.imp And.left (fun isHead => isHead)

/-- A first client has published before the second one joins. -/
def sampleBefore : List RelayAction :=
  [.process (.register ⟨1⟩ ⟨1⟩ ⟨1⟩), .welcome ⟨1⟩,
    .process (.publish ⟨1⟩ (.text ⟨10⟩ 0 "before"))]

/-- After the join: one clip during it, one own clip, one still queued. -/
def sampleAfter : List RelayAction :=
  [.process (.publish ⟨1⟩ (.text ⟨11⟩ 1 "meanwhile")),
    .welcome ⟨2⟩, .write ⟨2⟩,
    .process (.publish ⟨2⟩ (.text ⟨12⟩ 2 "own")), .write ⟨2⟩,
    .process (.publish ⟨1⟩ (.text ⟨13⟩ 3 "queued"))]

/-- The server right after the second client of the sample has joined. -/
def sampleJoined : Relay :=
  (StepRun.run? step? (start 2 none)
    (sampleBefore ++ [.process (.register ⟨2⟩ ⟨2⟩ ⟨2⟩)])).get
    (by decide)

/-- The server at the end of the sample. -/
def sampleFinal : Relay :=
  (StepRun.run? step? sampleJoined sampleAfter).get (by decide)

/-- The second connection of the sample at its end. -/
def sampleConnection : Connection :=
  (sampleFinal.connections ⟨2⟩).get (by decide)

/-- On the sample the second client has got one clip; one is queued. -/
theorem fanOut_exact_sample :
    (sampleConnection.sent = [] ∨
        sampleConnection.sent.head? =
          some (welcomeFrame ⟨2⟩ (lastPublished sampleBefore))) ∧
      sampleConnection.sent.filterMap Frame.clip? ++
          (sampleFinal.mail.clip ⟨2⟩).buffer =
        clipsOfOthers ⟨2⟩ sampleAfter ∧
      sampleConnection.sent.filterMap Frame.fileChunk? ++
          (sampleFinal.mail.file ⟨2⟩).buffer =
        chunksOfOthers ⟨2⟩ sampleAfter :=
  fanOut_exact
    (Option.some_get _).symm
    (Option.some_get _).symm
    (by decide)
    (by decide)
    (Option.some_get _).symm
    (by decide)

end Relay

end ClipboardWire
