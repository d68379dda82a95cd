import ClipboardWire.ServerInvariant

namespace ClipboardWire

open BoundedChannel

/-!
# One order for all clients

Whatever overflows, and whenever a writer ends, a step hands a connection at
most the frame that another client publishes in it.  By induction over the
run, what a connection has been handed is a subsequence of what other clients
have published since it registered: nothing twice, nothing out of order and
nothing of its own.  As there is one sequence of publishes, all clients see
what they see in the same order.
-/

namespace Relay

/-- A connection is handed at most what an action publishes for it. -/
structure HandsAtMost
    (relay next : Relay)
    (id : Uuid)
    (action : RelayAction) : Prop where
  clips :
    (next.handedClips id).Sublist
      (relay.handedClips id ++ (action.clipFor id).toList)
  files :
    (next.handedFiles id).Sublist
      (relay.handedFiles id ++ (action.chunkFor id).toList)

private theorem handsAtMost_of_sublist
    {relay next : Relay}
    {id : Uuid}
    {action : RelayAction}
    (clips : (next.handedClips id).Sublist (relay.handedClips id))
    (files : (next.handedFiles id).Sublist (relay.handedFiles id)) :
    HandsAtMost relay next id action where
  clips := clips.trans (List.sublist_append_left _ _)
  files := files.trans (List.sublist_append_left _ _)

private theorem handsAtMost_of_unchanged
    {relay next : Relay}
    {id : Uuid}
    {action : RelayAction}
    (sent : next.sentFrames id = relay.sentFrames id)
    (clip : (next.mail.clip id).buffer = (relay.mail.clip id).buffer)
    (file : (next.mail.file id).buffer = (relay.mail.file id).buffer) :
    HandsAtMost relay next id action := by
  apply handsAtMost_of_sublist
  · rw [handedClips, sent, clip]
    exact List.Sublist.refl _
  · rw [handedFiles, sent, file]
    exact List.Sublist.refl _

private theorem handsAtMost_publish
    {relay : Relay}
    (invariant : relay.Invariant)
    (id sender : Uuid)
    (clip : ClipFrame) :
    HandsAtMost relay (relay.handleMessage (.publish sender clip)) id
      (.process (.publish sender clip)) where
  clips := by
    have queue :=
      Hub.handle_publish_clip invariant.own relay.mail sender id clip
    simp only [handedClips, handleMessage, sentFrames, List.append_assoc] at *
    apply List.Sublist.append_left
    rw [queue]
    by_cases isSender : sender = id
    · simp [isSender]
    · split
      · simpa [RelayAction.clipFor, isSender] using
          Channel.buffer_offer_sublist (relay.mail.clip id) _
      · exact List.sublist_append_left _ _
  files :=
    List.sublist_append_left _ _

private theorem handsAtMost_publishFile
    {relay : Relay}
    (invariant : relay.Invariant)
    (id sender : Uuid)
    (chunk : FileChunkFrame) :
    HandsAtMost relay (relay.handleMessage (.publishFile sender chunk)) id
      (.process (.publishFile sender chunk)) where
  clips :=
    List.sublist_append_left _ _
  files := by
    have queue :=
      Hub.handle_publishFile_file invariant.own relay.mail sender id chunk
    simp only [handedFiles, handleMessage, sentFrames, List.append_assoc] at *
    apply List.Sublist.append_left
    rw [queue]
    by_cases isSender : sender = id
    · simp [isSender]
    · split
      · simpa [RelayAction.chunkFor, isSender] using
          Channel.buffer_offer_sublist (relay.mail.file id) _
      · exact List.sublist_append_left _ _

/-- What is queued for a connection outlives its deregistration. -/
theorem buffers_deregister
    (relay : Relay)
    (id other : Uuid) :
    ((relay.handleMessage (.deregister other)).mail.clip id).buffer =
        (relay.mail.clip id).buffer ∧
      ((relay.handleMessage (.deregister other)).mail.file id).buffer =
        (relay.mail.file id).buffer := by
  simp only [handleMessage, Hub.handle]
  cases relay.hub.clients.lookup other with
  | none =>
      exact ⟨rfl, rfl⟩
  | some removed =>
      simp only [Mailboxes.dropSenders, Function.update_apply]
      constructor <;> split <;> simp_all

private theorem handsAtMost_deregister
    (relay : Relay)
    (id other : Uuid) :
    HandsAtMost relay (relay.handleMessage (.deregister other)) id
      (.process (.deregister other)) :=
  handsAtMost_of_unchanged rfl (buffers_deregister relay id other).1
    (buffers_deregister relay id other).2

/-- The queues of a connection are not those of one that registers. -/
theorem channels_register
    {relay : Relay}
    (invariant : relay.Invariant)
    {id other : Uuid}
    (different : id ≠ other) :
    (relay.registerConnection other).mail.clip id = relay.mail.clip id ∧
      (relay.registerConnection other).mail.file id = relay.mail.file id := by
  have channels :=
    Hub.mail_register_other invariant.own
      (relay.setChannels other
        (Channel.withCapacity perClientChannelBuf)
        (Channel.withCapacity perClientFileChannelBuf)).mail different
  exact
    ⟨channels.1.trans (by simp [setChannels, different]),
      channels.2.trans (by simp [setChannels, different])⟩

private theorem handsAtMost_register
    {relay : Relay}
    (invariant : relay.Invariant)
    {id other : Uuid}
    (different : id ≠ other) :
    HandsAtMost relay (relay.registerConnection other) id
      (.process (.register other other other)) := by
  obtain ⟨clip, file⟩ := channels_register invariant different
  apply handsAtMost_of_unchanged
  · simp [sentFrames, registerConnection, different]
  · rw [clip]
  · rw [file]

private theorem handsAtMost_setConnection
    {relay : Relay}
    {action : RelayAction}
    {id other : Uuid}
    {connection changed : Connection}
    (known : relay.connections other = some connection)
    (sent : changed.sent = connection.sent) :
    HandsAtMost relay (relay.setConnection other changed) id action := by
  refine handsAtMost_of_unchanged ?_ rfl rfl
  by_cases same : id = other
  · subst other
    simp [sentFrames, known, sent]
  · simp [sentFrames, relay.setConnection_other _ same]

private theorem handsAtMost_write
    {relay : Relay}
    (invariant : relay.Invariant)
    {action : RelayAction}
    {id writer : Uuid}
    {connection : Connection}
    {frame : Frame}
    {internal : Channel Frame}
    {clips : Channel ClipFrame}
    {files : Channel FileChunkFrame}
    (known : relay.connections writer = some connection)
    (takes :
      TurnTakes connection.internal
        (relay.mail.clip writer) (relay.mail.file writer)
        frame internal clips files) :
    HandsAtMost relay
      ((relay.setConnection writer
        { connection with
          internal := internal
          sent := connection.sent ++ [frame] }).setChannels
        writer clips files)
      id action := by
  by_cases same : id = writer
  · subst writer
    apply handsAtMost_of_sublist
    all_goals
      simp only [handedClips, handedFiles, sentFrames, setChannels,
        setConnection, known, Function.update_self, List.filterMap_append]
    · cases takes with
      | control head =>
          have member : frame ∈ connection.internal.buffer := by
            rw [head]
            exact List.mem_cons_self
          simp [(invariant.control known frame member).1]
      | clip noControl head =>
          rw [head]
          simp [Frame.clip?]
      | file noControl noClip head =>
          simp [Frame.clip?]
    · cases takes with
      | control head =>
          have member : frame ∈ connection.internal.buffer := by
            rw [head]
            exact List.mem_cons_self
          simp [(invariant.control known frame member).2]
      | clip noControl head =>
          simp [Frame.fileChunk?]
      | file noControl noClip head =>
          rw [head]
          simp [Frame.fileChunk?]
  · apply handsAtMost_of_unchanged
    · simp [sentFrames, setChannels, setConnection, same]
    · simp [setChannels, setConnection, same]
    · simp [setChannels, setConnection, same]

private theorem handsAtMost_exit
    {relay middle : Relay}
    (invariant : relay.Invariant)
    {action : RelayAction}
    {id other : Uuid}
    {before connection : Connection}
    (others :
      ∀ peer, peer ≠ other →
        middle.connections peer = relay.connections peer ∧
          middle.mail.clip peer = relay.mail.clip peer ∧
          middle.mail.file peer = relay.mail.file peer)
    (known : relay.connections other = some before)
    (sent :
      connection.sent = before.sent ∨
        ∃ frame,
          before.writer = .running ∧
            before.internal.buffer.head? = some frame ∧
            connection.sent = before.sent ++ [frame]) :
    HandsAtMost relay (middle.exitWriter other connection) id action := by
  by_cases same : id = other
  · subst other
    have quiet :
        connection.sent.filterMap Frame.clip? =
            before.sent.filterMap Frame.clip? ∧
          connection.sent.filterMap Frame.fileChunk? =
            before.sent.filterMap Frame.fileChunk? := by
      rcases sent with isSame | ⟨frame, -, head, isLonger⟩
      · rw [isSame]
        exact ⟨rfl, rfl⟩
      · have control :=
          invariant.control known frame (List.mem_of_head? head)
        simp [isLonger, control.1, control.2]
    apply handsAtMost_of_sublist
    all_goals
      simp [handedClips, handedFiles, sentFrames, exitWriter, setChannels,
        setConnection, known, quiet]
  · have unchanged := others id same
    apply handsAtMost_of_unchanged
    · simp [sentFrames, exitWriter, setChannels, setConnection,
        same, unchanged.1]
    · simp [exitWriter, setChannels, setConnection, same, unchanged.2.1]
    · simp [exitWriter, setChannels, setConnection, same, unchanged.2.2]

/-- One step hands a known connection at most what the action publishes. -/
theorem step?_handsAtMost
    {relay next : Relay}
    {action : RelayAction}
    {id : Uuid}
    (invariant : relay.Invariant)
    (stepped : relay.step? action = some next)
    (joined : (relay.connections id).isSome) :
    HandsAtMost relay next id action := by
  cases relayStep_of_step? stepped with
  | @register other fresh =>
      have different : id ≠ other := by
        intro same
        subst other
        simp [fresh] at joined
      exact handsAtMost_register invariant different
  | deregister =>
      exact handsAtMost_deregister relay id _
  | publish =>
      exact handsAtMost_publish invariant id _ _
  | publishFile =>
      exact handsAtMost_publishFile invariant id _ _
  | welcome known notStarted accepted =>
      exact handsAtMost_setConnection known rfl
  | reject known running sent =>
      exact handsAtMost_setConnection known rfl
  | write known running turn =>
      exact handsAtMost_write invariant known (turnTakes_of_writerTurn turn)
  | idle =>
      exact handsAtMost_of_unchanged rfl rfl rfl
  | exit hub others known ack sent notHub =>
      exact handsAtMost_exit invariant others known sent

/-- What a connection has been handed since it registered, in any run. -/
def HandedInOrder
    (relay : Relay)
    (id : Uuid)
    (past : List RelayAction) : Prop :=
  ∃ before after,
    past = before ++ .process (.register id id id) :: after ∧
      (relay.handedClips id).Sublist (clipsOfOthers id after) ∧
      (relay.handedFiles id).Sublist (chunksOfOthers id after)

private theorem HandedInOrder.step
    {relay next : Relay}
    {id : Uuid}
    {past : List RelayAction}
    {action : RelayAction}
    (handed : relay.HandedInOrder id past)
    (added : HandsAtMost relay next id action) :
    next.HandedInOrder id (past ++ [action]) := by
  rcases handed with ⟨before, after, rfl, clips, files⟩
  refine ⟨before, after ++ [action], by simp, ?_, ?_⟩
  · rw [clipsOfOthers_snoc]
    exact added.clips.trans (clips.append_right _)
  · rw [chunksOfOthers_snoc]
    exact added.files.trans (files.append_right _)

theorem handedInOrder_of_run
    {maxClients : Nat}
    {stats : Option UInt64}
    {actions : List RelayAction}
    {final : Relay}
    (ran : StepRun.run? step? (start maxClients stats) actions = some final)
    {id : Uuid}
    (joined : (final.connections id).isSome) :
    final.HandedInOrder id actions := by
  refine StepRun.run?_history
    (motive := fun past relay =>
      (relay.connections id).isSome → relay.HandedInOrder id past)
    (fun known => by cases known) ?_ ran joined
  rintro past relay action next - reached holds stepped known
  have invariant := invariant_of_run reached
  by_cases before : (relay.connections id).isSome
  · exact (holds before).step
      (step?_handsAtMost invariant stepped before)
  · obtain ⟨rfl, rfl⟩ := (known_of_step stepped known).resolve_left before
    have fresh : relay.connections id = none := by
      simpa using before
    obtain ⟨clips, files⟩ := registerConnection_handed invariant fresh
    refine ⟨past, [], by simp, ?_, ?_⟩
    · rw [clips]
      exact List.nil_sublist _
    · rw [files]
      exact List.nil_sublist _

/--
One order for all clients.  In every run, whatever queues overflow and
whichever writers end, what any connection has sent and what still waits for
it is a subsequence of what the other clients have published since the
connection registered: in that order, nothing twice and nothing of its own.
-/
theorem handed_in_one_order
    {maxClients : Nat}
    {stats : Option UInt64}
    {actions : List RelayAction}
    {final : Relay}
    {id : Uuid}
    {connection : Connection}
    (ran : StepRun.run? step? (start maxClients stats) actions = some final)
    (known : final.connections id = some connection) :
    ∃ before after,
      actions = before ++ .process (.register id id id) :: after ∧
        (connection.sent.filterMap Frame.clip? ++
            (final.mail.clip id).buffer).Sublist
          (clipsOfOthers id after) ∧
        (connection.sent.filterMap Frame.fileChunk? ++
            (final.mail.file id).buffer).Sublist
          (chunksOfOthers id after) := by
  have joined : (final.connections id).isSome := by
    simp [known]
  have handed := handedInOrder_of_run ran joined
  simpa only [HandedInOrder, handedClips, handedFiles, sentFrames, known]
    using handed

/-- The second client reads one clip, and its socket breaks before the next. -/
def brokenReader : List RelayAction :=
  [.process (.register ⟨1⟩ ⟨1⟩ ⟨1⟩),
    .process (.register ⟨2⟩ ⟨2⟩ ⟨2⟩), .welcome ⟨2⟩,
    .process (.publish ⟨1⟩ (.text ⟨10⟩ 0 "read")),
    .process (.publish ⟨2⟩ (.text ⟨11⟩ 1 "own")),
    .write ⟨2⟩, .write ⟨2⟩,
    .process (.publish ⟨1⟩ (.text ⟨12⟩ 2 "lost")), .writeFails ⟨2⟩,
    .process (.publish ⟨1⟩ (.text ⟨13⟩ 3 "late"))]

/-- The server after the reader of the sample is gone. -/
def afterBrokenReader : Relay :=
  (StepRun.run? step? (start 2 none) brokenReader).get (by decide)

/-- The connection of the reader of the sample at its end. -/
def brokenConnection : Connection :=
  (afterBrokenReader.connections ⟨2⟩).get (by decide)

/-- On the sample one clip has gone out, and the two later ones are lost. -/
theorem handed_in_one_order_sample :
    ∃ before after,
      brokenReader =
          before ++ .process (.register ⟨2⟩ ⟨2⟩ ⟨2⟩) :: after ∧
        (brokenConnection.sent.filterMap Frame.clip? ++
            (afterBrokenReader.mail.clip ⟨2⟩).buffer).Sublist
          (clipsOfOthers ⟨2⟩ after) ∧
        (brokenConnection.sent.filterMap Frame.fileChunk? ++
            (afterBrokenReader.mail.file ⟨2⟩).buffer).Sublist
          (chunksOfOthers ⟨2⟩ after) :=
  handed_in_one_order
    (Option.some_get _).symm
    (Option.some_get _).symm

end Relay

end ClipboardWire
