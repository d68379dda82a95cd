import ClipboardWire.HubOrder
import ClipboardWire.HubSlowPeer

namespace ClipboardWire

open BoundedChannel

/-!
# The clips that a connection carries

A connection carries a cached clip in its welcome and published clips after
it.  The cached clip was published before the connection registered and the
others after that, so all of them together are in the order of their
publication, too.
-/

/-- The clip that a frame carries to a client. -/
def Frame.carried? : Frame → Option ClipFrame
  | .clip frame => some frame
  | .welcome frame => frame.lastClip
  | .error _ | .fileChunk _ => none

/-- The clips that a writer has sent or is to send ahead of the queue. -/
def Connection.carried (connection : Connection) : List ClipFrame :=
  connection.sent.filterMap Frame.carried? ++
    match connection.writer with
    | .notStarted => connection.ack.lastClip?.toList
    | .running => connection.internal.buffer.filterMap Frame.carried?
    | .exited => []

namespace Relay

/-- The clips that a connection has carried or is still to carry. -/
def carriedClips (relay : Relay) (id : Uuid) : List ClipFrame :=
  (relay.connections id).elim [] Connection.carried ++
    (relay.mail.clip id).buffer

private theorem carriedClips_of_unchanged
    {relay next : Relay}
    {id : Uuid}
    (connection : next.connections id = relay.connections id)
    (queue : (next.mail.clip id).buffer = (relay.mail.clip id).buffer) :
    next.carriedClips id = relay.carriedClips id := by
  rw [carriedClips, connection, queue, carriedClips]

private theorem carriedClips_setConnection
    {relay : Relay}
    {id other : Uuid}
    {connection changed : Connection}
    (known : relay.connections other = some connection)
    (carried : changed.carried = connection.carried) :
    (relay.setConnection other changed).carriedClips id =
      relay.carriedClips id := by
  by_cases same : id = other
  · subst other
    simp [carriedClips, setConnection, known, carried]
  · exact carriedClips_of_unchanged (relay.setConnection_other _ same) rfl

/-- The welcome of a connection carries what its acknowledgement says. -/
private theorem carried_welcomed
    {relay : Relay}
    (invariant : relay.Invariant)
    {id : Uuid}
    {connection : Connection}
    {lastClip : Option ClipFrame}
    (known : relay.connections id = some connection)
    (notStarted : connection.writer = .notStarted)
    (accepted : connection.ack = .accepted lastClip) :
    Connection.carried
        { connection with
          internal := connection.internal.offer (welcomeFrame id lastClip)
          writer := .running } =
      connection.carried := by
  obtain ⟨nothingSent, initial⟩ := invariant.fresh known notStarted
  have queued :
      (connection.internal.offer (welcomeFrame id lastClip)).buffer =
        [welcomeFrame id lastClip] := by
    rw [initial]
    rfl
  simp only [Connection.carried, notStarted, accepted, nothingSent, queued]
  cases lastClip <;> rfl

private theorem carriedClips_write
    {relay : Relay}
    {id writer : Uuid}
    {connection : Connection}
    {frame : Frame}
    {internal : Channel Frame}
    {clips : Channel ClipFrame}
    {files : Channel FileChunkFrame}
    (known : relay.connections writer = some connection)
    (running : connection.writer = .running)
    (takes :
      TurnTakes connection.internal
        (relay.mail.clip writer) (relay.mail.file writer)
        frame internal clips files) :
    ((relay.setConnection writer
        { connection with
          internal := internal
          sent := connection.sent ++ [frame] }).setChannels
      writer clips files).carriedClips id =
      relay.carriedClips id := by
  by_cases same : id = writer
  · subst writer
    simp only [carriedClips, Connection.carried, setChannels, setConnection,
      known, running, Function.update_self, Option.elim_some,
      List.filterMap_append, List.append_assoc]
    congr 1
    cases takes with
    | control head =>
        rw [head]
        cases carries : frame.carried? <;> simp [carries]
    | clip noControl head =>
        rw [noControl, head]
        rfl
    | file noControl noClip head =>
        rfl
  · refine carriedClips_of_unchanged ?_ ?_
    · simp [setChannels, setConnection, same]
    · simp [setChannels, setConnection, same]

private theorem carriedClips_exit
    {relay middle : Relay}
    {id other : Uuid}
    {before connection : Connection}
    (others :
      ∀ peer, peer ≠ other →
        middle.connections peer = relay.connections peer ∧
          middle.mail.clip peer = relay.mail.clip peer ∧
          middle.mail.file peer = relay.mail.file peer)
    (known : relay.connections other = some before)
    (sent :
      connection.sent = before.sent ∨
        ∃ frame,
          before.writer = .running ∧
            before.internal.buffer.head? = some frame ∧
            connection.sent = before.sent ++ [frame]) :
    ((middle.exitWriter other connection).carriedClips id).Sublist
      (relay.carriedClips id) := by
  by_cases same : id = other
  · subst other
    simp only [carriedClips, Connection.carried, exitWriter, setChannels,
      setConnection, known, Function.update_self, Option.elim_some,
      Channel.buffer_dropReceiver, List.append_nil]
    rcases sent with isSame | ⟨frame, running, head, isLonger⟩
    · rw [isSame, List.append_assoc]
      exact List.sublist_append_left _ _
    · obtain ⟨rest, queued⟩ := List.head?_eq_some_iff.mp head
      rw [isLonger, running, queued, List.filterMap_append,
        List.append_assoc]
      refine (List.Sublist.refl _).append ?_
      refine List.Sublist.trans ?_ (List.sublist_append_left _ _)
      exact (List.singleton_sublist.mpr List.mem_cons_self).filterMap _
  · have unchanged :
        (middle.exitWriter other connection).carriedClips id =
          relay.carriedClips id := by
      refine carriedClips_of_unchanged ?_ ?_
      · simp [exitWriter, setChannels, setConnection, same,
          (others id same).1]
      · simp [exitWriter, setChannels, setConnection, same,
          (others id same).2.1]
    exact unchanged ▸ List.Sublist.refl _

private theorem carriedClips_publish
    {relay : Relay}
    (invariant : relay.Invariant)
    (id sender : Uuid)
    (clip : ClipFrame) :
    ((relay.handleMessage (.publish sender clip)).carriedClips id).Sublist
      (relay.carriedClips id ++
        (RelayAction.clipFor id
          (.process (.publish sender clip))).toList) := by
  have queue := Hub.handle_publish_clip invariant.own relay.mail sender id clip
  simp only [carriedClips, handleMessage, List.append_assoc] at *
  apply List.Sublist.append_left
  rw [queue]
  by_cases isSender : sender = id
  · simp [isSender]
  · split
    · simpa [RelayAction.clipFor, isSender] using
        Channel.buffer_offer_sublist (relay.mail.clip id) _
    · exact List.sublist_append_left _ _

/-- One step adds at most what the action publishes. -/
theorem step?_carriesAtMost
    {relay next : Relay}
    {action : RelayAction}
    {id : Uuid}
    (invariant : relay.Invariant)
    (stepped : relay.step? action = some next)
    (joined : (relay.connections id).isSome) :
    (next.carriedClips id).Sublist
      (relay.carriedClips id ++ (action.clipFor id).toList) := by
  have unchanged (same : next.carriedClips id = relay.carriedClips id) :
      (next.carriedClips id).Sublist
        (relay.carriedClips id ++ (action.clipFor id).toList) :=
    same ▸ List.sublist_append_left _ _
  cases relayStep_of_step? stepped with
  | @register other fresh =>
      have different : id ≠ other := by
        intro same
        subst other
        simp [fresh] at joined
      refine unchanged (carriedClips_of_unchanged ?_ ?_)
      · simp [registerConnection, different]
      · rw [(channels_register invariant different).1]
  | @deregister other =>
      exact unchanged
        (carriedClips_of_unchanged rfl (buffers_deregister relay id other).1)
  | publish =>
      exact carriedClips_publish invariant id _ _
  | publishFile =>
      exact unchanged (carriedClips_of_unchanged rfl rfl)
  | welcome known notStarted accepted =>
      exact unchanged
        (carriedClips_setConnection known
          (carried_welcomed invariant known notStarted accepted))
  | @reject other connection error internal known running sent =>
      refine unchanged (carriedClips_setConnection known ?_)
      obtain ⟨room, -, rfl⟩ := Channel.trySend_eq_ok.mp sent
      simp [Connection.carried, running, Frame.carried?]
  | write known running turn =>
      exact unchanged
        (carriedClips_write known running (turnTakes_of_writerTurn turn))
  | idle =>
      exact unchanged rfl
  | exit hub others known ack sent notHub =>
      exact (carriedClips_exit others known sent).trans
        (List.sublist_append_left _ _)

private theorem carriedClips_register
    {relay : Relay}
    (invariant : relay.Invariant)
    {id : Uuid}
    (fresh : relay.connections id = none) :
    ((relay.registerConnection id).carriedClips id).Sublist
      relay.hub.lastClip.toList := by
  have absent : relay.hub.clients.lookup id = none := by
    rw [AList.lookup_eq_none]
    intro before
    have known := invariant.known before
    simp [fresh] at known
  by_cases atCapacity : relay.hub.maxClients ≤ relay.hub.clientCount
  · simp [carriedClips, Connection.carried, registerConnection, Hub.handle,
      setChannels, atCapacity, Mailboxes.dropSenders,
      RegisterResult.lastClip?]
  · simp [carriedClips, Connection.carried, registerConnection, Hub.handle,
      setChannels, atCapacity, absent, RegisterResult.lastClip?]

/-- What a client should get from an action is what the action publishes. -/
theorem clipFor_sublist (id : Uuid) (action : RelayAction) :
    (action.clipFor id).toList.Sublist action.published?.toList := by
  unfold RelayAction.clipFor RelayAction.published?
  split
  · split
    · exact List.nil_sublist _
    · exact List.Sublist.refl _
  · exact List.nil_sublist _

/-- A connection carries published clips, each once and in their order. -/
theorem carried_sublist_published
    {maxClients : Nat}
    {stats : Option UInt64}
    {actions : List RelayAction}
    {final : Relay}
    {id : Uuid}
    (ran : StepRun.run? step? (start maxClients stats) actions = some final)
    (joined : (final.connections id).isSome) :
    (final.carriedClips id).Sublist
      (actions.filterMap RelayAction.published?) := by
  refine StepRun.run?_history
    (motive := fun past relay =>
      (relay.connections id).isSome →
        (relay.carriedClips id).Sublist
          (past.filterMap RelayAction.published?))
    (fun known => by cases known) ?_ ran joined
  rintro past relay action next - reached holds stepped known
  have invariant := invariant_of_run reached
  have published :
      (past ++ [action]).filterMap RelayAction.published? =
        past.filterMap RelayAction.published? ++
          action.published?.toList := by
    rw [List.filterMap_append]
    cases publishes : action.published? <;> simp [publishes]
  by_cases before : (relay.connections id).isSome
  · rw [published]
    exact
      (step?_carriesAtMost invariant stepped before).trans
        ((holds before).append (clipFor_sublist id action))
  · obtain ⟨rfl, rfl⟩ := (known_of_step stepped known).resolve_left before
    have fresh : relay.connections id = none := by
      simpa using before
    have cached :
        relay.hub.lastClip.toList.Sublist
          (past.filterMap RelayAction.published?) := by
      rw [lastClip_eq_lastPublished reached, lastPublished]
      cases last : (past.filterMap RelayAction.published?).getLast? with
      | none =>
          exact List.nil_sublist _
      | some clip =>
          exact List.singleton_sublist.mpr (List.mem_of_getLast? last)
    rw [published]
    exact
      ((carriedClips_register invariant fresh).trans cached).trans
        (List.sublist_append_left _ _)

end Relay

end ClipboardWire
